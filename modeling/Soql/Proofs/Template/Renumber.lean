import Soql.Proofs.Template.Parse

/-!
This module contains the renumbering of format text as an operation on tokens, and how renumberings
compose.
-/

namespace Soql
namespace Token

def isWritable (ts : List Token) : Bool :=
  (holes ts).all fun p => Soql.isWritable p.index

def write (ts : List Token) : Except Error String :=
  if isWritable ts then .ok (String.ofList (renderAll ts)) else .error .integerTooLong

theorem write_eq_ok_iff {ts : List Token} {s : String} :
    write ts = .ok s ↔ isWritable ts = true ∧ String.ofList (renderAll ts) = s := by
  unfold write
  split
  . next h => simp [h]
  . next h => simp [h]

theorem isWritable_append (ts us : List Token) :
    isWritable (ts ++ us) = (isWritable ts && isWritable us) := by
  simp [isWritable]

theorem write_append (ts us : List Token) :
    write (ts ++ us) = do
      let head ← write ts
      let tail ← write us
      return head ++ tail := by
  unfold write
  rw [isWritable_append, renderAll_append, String.ofList_append]
  cases isWritable ts <;> cases isWritable us <;> rfl

theorem isWritable_of_isValid {ts : List Token} (h : IsValid ts) : isWritable ts = true := by
  unfold isWritable
  rw [List.all_eq_true]
  intro p hp
  exact (h p hp).index_isWritable

theorem isValid_map_shift_of_nonneg {ts : List Token} (h : IsValid ts) {offset : Int}
    (hnonneg : ∀ p ∈ holes ts, 0 ≤ p.index + offset)
    (hwritable : isWritable (ts.map (shift offset)) = true)
    : IsValid (ts.map (shift offset)) := by
  intro p hp
  rw [isWritable, List.all_eq_true] at hwritable
  have hindex := hwritable p hp
  rw [holes_map_shift, List.mem_map] at hp
  obtain ⟨q, hq, rfl⟩ := hp
  exact ⟨hnonneg q hq, hindex, (h q hq).spec_braceless⟩

theorem isValid_map_shift {ts : List Token} (h : IsValid ts) {offset : Int} (hoffset : 0 ≤ offset)
    (hwritable : isWritable (ts.map (shift offset)) = true)
    : IsValid (ts.map (shift offset)) := by
  apply isValid_map_shift_of_nonneg h _ hwritable
  intro p hp
  have := (h p hp).index_nonneg
  omega

theorem shift_zero (t : Token) : t.shift 0 = t := by
  cases t with
  | char c => rfl
  | hole p => simp [shift, Placeholder.shift]

theorem map_shift_zero (ts : List Token) : ts.map (shift 0) = ts := by
  rw [funext shift_zero, List.map_id']

theorem map_shift_map_shift (a b : Int) (ts : List Token) :
    (ts.map (shift a)).map (shift b) = ts.map (shift (a + b)) := by
  simp [shift_shift]

end Token

namespace Segment

theorem write_eq (segments : List Segment) : write segments = Token.write (tokensAll segments) := by
  unfold write Token.write renderAll
  rw [flatMap_render]
  have : isWritableAll segments = Token.isWritable (tokensAll segments) := by
    unfold isWritableAll Token.isWritable
    rw [indices_eq, List.all_map, Function.comp_def]
  rw [this]

end Segment

theorem renumber_eq {format : String} {segments : List Segment}
    (h : Segment.parse format = .ok segments) (offset : Int)
    : renumber format offset
        = Token.write ((Segment.tokensAll segments).map (Token.shift offset)) := by
  unfold renumber
  rw [h, ok_bind, Segment.write_eq, Segment.tokensAll_map_shift]

structure IsRenumbered (format : String) (offset : Int) (result : String) : Prop where
  parsed : ∃ segments, Segment.parse format = .ok segments
    ∧ result
      = String.ofList (Token.renderAll ((Segment.tokensAll segments).map (Token.shift offset)))
    ∧ Token.IsValid ((Segment.tokensAll segments).map (Token.shift offset))

theorem isRenumbered_of_renumber {format result : String} {offset : Int} (hoffset : 0 ≤ offset)
    (h : renumber format offset = .ok result) : IsRenumbered format offset result := by
  obtain ⟨segments, hparse, _⟩ := bind_eq_ok_iff.1 h
  rw [renumber_eq hparse, Token.write_eq_ok_iff] at h
  constructor
  refine ⟨segments, hparse, h.2.symm, ?_⟩
  exact Token.isValid_map_shift (Segment.isValid_of_parse hparse) hoffset h.1

theorem Token.isWritable_map_shift_of_le {ts : List Token} (hvalid : IsValid ts) {i j : Nat}
    (hij : i ≤ j) (h : isWritable (ts.map (shift j)) = true)
    : isWritable (ts.map (shift i)) = true := by
  unfold isWritable at *
  rw [holes_map_shift, List.all_map, List.all_eq_true] at *
  intro p hp
  have hindex := h p hp
  obtain ⟨n, hn⟩ := Int.eq_ofNat_of_zero_le (hvalid p hp).index_nonneg
  simp only [Function.comp_apply, Placeholder.shift, hn, ← Int.natCast_add] at *
  apply isWritable_of_le hindex
  omega

section

variable {format result : String} {segments : List Segment} {offset : Int}
  (hparse : Segment.parse format = .ok segments)
  (hnonneg : ∀ index ∈ Segment.indices segments, 0 ≤ index + offset)
  (h : renumber format offset = .ok result)
include hparse hnonneg h

theorem parse_renumber : Segment.parse result = .ok (segments.map (Segment.shift offset)) := by
  have hread := Segment.isReadFrom_of_parse hparse
  rw [renumber_eq hparse, Token.write_eq_ok_iff] at h
  obtain ⟨hwritable, rfl⟩ := h
  have hvalid := Token.isValid_map_shift_of_nonneg hread.isValid (by
    intro p hp
    apply hnonneg
    rw [Segment.indices_eq]
    exact List.mem_map_of_mem hp) hwritable
  rw [Segment.parse_renderAll _ hvalid, Segment.ofTokens_map_shift, hread.ofTokens_eq]

theorem renumber_renumber (offset' : Int) :
    renumber result offset' = renumber format (offset + offset') := by
  rw [renumber_eq (parse_renumber hparse hnonneg h), renumber_eq hparse]
  rw [Segment.tokensAll_map_shift, Token.map_shift_map_shift]

end

theorem exists_renumber_of_le {format result : String} {i j : Nat} (hij : i ≤ j)
    (h : renumber format j = .ok result) : ∃ result', renumber format i = .ok result' := by
  obtain ⟨segments, hparse, _⟩ := bind_eq_ok_iff.1 h
  have hvalid := Segment.isValid_of_parse hparse
  simp only [renumber_eq hparse, Token.write_eq_ok_iff] at *
  exact ⟨_, Token.isWritable_map_shift_of_le hvalid hij h.1, rfl⟩

theorem renumber_append {format format' head tail : String} {i j : Int} (hi : 0 ≤ i) (hj : 0 ≤ j)
    (hhead : renumber format i = .ok head) (htail : renumber format' j = .ok tail) (k : Int)
    : renumber (head ++ tail) k = do
        let head ← renumber format (i + k)
        let tail ← renumber format' (j + k)
        return head ++ tail := by
  obtain ⟨segments, hparse, hhead, hvalid⟩ := (isRenumbered_of_renumber hi hhead).parsed
  obtain ⟨segments', hparse', htail, hvalid'⟩ := (isRenumbered_of_renumber hj htail).parsed
  have happend : Segment.parse (head ++ tail)
      = .ok (Segment.ofTokens ((Segment.tokensAll segments).map (Token.shift i)
        ++ (Segment.tokensAll segments').map (Token.shift j))) := by
    rw [hhead, htail, ← String.ofList_append, ← Token.renderAll_append]
    apply Segment.parse_renderAll
    exact Token.isValid_append.2 ⟨hvalid, hvalid'⟩
  rw [renumber_eq happend, Segment.tokensAll_ofTokens]
  rw [List.map_append, Token.map_shift_map_shift, Token.map_shift_map_shift]
  rw [Token.write_append, renumber_eq hparse, renumber_eq hparse']

theorem Segment.indices_map_shift (offset : Int) (segments : List Segment) :
    indices (segments.map (shift offset)) = (indices segments).map (· + offset) := by
  unfold indices
  rw [List.filterMap_map, List.map_filterMap]
  congr 1
  funext s
  exact index?_shift offset s

/--
Renumbering adds the offset to every position and changes nothing else, and renumberings add up as
long as no position between them is negative.
-/
theorem renumber_adds_offset {format : String} {segments : List Segment}
    (h : Segment.parse format = .ok segments)
    : (∀ (k : Int) (result : String), 0 ≤ k → renumber format k = .ok result
        → Segment.parse result = .ok (segments.map (Segment.shift k))
          ∧ placeholderIndices result = (placeholderIndices format).map (List.map (· + k)))
      ∧ (∀ (a b : Int) (head result : String), (∀ index ∈ Segment.indices segments, 0 ≤ index + a)
        → renumber format a = .ok head → renumber format (a + b) = .ok result
        → renumber head b = .ok result)
      ∧ ∀ (k : Int) (result : String), (∀ index ∈ Segment.indices segments, 0 ≤ index + k)
        → renumber format k = .ok result
        → ∃ canonical, renumber format 0 = .ok canonical
          ∧ renumber result (-k) = .ok canonical := by
  have hvalid := Segment.isValid_of_parse h
  refine ⟨?_, ?_, ?_⟩
  . intro k result hk hresult
    have hnonneg : ∀ index ∈ Segment.indices segments, 0 ≤ index + k := by
      rw [Segment.indices_eq]
      intro index hindex
      obtain ⟨p, hp, rfl⟩ := List.mem_map.1 hindex
      have := (hvalid p hp).index_nonneg
      omega
    have hparse := parse_renumber h hnonneg hresult
    refine ⟨hparse, ?_⟩
    unfold placeholderIndices
    rw [hparse, h]
    exact congrArg Except.ok (Segment.indices_map_shift k segments)
  . intro a b head result hnonneg hhead hresult
    rw [renumber_renumber h hnonneg hhead, hresult]
  . intro k result hnonneg hresult
    have hcanonical : renumber format 0
        = .ok (String.ofList (Token.renderAll (Segment.tokensAll segments))) := by
      rw [renumber_eq h, Token.map_shift_zero, Token.write_eq_ok_iff]
      exact ⟨Token.isWritable_of_isValid hvalid, rfl⟩
    refine ⟨_, hcanonical, ?_⟩
    rw [renumber_renumber h hnonneg hresult, Int.add_right_neg, hcanonical]

theorem renumber_adds_offset_negative :
    Segment.parse "A=\x7b2\x7d \x7b\x7b\x7b3:>5\x7d"
        = .ok [⟨"A=".toList, some ⟨2, []⟩⟩, ⟨" \x7b".toList, none⟩, ⟨[], some ⟨3, ">5".toList⟩⟩]
      ∧ renumber "A=\x7b2\x7d \x7b\x7b\x7b3:>5\x7d" (-3) = .ok "A=\x7b-1\x7d \x7b\x7b\x7b0:>5\x7d"
      ∧ ∃ canonical, renumber "A=\x7b\x7d \x7b\x7b\x7b:>5\x7d" 0 = .ok canonical
        ∧ renumber "A=\x7b2\x7d \x7b\x7b\x7b3:>5\x7d" (-2) = .ok canonical := by
  have hparse : Segment.parse "A=\x7b\x7d \x7b\x7b\x7b:>5\x7d"
      = .ok [⟨"A=".toList, some ⟨0, []⟩⟩, ⟨" \x7b".toList, none⟩, ⟨[], some ⟨1, ">5".toList⟩⟩] :=
    toOption_eq_some_iff.1 (by decide +kernel)
  have hshifted : renumber "A=\x7b\x7d \x7b\x7b\x7b:>5\x7d" 2
      = .ok "A=\x7b2\x7d \x7b\x7b\x7b3:>5\x7d" :=
    toOption_eq_some_iff.1 (by decide +kernel)
  have hnegative : renumber "A=\x7b\x7d \x7b\x7b\x7b:>5\x7d" (2 + -3)
      = .ok "A=\x7b-1\x7d \x7b\x7b\x7b0:>5\x7d" :=
    toOption_eq_some_iff.1 (by decide +kernel)
  obtain ⟨hsegments, hsum, hback⟩ := renumber_adds_offset hparse
  refine ⟨(hsegments 2 _ (by decide) hshifted).1, ?_, ?_⟩
  . exact hsum 2 (-3) _ _ (by decide) hshifted hnegative
  . exact hback 2 _ (by decide) hshifted

end Soql
