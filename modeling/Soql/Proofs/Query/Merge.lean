import Soql.Template.Merge
import Soql.Proofs.Query.Plan
import Soql.Proofs.Template.Renumber

/-!
This module contains the compilation of merged templates: their query is put together from the
queries of the two, and no placeholder is bound to an argument of the other template.
-/

namespace Soql
namespace Plan

variable (bindings bindings' : List (Value × Text))

theorem substitute_append_left {p : Placeholder} (h : p.index.toNat < bindings.length) :
    substitute (bindings ++ bindings') p = substitute bindings p := by
  unfold substitute
  rw [List.getElem?_append_left h]

theorem substitute_append_right {p : Placeholder} (h : 0 ≤ p.index) :
    substitute (bindings ++ bindings') (p.shift bindings.length) = substitute bindings' p := by
  have hindex : (p.index + bindings.length).toNat = p.index.toNat + bindings.length := by omega
  unfold substitute Placeholder.shift
  dsimp
  rw [hindex, List.getElem?_append_right (by omega), Nat.add_sub_cancel]

theorem fill_append_left {ts : List Token}
    (h : ∀ p ∈ Token.holes ts, p.index.toNat < bindings.length)
    : fill (bindings ++ bindings') ts = fill bindings ts := by
  induction ts with
  | nil => rfl
  | cons t ts ih =>
    cases t with
    | char c =>
      rw [fill, fill, ih h]
    | hole p =>
      rw [fill, fill, substitute_append_left bindings bindings' (h p (by simp))]
      rw [ih (by intro q hq; exact h q (by simp [hq]))]

theorem fill_append_right {ts : List Token} (h : ∀ p ∈ Token.holes ts, 0 ≤ p.index) :
    fill (bindings ++ bindings') (ts.map (Token.shift bindings.length)) = fill bindings' ts := by
  induction ts with
  | nil => rfl
  | cons t ts ih =>
    cases t with
    | char c =>
      rw [List.map_cons, Token.shift, fill, fill, ih h]
    | hole p =>
      rw [List.map_cons, Token.shift, fill, fill]
      rw [substitute_append_right bindings bindings' (h p (by simp))]
      rw [ih (by intro q hq; exact h q (by simp [hq]))]

end Plan

namespace Token

theorem renderAll_isEmpty (ts : List Token) : (renderAll ts).isEmpty = ts.isEmpty := by
  cases ts with
  | nil => rfl
  | cons t ts =>
    rw [renderAll_cons]
    cases t with
    | char c =>
      rw [render_char]
      split <;> rfl
    | hole p => rfl

theorem headIs_map_shift (offset : Int) (ts : List Token) :
    headIs isBlank (ts.map (shift offset)) = headIs isBlank ts := by
  cases ts with
  | nil => rfl
  | cons t ts => simp [isBlank_shift]

theorem isValid_map_shift_of_lt {ts : List Token} (h : IsValid ts) {offset supplied : Nat}
    (hindex : ∀ p ∈ holes ts, p.index < supplied)
    (hcount : offset + supplied ≤ Nat.pow 10 maxDecimalDigits)
    : IsValid (ts.map (shift offset)) := by
  apply isValid_map_shift h
  . omega
  . unfold isWritable
    rw [List.all_eq_true]
    intro q hq
    rw [holes_map_shift, List.mem_map] at hq
    obtain ⟨p, hp, rfl⟩ := hq
    obtain ⟨n, hn⟩ := Int.eq_ofNat_of_zero_le (h p hp).index_nonneg
    have hlt := hindex p hp
    simp only [Placeholder.shift, hn] at *
    rw [← Int.natCast_add, isWritable_natCast]
    omega

end Token

namespace Plan

theorem layout_append (keepBlanks : Bool) (ts us : List Token) :
    layout keepBlanks (ts ++ us)
      = layout keepBlanks ts
        ++ (if !keepBlanks && Token.isSpaced ts us then [.char ' '] else [])
        ++ layout keepBlanks us := by
  unfold layout
  cases keepBlanks with
  | true => simp
  | false => exact Token.tidy_append ts us

theorem layout_map_shift (keepBlanks : Bool) (offset : Int) (ts : List Token) :
    layout keepBlanks (ts.map (Token.shift offset))
      = (layout keepBlanks ts).map (Token.shift offset) := by
  unfold layout
  cases keepBlanks with
  | true => rfl
  | false => exact Token.tidy_map_shift offset ts

variable {bindings bindings' : List (Value × Text)}

theorem fill_layout_append {keepBlanks : Bool} {ts us : List Token} {text text' : Text}
    (hts : ∀ p ∈ Token.holes ts, p.index.toNat < bindings.length)
    (hus : ∀ p ∈ Token.holes us, 0 ≤ p.index)
    (htext : fill bindings (layout keepBlanks ts) = .ok text)
    (htext' : fill bindings' (layout keepBlanks us) = .ok text')
    : fill (bindings ++ bindings')
          (layout keepBlanks (ts ++ us.map (Token.shift bindings.length)))
        = .ok (text
          ++ (if !keepBlanks && Token.isSpaced ts (us.map (Token.shift bindings.length))
            then [.char ' '] else [])
          ++ text') := by
  rw [layout_append, fill_append, fill_append]
  rw [fill_append_left bindings bindings' (by rw [holes_layout]; exact hts), htext, ok_bind]
  rw [layout_map_shift, fill_append_right bindings bindings' (by rw [holes_layout]; exact hus)]
  rw [htext']
  split <;> rfl

end Plan

namespace Template

theorem merge_eq {a b : Template} {as bs : List Segment} (ha : Segment.parse a.format = .ok as)
    (hb : Segment.parse b.format = .ok bs)
    (hvalid : Token.IsValid ((Segment.tokensAll bs).map (Token.shift a.arguments.length)))
    : a.merge b = .ok
        ⟨String.ofList (Token.renderAll (Segment.tokensAll as
            ++ (Segment.tokensAll bs).map (Token.shift a.arguments.length))),
          a.arguments ++ b.arguments⟩ := by
  have hwrite := Token.isWritable_of_isValid (Segment.isValid_of_parse ha)
  have hwrite' := Token.isWritable_of_isValid hvalid
  unfold merge
  rw [renumber_eq ha, renumber_eq hb, Token.map_shift_zero]
  rw [Token.write_eq_ok_iff.2 ⟨hwrite, rfl⟩, Token.write_eq_ok_iff.2 ⟨hwrite', rfl⟩]
  rw [Token.renderAll_append, String.ofList_append]
  rfl

theorem isValid_of_merge {a b merged : Template} (h : a.merge b = .ok merged) {bs : List Segment}
    (hb : Segment.parse b.format = .ok bs)
    : Token.IsValid ((Segment.tokensAll bs).map (Token.shift a.arguments.length)) := by
  obtain ⟨head, _, h⟩ := bind_eq_ok_iff.1 h
  obtain ⟨tail, htail, _⟩ := bind_eq_ok_iff.1 h
  obtain ⟨segments, hsegments, _, hvalid⟩ := (isRenumbered_of_renumber (by omega) htail).parsed
  rw [hb] at hsegments
  cases hsegments
  exact hvalid

def joint (a b : Template) (qa qb : CompiledQuery) : String :=
  if qa.format ≠ "" ∧ qb.format ≠ ""
      ∧ (lastIs Text.isBlank a.format.toList ∨ headIs Text.isBlank b.format.toList) then
    " "
  else
    ""

theorem ofList_renderAll_ne_empty_iff (ts : List Token) :
    String.ofList (Token.renderAll ts) ≠ "" ↔ (!ts.isEmpty) = true := by
  rw [← Token.renderAll_isEmpty]
  cases Token.renderAll ts <;> simp

theorem joint_eq {a b : Template} {as bs : List Segment} (ha : Segment.parse a.format = .ok as)
    (hb : Segment.parse b.format = .ok bs) (offset : Int) (query query' : Text)
    : joint a b ⟨(Plan.ofSegments false a.format as).format, query⟩
        ⟨(Plan.ofSegments false b.format bs).format, query'⟩
      = if Token.isSpaced (Segment.tokensAll as) ((Segment.tokensAll bs).map (Token.shift offset))
        then " " else "" := by
  unfold joint Token.isSpaced Plan.ofSegments
  simp only [Bool.false_eq_true, ↓reduceIte, ofList_renderAll_ne_empty_iff]
  rw [Token.tidy_map_shift, List.isEmpty_map, Token.headIs_map_shift]
  rw [(Segment.isReadFrom_of_parse ha).lastIs_eq, (Segment.isReadFrom_of_parse hb).headIs_eq]
  simp only [Bool.and_eq_true, Bool.or_eq_true, and_assoc]

variable {a b : Template} {keepBlanks : Bool} {as bs : List Segment} {ea eb : List Text}
  {xa xb : Text}

theorem IsCompilation.index_nonneg (h : a.IsCompilation keepBlanks as ea xa) :
    ∀ p ∈ Token.holes (Segment.tokensAll as), 0 ≤ p.index := by
  intro p hp
  exact (Segment.isValid_of_parse h.parsed p hp).index_nonneg

theorem exists_merge (ha : a.IsCompilation keepBlanks as ea xa)
    (hb : b.IsCompilation keepBlanks bs eb xb)
    (hcount : a.arguments.length + b.arguments.length ≤ Nat.pow 10 maxDecimalDigits)
    : ∃ merged, a.merge b = .ok merged := by
  have hvalid := Segment.isValid_of_parse hb.parsed
  refine ⟨_, merge_eq ha.parsed hb.parsed ?_⟩
  exact Token.isValid_map_shift_of_lt hvalid hb.supplied hcount

def mergedTokens (as bs : List Segment) (offset : Nat) : List Token :=
  Segment.tokensAll as ++ (Segment.tokensAll bs).map (Token.shift offset)

theorem exists_parse_of_merge {a b merged : Template} (h : a.merge b = .ok merged) :
    ∃ as bs, Segment.parse a.format = .ok as ∧ Segment.parse b.format = .ok bs
      ∧ Segment.parse merged.format
        = .ok (Segment.ofTokens (mergedTokens as bs a.arguments.length)) := by
  obtain ⟨head, hhead, h'⟩ := bind_eq_ok_iff.1 h
  obtain ⟨tail, htail, _⟩ := bind_eq_ok_iff.1 h'
  obtain ⟨as, ha, _⟩ := bind_eq_ok_iff.1 hhead
  obtain ⟨bs, hb, _⟩ := bind_eq_ok_iff.1 htail
  have hshifted := isValid_of_merge h hb
  rw [merge_eq ha hb hshifted] at h
  cases h
  refine ⟨as, bs, ha, hb, ?_⟩
  apply Segment.parse_renderAll
  exact Token.isValid_append.2 ⟨Segment.isValid_of_parse ha, hshifted⟩

theorem IsCompilation.merge (ha : a.IsCompilation keepBlanks as ea xa)
    (hb : b.IsCompilation keepBlanks bs eb xb)
    (hshifted : Token.IsValid ((Segment.tokensAll bs).map (Token.shift a.arguments.length)))
    : let ts := mergedTokens as bs a.arguments.length
      let spaced := Token.isSpaced (Segment.tokensAll as)
        ((Segment.tokensAll bs).map (Token.shift a.arguments.length))
      IsCompilation keepBlanks ⟨String.ofList (Token.renderAll ts), a.arguments ++ b.arguments⟩
        (Segment.ofTokens ts) (ea ++ eb)
        (xa ++ (if !keepBlanks && spaced then [.char ' '] else []) ++ xb) := by
  intro ts spaced
  have hlength : (a.arguments.zip ea).length = a.arguments.length := by
    simp [length_escapeAll ha.escaped_eq]
  constructor
  . apply Segment.parse_renderAll
    exact Token.isValid_append.2 ⟨Segment.isValid_of_parse ha.parsed, hshifted⟩
  . rw [Segment.tokensAll_ofTokens]
    unfold ts mergedTokens
    rw [Token.holes_append, Token.holes_map_shift, List.length_append]
    intro p hp
    rw [List.mem_append, List.mem_map] at hp
    rcases hp with hp | ⟨q, hq, rfl⟩
    . have := ha.supplied p hp
      omega
    . have := hb.supplied q hq
      simp only [Placeholder.shift]
      omega
  . rw [escapeAll_append, ha.escaped_eq, hb.escaped_eq]
    rfl
  . rw [Segment.tokensAll_ofTokens, List.zip_append (length_escapeAll ha.escaped_eq).symm]
    unfold ts spaced mergedTokens
    rw [← hlength]
    apply Plan.fill_layout_append
    . intro p hp
      have := ha.supplied p hp
      have := ha.index_nonneg p hp
      omega
    . exact hb.index_nonneg
    . exact ha.filled
    . exact hb.filled

theorem format_ofSegments_mergedTokens (format : String) (as bs : List Segment) (offset : Nat) :
    (Plan.ofSegments false format (Segment.ofTokens (mergedTokens as bs offset))).format
      = String.ofList (Token.renderAll (Token.tidy (Segment.tokensAll as)))
        ++ (if Token.isSpaced (Segment.tokensAll as)
            ((Segment.tokensAll bs).map (Token.shift offset)) then " " else "")
        ++ String.ofList (Token.renderAll
            ((Token.tidy (Segment.tokensAll bs)).map (Token.shift offset))) := by
  unfold Plan.ofSegments mergedTokens
  simp only [Bool.false_eq_true, ↓reduceIte]
  rw [Segment.tokensAll_ofTokens, Token.tidy_append, Token.tidy_map_shift]
  rw [Token.renderAll_append, Token.renderAll_append]
  rw [String.ofList_append, String.ofList_append]
  split <;> rfl

theorem compile_of_merge {a b merged : Template} {keepBlanks : Bool} {qa qb : CompiledQuery}
    (hqa : a.compile keepBlanks = .ok qa) (hqb : b.compile keepBlanks = .ok qb)
    (hmerge : a.merge b = .ok merged)
    : ∃ q, merged.compile keepBlanks = .ok q
        ∧ q.finalQuery
          = qa.finalQuery ++ (if keepBlanks then [] else Text.ofString (joint a b qa qb))
            ++ qb.finalQuery
        ∧ (keepBlanks = false → ∃ tail, renumber qb.format a.arguments.length = .ok tail
            ∧ q.format = qa.format ++ joint a b qa qb ++ tail) := by
  obtain ⟨as, ea, xa, ha, rfl⟩ := compile_eq_ok_iff.1 hqa
  obtain ⟨bs, eb, xb, hb, rfl⟩ := compile_eq_ok_iff.1 hqb
  have hshifted := isValid_of_merge hmerge hb.parsed
  rw [merge_eq ha.parsed hb.parsed hshifted] at hmerge
  cases hmerge
  refine ⟨_, compile_eq_ok_iff.2 ⟨_, _, _, ha.merge hb hshifted, rfl⟩, ?_, ?_⟩
  . cases keepBlanks with
    | true => simp
    | false =>
      rw [joint_eq ha.parsed hb.parsed a.arguments.length]
      simp only [Bool.not_false, Bool.true_and, Bool.false_eq_true, ↓reduceIte]
      split <;> rfl
  . intro hkeep
    subst hkeep
    rw [joint_eq ha.parsed hb.parsed a.arguments.length]
    dsimp only
    rw [format_ofSegments_mergedTokens, Plan.format_ofSegments_false]
    refine ⟨_, ?_, rfl⟩
    have hvalid := Token.isValid_tidy (Segment.isValid_of_parse hb.parsed)
    rw [renumber_eq (Segment.parse_renderAll _ hvalid)]
    rw [Segment.tokensAll_ofTokens, Token.write_eq_ok_iff]
    refine ⟨?_, rfl⟩
    rw [← Token.tidy_map_shift]
    exact Token.isWritable_of_isValid (Token.isValid_tidy hshifted)

/--
Merged templates compile to the queries of the two, one behind the other, with at most a space
between them. The merge fails only where there are more arguments than positions can be written.
-/
theorem compile_merge {a b : Template} {keepBlanks : Bool} {qa qb : CompiledQuery}
    (hqa : a.compile keepBlanks = .ok qa) (hqb : b.compile keepBlanks = .ok qb)
    : (a.arguments.length + b.arguments.length ≤ Nat.pow 10 maxDecimalDigits
          → ∃ merged, a.merge b = .ok merged)
        ∧ ∀ merged, a.merge b = .ok merged
          → ∃ q, merged.compile keepBlanks = .ok q
            ∧ (keepBlanks = true → q.finalQuery = qa.finalQuery ++ qb.finalQuery)
            ∧ (keepBlanks = false
              → q.finalQuery = qa.finalQuery ++ Text.ofString (joint a b qa qb) ++ qb.finalQuery
                ∧ ∃ tail, renumber qb.format a.arguments.length = .ok tail
                  ∧ q.format = qa.format ++ joint a b qa qb ++ tail) := by
  constructor
  . intro hcount
    obtain ⟨_, _, _, ha, _⟩ := compile_eq_ok_iff.1 hqa
    obtain ⟨_, _, _, hb, _⟩ := compile_eq_ok_iff.1 hqb
    exact exists_merge ha hb hcount
  . intro merged hmerge
    obtain ⟨q, hq, hquery, hformat⟩ := compile_of_merge hqa hqb hmerge
    refine ⟨q, hq, ?_, ?_⟩
    . intro hkeep
      subst hkeep
      simpa using hquery
    . intro hkeep
      subst hkeep
      refine ⟨?_, hformat rfl⟩
      simpa using hquery

theorem compile_merge_filters :
    ∃ merged q,
      merge ⟨"A = \x7b0\x7d  ", [.text "x"]⟩ ⟨"  OR B < \x7b\x7d", [.int 5 none]⟩ = .ok merged
        ∧ merged.compile false = .ok q ∧ q.finalQuery = "A = 'x' OR B < 5" := by
  have ha : compile false ⟨"A = \x7b0\x7d  ", [.text "x"]⟩ = .ok ⟨"A = \x7b0\x7d", "A = 'x'"⟩ :=
    toOption_eq_some_iff.1 (by decide +kernel)
  have hb : compile false ⟨"  OR B < \x7b\x7d", [.int 5 none]⟩
      = .ok ⟨"OR B < \x7b0\x7d", "OR B < 5"⟩ :=
    toOption_eq_some_iff.1 (by decide +kernel)
  obtain ⟨hexists, hcompile⟩ := compile_merge ha hb
  obtain ⟨merged, hmerge⟩ := hexists (by decide +kernel)
  obtain ⟨q, hq, _, hfalse⟩ := hcompile merged hmerge
  refine ⟨merged, q, hmerge, hq, ?_⟩
  rw [(hfalse rfl).left]
  decide

end Template
end Soql
