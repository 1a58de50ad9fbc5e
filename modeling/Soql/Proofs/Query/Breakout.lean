import Soql.Proofs.Calendar.Pattern
import Soql.Proofs.Number.Formatting
import Soql.Proofs.Query.Parts

/-!
This module contains which numbers and points in time break out of the text around them when a
pattern lays them out: those that spell a quote or a backslash which the pattern does not have. An
integer does so as the character of its code point, a point in time by the name of its zone.
-/

namespace Soql
namespace Value

/--
Whether a pattern has a place where a value can put a character.
-/
def Spells (pattern : List Char) (q : Char) : Value → Prop
  | .int n _ => ['c'] <:+ pattern ∧ n = q.toNat
  | .dateTime d =>
    ['%', 'Z'] <:+: pattern ∧ ∃ name, d.zone.name? = some name ∧ q ∈ name.toList
  | _ => False

end Value

theorem hasPlain_bne {q : Char} (hq : isQuoteSpecial q = true) : HasPlain (· != q) := by
  intro c hc
  rw [bne_iff_ne]
  rintro rfl
  unfold isPlain at hc
  rw [hq] at hc
  cases hc

theorem madeOf_bne_iff {α : Type} [DecidableEq α] {a : α} {as : List α} :
    Text.MadeOf (· != a) as ↔ a ∉ as := by
  rw [Text.MadeOf.iff_forall_mem]
  constructor
  . intro h hmem
    exact bne_iff_ne.1 (h a hmem) rfl
  . intro h b hb
    rw [bne_iff_ne]
    rintro rfl
    exact h hb

namespace Text

theorem char_bne (c d : Char) : (Symbol.char c != .char d) = (c != d) := by
  rw [Bool.eq_iff_iff, bne_iff_ne, bne_iff_ne, ne_eq, Symbol.char.injEq]

theorem char_mem_ofChars_iff {c : Char} {cs : List Char} : .char c ∈ ofChars cs ↔ c ∈ cs := by
  simp [ofChars]

theorem singleton_suffix_of_ofChars {c : Char} {cs : List Char} (h : [.char c] <:+ ofChars cs) :
    [c] <:+ cs := by
  obtain ⟨front, hfront⟩ := h
  obtain ⟨ds, es, rfl, _, hes⟩ := List.append_eq_map_iff.1 hfront
  obtain rfl : es = [c] := ofChars_injective hes
  exact List.suffix_append ds [c]

end Text

namespace Value

theorem yields_of_laidOut {pattern kind : String} {x : Except PatternFailure Text} {t : Text}
    {R : Text → Prop} {Q : PatternFailure → Prop} (h : Yields R Q x)
    (ht : laidOut pattern kind x = .ok t) : R t := by
  cases h with
  | ok h =>
    cases ht
    exact h
  | @error failure _ => cases failure <;> cases ht

variable {pattern : String} {t : Text} {q : Char} (hq : isQuoteSpecial q = true)
include hq

theorem not_mem_of_isNumeric (h : Text.MadeOf Symbol.isNumeric t) : .char q ∉ t := by
  intro hmem
  have hnumeric : isNumeric q = true := Text.MadeOf.iff_forall_mem.1 h _ hmem
  exact bne_iff_ne.1 ((hasPlain_bne hq).hasNumerals q hnumeric) rfl

theorem spells_of_patterned {v : Value} (hpattern : q ∉ pattern.toList)
    (h : v.patterned? pattern = some (.ok t)) (hmem : .char q ∈ t)
    : v.Spells pattern.toList q := by
  have hP := hasPlain_bne hq
  have hP' : HasPlain fun c => Symbol.char c != .char q := by
    simpa only [Text.char_bne] using hP
  have hmade := madeOf_bne_iff.2 hpattern
  have hmade' : Text.MadeOf (· != .char q) (Text.ofString pattern) := by
    rw [madeOf_bne_iff, Text.ofString, Text.char_mem_ofChars_iff]
    exact hpattern
  have hfree (h : Text.MadeOf (· != .char q) t) : False := madeOf_bne_iff.1 h hmem
  have hfreeChars {s : String} (hs : Text.ofString s = t) (h : Text.MadeOf (· != q) s.toList) :
      False := by
    rw [← hs, Text.ofString, Text.char_mem_ofChars_iff] at hmem
    exact madeOf_bne_iff.1 h hmem
  cases v with
  | int n label =>
    have hresult := NumberPattern.formatInt_yields hP' hmade' "int" n
    rcases yields_of_laidOut hresult (Option.some.inj h) with ht | ⟨hcode, s, hs, hn⟩
    . exact (hfree ht).elim
    . rw [bne_eq_false_iff_eq] at hs
      subst hs
      exact ⟨Text.singleton_suffix_of_ofChars hcode, hn⟩
  | float x label =>
    simp only [patterned?] at h
    split at h
    . have hresult := NumberPattern.formatBinary_yields hP' hmade' (fun _ => True) x
      exact (hfree (yields_of_laidOut hresult (Option.some.inj h))).elim
    . cases h
  | decimal d =>
    simp only [patterned?] at h
    split at h
    . have hresult := NumberPattern.formatDecimal_yields hP' (fun _ => True) hmade' d
      exact (hfree (yields_of_laidOut hresult (Option.some.inj h))).elim
    . exact absurd hmem (not_mem_of_isNumeric hq (isNumeric_decimalLiteral (Option.some.inj h)))
  | date d =>
    rw [patterned?, Option.some.injEq, Except.ok.injEq] at h
    exact (hfreeChars h (Date.madeOf_format hP hmade)).elim
  | dateTime d =>
    rw [patterned?, Option.some.injEq, Except.ok.injEq] at h
    by_contra hspells
    apply hfreeChars h
    apply DateTime.madeOf_format hP hmade
    intro hzone name hname
    rw [madeOf_bne_iff]
    intro hq
    exact hspells ⟨hzone, name, hname, hq⟩
  | _ => cases h

end Value

/--
A quote or a backslash in the text of a number or a point in time comes from the pattern, or is
spelled by the value.
-/
theorem spells_of_mem_escapeWith {keepBlanks : Bool} {pattern : String} {t : Text} {v : Value}
    {q : Char} (hv : v.heedsPattern = true) (hq : isQuoteSpecial q = true)
    (hpattern : q ∉ pattern.toList) (h : escapeWith keepBlanks pattern v = .ok t)
    (hmem : .char q ∈ t)
    : v.Spells pattern.toList q := by
  unfold escapeWith at h
  split at h
  . exact absurd hmem (Value.not_mem_of_isNumeric hq (Value.isNumeric_of_escape hv h))
  . rw [← Value.isSome_patterned? pattern v, Option.isSome_iff_exists] at hv
    obtain ⟨x, hx⟩ := hv
    rw [hx, Option.getD_some] at h
    rw [h] at hx
    exact Value.spells_of_patterned hq hpattern hx hmem

theorem spells_of_mem_escapeWith_zoneName :
    ∃ d : DateTime, escapeWith false "%Z" (.dateTime d) = .ok "' OR 'x"
      ∧ (Value.dateTime d).Spells "%Z".toList '\'' := by
  let day : Date :=
    ⟨2024, 1, 31, by decide, by decide, by decide, by decide, by decide, by decide⟩
  let d : DateTime := ⟨day, .midnight, .fixed ⟨0, by decide⟩ (some "' OR 'x")⟩
  have h : escapeWith false "%Z" (.dateTime d) = .ok "' OR 'x" :=
    toOption_eq_some_iff.1 (by decide +kernel)
  exact ⟨d, h, spells_of_mem_escapeWith rfl rfl (by decide) h (by decide)⟩

theorem escapeWith_character_spells_quote : escapeWith false "c" (.int 39 none) = .ok "'" :=
  toOption_eq_some_iff.1 (by decide)

end Soql
