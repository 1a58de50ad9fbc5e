import Soql.Proofs.Template.Overlong

/-!
This module contains the grammar of format text, and that exactly the texts of it are read,
as what it says.
-/

namespace Soql

/--
A field as it is written: a numeral or nothing, an exclamation mark and NUL or nothing, and a
specifier behind a colon or nothing.
-/
structure Slot where
  name : List Char
  isMarked : Bool
  spec : Option (List Char)
  name_digits : ∀ c ∈ name, c.isDigit = true
  spec_braceless : ∀ c ∈ spec.getD [], isBrace c = false

inductive Item where
  | char (c : Char) (h : isBrace c = false)
  | brace (c : Char) (h : isBrace c = true)
  | slot (s : Slot)

namespace Slot

def mark (s : Slot) : List Char :=
  if s.isMarked then ['!', '\x00'] else []

def specText (s : Slot) : List Char :=
  (s.spec.map fun spec => ':' :: spec).getD []

def spell (s : Slot) : List Char :=
  '{' :: (s.name ++ s.mark ++ s.specText) ++ ['}']

def index (next : Nat) (s : Slot) : Nat :=
  if s.name.isEmpty then next else Nat.ofDigitChars 10 s.name 0

def placeholder (next : Nat) (s : Slot) : Placeholder :=
  ⟨s.index next, s.spec.getD []⟩

def toField (s : Slot) : Field :=
  ⟨s.name, none, s.spec.getD []⟩

theorem specText_isSpecText (s : Slot) : Piece.SpecText (s.spec.getD []) s.specText := by
  unfold specText
  cases s.spec with
  | none => exact .absent
  | some spec => exact .given spec

theorem mark_isConversionText (s : Slot) : Piece.ConversionText none s.mark := by
  unfold mark
  cases s.isMarked with
  | false => exact .absent
  | true => exact .given '\x00'

theorem scanFrom_spell_append (s : Slot) (cs : List Char) :
    Piece.scanFrom .literal (s.spell ++ cs)
      = (⟨[], some s.toField⟩ :: (Piece.scanFrom .literal cs).1,
        (Piece.scanFrom .literal cs).2) := by
  have hbody := Piece.scanFrom_body s.specText_isSpecText s.spec_braceless cs s.name_digits
    s.mark_isConversionText
  simpa [spell, toField] using hbody

end Slot

namespace Item

def spell : Item → List Char
  | char c _ => [c]
  | brace c _ => [c, c]
  | slot s => s.spell

def spellAll (items : List Item) : List Char :=
  items.flatMap spell

def slots : List Item → List Slot
  | [] => []
  | slot s :: items => s :: slots items
  | _ :: items => slots items

/--
What the items stand for, where the fields without a number are counted from `next` on.
-/
def tokens (next : Nat) : List Item → List Token
  | [] => []
  | char c _ :: items => .char c :: tokens next items
  | brace c _ :: items => .char c :: tokens next items
  | slot s :: items =>
    .hole (s.placeholder next) :: tokens (if s.name.isEmpty then next + 1 else next) items

def pieces : List Item → List Piece
  | [] => []
  | char c _ :: items => Piece.consLiteral c (pieces items)
  | brace c _ :: items => ⟨[c], none⟩ :: pieces items
  | slot s :: items => ⟨[], some s.toField⟩ :: pieces items

theorem scan_spellAll (items : List Item) : Piece.scan (spellAll items) = (pieces items, none) := by
  unfold Piece.scan
  induction items with
  | nil => rfl
  | cons item items ih =>
    unfold spellAll at *
    rw [List.flatMap_cons]
    cases item with
    | char c h =>
      rw [spell, List.singleton_append, Piece.scanFrom_char h, ih, pieces]
      cases pieces items <;> rfl
    | brace c h =>
      rw [spell, List.cons_append, List.singleton_append, Piece.scanFrom_brace h, ih]
      rfl
    | slot s =>
      rw [spell, s.scanFrom_spell_append, ih]
      rfl

theorem fields_pieces (items : List Item) :
    Piece.fields (pieces items) = (slots items).map Slot.toField := by
  induction items with
  | nil => rfl
  | cons item items ih =>
    cases item with
    | char c h =>
      rw [pieces, Piece.fields_consLiteral, ih]
      simp [slots]
    | brace c h =>
      rw [pieces, Piece.fields_none, ih]
      simp [slots]
    | slot s => rw [pieces, Piece.fields_some, ih, slots, List.map_cons]

end Item

namespace Segment
namespace Numbering

def Admits : Numbering → List Char → Prop
  | .undecided, _ => True
  | .automatic _, name => name = []
  | .explicit, name => name ≠ []

def after (numbering : Numbering) (name : List Char) : Numbering :=
  if name.isEmpty then .automatic (numbering.count + 1) else .explicit

def Fits : Numbering → List Slot → Prop
  | .undecided, slots => (∀ s ∈ slots, s.name = []) ∨ ∀ s ∈ slots, s.name ≠ []
  | .automatic _, slots => ∀ s ∈ slots, s.name = []
  | .explicit, slots => ∀ s ∈ slots, s.name ≠ []

theorem fits_nil (numbering : Numbering) : numbering.Fits [] := by
  cases numbering <;> simp [Fits]

theorem fits_cons (numbering : Numbering) (s : Slot) (slots : List Slot) :
    numbering.Fits (s :: slots)
      ↔ numbering.Admits s.name ∧ (numbering.after s.name).Fits slots := by
  by_cases h : s.name = [] <;> cases numbering <;> simp [Fits, Admits, after, h]

theorem count_after {numbering : Numbering} {name : List Char} (h : numbering.Admits name) :
    (numbering.after name).count
      = if name.isEmpty then numbering.count + 1 else numbering.count := by
  cases name with
  | nil => rfl
  | cons c name =>
    cases numbering with
    | automatic next => cases h
    | undecided | explicit => rfl

end Numbering

theorem number_eq_ok_iff {numbering numbering' : Numbering} {name : List Char} {n : Nat}
    (hdigits : ∀ c ∈ name, c.isDigit = true) (hlength : name.length ≤ maxDecimalDigits)
    (hcount : numbering.count < Nat.pow 10 maxDecimalDigits)
    : number numbering name = .ok (n, numbering')
        ↔ numbering.Admits name
          ∧ n = (if name.isEmpty then numbering.count else Nat.ofDigitChars 10 name 0)
          ∧ numbering' = numbering.after name := by
  have hall : name.all Char.isDigit = true := List.all_eq_true.2 hdigits
  have hvalue := digitsValue_digitValues name
  unfold number
  cases name with
  | nil =>
    cases numbering with
    | undecided => simp [Numbering.Admits, Numbering.after, eq_comm]
    | automatic next =>
      have hwritable : isWritable next = true := (isWritable_natCast next).2 hcount
      simp [Numbering.Admits, Numbering.after, hwritable, Numbering.count, eq_comm]
    | explicit => simp [Numbering.Admits]
  | cons c name =>
    rw [if_neg (by simp), if_neg (by simp [hall]), if_neg (by omega), hvalue]
    cases numbering with
    | automatic next => simp [Numbering.Admits]
    | undecided => simp [Numbering.Admits, Numbering.after, eq_comm]
    | explicit => simp [Numbering.Admits, Numbering.after, eq_comm]

theorem placeholder?_toField_eq_ok_iff {s : Slot} (hlength : s.name.length ≤ maxDecimalDigits)
    {numbering numbering' : Numbering} (hcount : numbering.count < Nat.pow 10 maxDecimalDigits)
    {p : Placeholder}
    : placeholder? numbering s.toField = .ok (p, numbering')
        ↔ numbering.Admits s.name ∧ p = s.placeholder numbering.count
          ∧ numbering' = numbering.after s.name := by
  rw [placeholder?_eq_ok_iff]
  simp only [Slot.toField, number_eq_ok_iff s.name_digits hlength hcount]
  constructor
  . rintro ⟨_, _, _, ⟨hadmits, rfl, hafter⟩, rfl⟩
    exact ⟨hadmits, rfl, hafter⟩
  . rintro ⟨hadmits, rfl, hafter⟩
    exact ⟨trivial, s.spec_braceless, _, ⟨hadmits, rfl, hafter⟩, rfl⟩

theorem ofPieces_slot_eq_ok_iff {s : Slot} (hlength : s.name.length ≤ maxDecimalDigits)
    {numbering : Numbering} (hcount : numbering.count < Nat.pow 10 maxDecimalDigits)
    {ps : List Piece} {segments : List Segment}
    : ofPieces numbering (⟨[], some s.toField⟩ :: ps) = .ok segments
        ↔ numbering.Admits s.name ∧ ∃ rest, ofPieces (numbering.after s.name) ps = .ok rest
          ∧ ⟨[], some (s.placeholder numbering.count)⟩ :: rest = segments := by
  rw [ofPieces, bind_eq_ok_iff]
  constructor
  . rintro ⟨⟨p, numbering'⟩, hp, h⟩
    obtain ⟨rest, hrest, hsegments⟩ := bind_eq_ok_iff.1 h
    obtain ⟨hadmits, rfl, rfl⟩ := (placeholder?_toField_eq_ok_iff hlength hcount).1 hp
    cases hsegments
    exact ⟨hadmits, rest, hrest, rfl⟩
  . rintro ⟨hadmits, rest, hrest, rfl⟩
    refine ⟨(s.placeholder numbering.count, numbering.after s.name), ?_, ?_⟩
    . exact (placeholder?_toField_eq_ok_iff hlength hcount).2 ⟨hadmits, rfl, rfl⟩
    . exact bind_eq_ok_iff.2 ⟨rest, hrest, rfl⟩

theorem ofPieces_pieces_eq_ok_iff {items : List Item}
    (hlength : ∀ s ∈ Item.slots items, s.name.length ≤ maxDecimalDigits) {numbering : Numbering}
    (hcount : numbering.count + (Item.slots items).length ≤ Nat.pow 10 maxDecimalDigits)
    {segments : List Segment}
    : ofPieces numbering (Item.pieces items) = .ok segments
        ↔ numbering.Fits (Item.slots items)
          ∧ ofTokens (Item.tokens numbering.count items) = segments := by
  induction items generalizing numbering segments with
  | nil => simp [Item.pieces, ofPieces, Item.slots, Item.tokens, ofTokens, numbering.fits_nil]
  | cons item items ih =>
    cases item with
    | char c h =>
      rw [Item.pieces, ofPieces_consLiteral, map_eq_ok_iff, Item.tokens, ofTokens]
      simp only [Item.slots, ih hlength hcount, h, Bool.false_eq_true, ↓reduceIte, and_assoc,
        exists_and_left, exists_eq_left']
    | brace c h =>
      rw [Item.pieces, ofPieces, bind_eq_ok_iff, Item.tokens, ofTokens]
      simp only [Item.slots, ih hlength hcount, h, ↓reduceIte, pure_eq_ok, Except.ok.injEq,
        and_assoc, exists_and_left, exists_eq_left']
    | slot s =>
      rw [Item.slots, List.forall_mem_cons] at hlength
      rw [Item.slots, List.length_cons] at hcount
      have hslot := @ofPieces_slot_eq_ok_iff s hlength.1 numbering (by omega) (Item.pieces items)
      rw [Item.pieces, hslot, Item.slots, numbering.fits_cons, and_assoc, Item.tokens, ofTokens]
      refine and_congr_right fun hadmits => ?_
      have hcount : (numbering.after s.name).count + (Item.slots items).length
          ≤ Nat.pow 10 maxDecimalDigits := by
        rw [Numbering.count_after hadmits]
        split <;> omega
      simp only [ih hlength.2 hcount, Numbering.count_after hadmits, and_assoc, exists_and_left,
        exists_eq_left']

end Segment

structure Field.IsPlain (f : Field) : Prop where
  conversion_eq : f.conversion = none
  name_digits : ∀ c ∈ f.name, c.isDigit = true
  spec_braceless : ∀ c ∈ f.spec, isBrace c = false

theorem Segment.isPlain_of_ofPieces {numbering : Numbering} {ps : List Piece}
    {segments : List Segment} (h : ofPieces numbering ps = .ok segments)
    : ∀ f ∈ Piece.fields ps, f.IsPlain := by
  fun_induction ofPieces numbering ps generalizing segments with
  | case1 => simp [Piece.fields]
  | case2 numbering literal ps ih =>
    obtain ⟨rest, hrest, _⟩ := bind_eq_ok_iff.1 h
    exact ih hrest
  | case3 numbering literal field ps ih =>
    obtain ⟨⟨p, numbering'⟩, hp, h⟩ := bind_eq_ok_iff.1 h
    obtain ⟨rest, hrest, _⟩ := bind_eq_ok_iff.1 h
    obtain ⟨hconversion, hspec, n, hnumber, _⟩ := placeholder?_eq_ok_iff.1 hp
    rw [Piece.fields_some, List.forall_mem_cons]
    exact ⟨⟨hconversion, List.all_eq_true.1 (all_isDigit_of_number hnumber), hspec⟩,
      ih _ hrest⟩

theorem Slot.exists_of_isBody {f : Field} {body : List Char} (hbody : Piece.IsBody f body)
    (h : f.IsPlain) : ∃ s : Slot, s.toField = f ∧ s.spell = '{' :: body ++ ['}'] := by
  cases hbody with
  | @mk name conversion spec conversionText specText hconversion hspec =>
    obtain ⟨rfl, hname, hbraceless⟩ := h
    have hmark : ∃ isMarked : Bool, conversionText = if isMarked then ['!', '\x00'] else [] := by
      generalize hnone : none = conversion at hconversion
      cases hconversion with
      | absent => exact ⟨false, rfl⟩
      | given c =>
        refine ⟨true, ?_⟩
        cases hc : c == '\x00' with
        | false => simp [hc] at hnone
        | true => simpa using hc
    obtain ⟨isMarked, rfl⟩ := hmark
    cases hspec with
    | absent => exact ⟨⟨name, isMarked, none, hname, by simp⟩, rfl, rfl⟩
    | given spec => exact ⟨⟨name, isMarked, some spec, hname, hbraceless⟩, rfl, rfl⟩

namespace Item

theorem exists_of_reads {cs : List Char} {ps : List Piece} (h : Piece.Reads cs ps)
    (hfields : ∀ f ∈ Piece.fields ps, f.IsPlain)
    : ∃ items, spellAll items = cs ∧ pieces items = ps := by
  induction h with
  | nil => exact ⟨[], rfl, rfl⟩
  | @char c cs ps hc _ ih =>
    rw [Piece.fields_consLiteral] at hfields
    obtain ⟨items, rfl, rfl⟩ := ih hfields
    exact ⟨.char c hc :: items, rfl, rfl⟩
  | @brace c cs ps hc _ ih =>
    obtain ⟨items, rfl, rfl⟩ := ih hfields
    exact ⟨.brace c hc :: items, rfl, rfl⟩
  | @field body cs f ps hbody _ ih =>
    rw [Piece.fields_some, List.forall_mem_cons] at hfields
    obtain ⟨items, rfl, rfl⟩ := ih hfields.2
    obtain ⟨s, rfl, hspell⟩ := Slot.exists_of_isBody hbody hfields.1
    refine ⟨.slot s :: items, ?_, rfl⟩
    simp [spellAll, spell, hspell]

theorem reads_spellAll (items : List Item) : Piece.Reads (spellAll items) (pieces items) :=
  Piece.reads_of_scan (scan_spellAll items)

theorem isInfix_name {items : List Item} {s : Slot} (h : s ∈ slots items) :
    s.name <:+: spellAll items := by
  apply (reads_spellAll items).isInfix_name s.toField
  rw [fields_pieces]
  exact List.mem_map_of_mem h

theorem length_slots_le (items : List Item) : (slots items).length ≤ (spellAll items).length := by
  have hlength := (reads_spellAll items).length_fields_le
  rwa [fields_pieces, List.length_map] at hlength

end Item

/--
Whether all fields have a number or none of them has one.
-/
def Item.IsUniform (items : List Item) : Prop :=
  (∀ s ∈ slots items, s.name = []) ∨ ∀ s ∈ slots items, s.name ≠ []

namespace Segment

section

variable {format : String} (hcount : format.length < Nat.pow 10 maxDecimalDigits)
  (hdigits : ∀ digits, digits <:+: format.toList → digits.all Char.isDigit = true
    → digits.length ≤ maxDecimalDigits)
include hcount hdigits

theorem ofPieces_pieces_of_spellAll {items : List Item} (h : Item.spellAll items = format.toList)
    {segments : List Segment}
    : ofPieces .undecided (Item.pieces items) = .ok segments
        ↔ Item.IsUniform items ∧ ofTokens (Item.tokens 0 items) = segments := by
  have hlength : ∀ s ∈ Item.slots items, s.name.length ≤ maxDecimalDigits := by
    intro s hs
    have hname := Item.isInfix_name hs
    rw [h] at hname
    exact hdigits s.name hname (List.all_eq_true.2 s.name_digits)
  have hslots : Numbering.undecided.count + (Item.slots items).length
      ≤ Nat.pow 10 maxDecimalDigits := by
    have hspell := Item.length_slots_le items
    rw [h, String.length_toList] at hspell
    rw [count_undecided]
    omega
  exact ofPieces_pieces_eq_ok_iff hlength hslots

theorem parse_eq_ok_iff_items {segments : List Segment} :
    parse format = .ok segments
      ↔ ∃ items, Item.spellAll items = format.toList ∧ Item.IsUniform items
        ∧ ofTokens (Item.tokens 0 items) = segments := by
  rw [parse_eq_ok_iff]
  constructor
  . rintro ⟨ps, hscan, hps⟩
    obtain ⟨items, hspell, rfl⟩ := Item.exists_of_reads (Piece.reads_of_scan hscan)
      (isPlain_of_ofPieces hps)
    exact ⟨items, hspell, (ofPieces_pieces_of_spellAll hcount hdigits hspell).1 hps⟩
  . rintro ⟨items, hspell, h⟩
    refine ⟨Item.pieces items, ?_, (ofPieces_pieces_of_spellAll hcount hdigits hspell).2 h⟩
    rw [← hspell]
    exact Item.scan_spellAll items

theorem exists_badFormat_of_error {e : Error} (h : parse format = .error e) :
    ∃ fault, e = .badFormat format fault := by
  rcases parse_eq_error h with hfault | ⟨_, ⟨digits, hwithin, hall, hlong, _⟩, _⟩ | ⟨_, rfl⟩
  . exact hfault
  . exact absurd (hdigits digits hwithin hall) (Nat.not_le_of_lt hlong)
  . exact absurd h (parse_ne_integerTooLong hcount)

end

/--
Exactly the texts of the grammar are read, as what their items stand for, where either all fields
have a number or none has one. All others are refused, and the error names the text itself.

Note: no text in memory is too long for the number of its characters to be written.
-/
theorem parse_reads_grammar {format : String} (hcount : format.length < Nat.pow 10 maxDecimalDigits)
    (hdigits : ∀ digits, digits <:+: format.toList → digits.all Char.isDigit = true
      → digits.length ≤ maxDecimalDigits)
    : (∀ segments, parse format = .ok segments
        ↔ ∃ items, Item.spellAll items = format.toList ∧ Item.IsUniform items
          ∧ segments = ofTokens (Item.tokens 0 items))
      ∧ ((¬∃ items, Item.spellAll items = format.toList ∧ Item.IsUniform items)
        → ∃ fault, parse format = .error (.badFormat format fault)) := by
  constructor
  . intro segments
    rw [parse_eq_ok_iff_items hcount hdigits]
    simp only [eq_comm]
  . intro hnone
    cases h : parse format with
    | ok segments =>
      obtain ⟨items, hspell, huniform, _⟩ := (parse_eq_ok_iff_items hcount hdigits).1 h
      exact absurd ⟨items, hspell, huniform⟩ hnone
    | error e =>
      obtain ⟨fault, rfl⟩ := exists_badFormat_of_error hcount hdigits h
      exact ⟨fault, rfl⟩

theorem parse_reads_grammar_marked :
    parse "\x7b!\x00:[\x7d\x7d\x7d\x7b:\x7d"
      = .ok [⟨[], some ⟨0, ['[']⟩⟩, ⟨['}'], none⟩, ⟨[], some ⟨1, []⟩⟩] := by
  have hdigits : ∀ digits, digits <:+: "\x7b!\x00:[\x7d\x7d\x7d\x7b:\x7d".toList
      → digits.all Char.isDigit = true → digits.length ≤ maxDecimalDigits := by
    intro digits hwithin _
    exact Nat.le_trans hwithin.length_le (by decide)
  let marked : Slot := ⟨[], true, some ['['], by simp, by simp [isBrace]⟩
  let empty : Slot := ⟨[], false, some [], by simp, by simp⟩
  rw [(parse_reads_grammar (by decide +kernel) hdigits).1]
  refine ⟨[.slot marked, .brace '}' (by decide), .slot empty], by decide, ?_, by decide⟩
  exact .inl (by simp [Item.slots, marked, empty])

end Segment
end Soql
