import Soql.Query.Compile

/-!
This module contains what compilation sees of a value: whether it heeds patterns, and which other
values its text is made of.
-/

namespace Soql
namespace Value

def heedsPattern : Value → Bool
  | .int .. | .float .. | .decimal _ | .date _ | .dateTime _ => true
  | _ => false

theorem isSome_patterned? (pattern : String) (v : Value) :
    (v.patterned? pattern).isSome = v.heedsPattern := by
  cases v with
  | float x label =>
    simp only [patterned?]
    split <;> rfl
  | decimal d =>
    simp only [patterned?]
    split <;> rfl
  | _ => rfl

theorem patterned?_eq_none {v : Value} (h : v.heedsPattern = false) (pattern : String) :
    v.patterned? pattern = none := by
  rw [← Option.not_isSome_iff_eq_none, isSome_patterned?, h]
  decide

/--
The values whose texts the text of a value is made of.
-/
def parts : Value → List Value
  | .template _ arguments => arguments
  | .sequence _ items | .cycle _ items => items
  | _ => []

inductive Within : Value → Value → Prop where
  | self (v : Value) : Within v v
  | part {u v w : Value} (hw : w ∈ v.parts) (h : Within u w) : Within u v

mutual

theorem induct {motive : Value → Prop} (h : ∀ v, (∀ w ∈ v.parts, motive w) → motive v) (v : Value) :
    motive v := by
  apply h
  cases v with
  | template format arguments => exact inductAll h arguments
  | sequence kind items => exact inductAll h items
  | cycle kind items => exact inductAll h items
  | _ => simp [parts]

theorem inductAll {motive : Value → Prop} (h : ∀ v, (∀ w ∈ v.parts, motive w) → motive v)
    (vs : List Value)
    : ∀ v ∈ vs, motive v := by
  cases vs with
  | nil => simp
  | cons v vs =>
    rw [List.forall_mem_cons]
    exact ⟨induct h v, inductAll h vs⟩

end

theorem escapeAll_map_int (keepBlanks : Bool) (ns : List Int) :
    escapeAll keepBlanks (ns.map fun n => int n none) = ns.mapM intLiteral := by
  induction ns with
  | nil => rfl
  | cons n ns ih =>
    rw [List.map_cons, escapeAll, ih, List.mapM_cons]
    rfl

theorem escape_range (keepBlanks : Bool) (start stop step : Int) :
    escape keepBlanks (.range start stop step)
      = escape keepBlanks (.sequence .list ((rangeItems start stop step).map fun n => int n none))
    := by
  rw [escape, escape, escapeAll_map_int]

end Value
end Soql
