import Soql.Proofs.Number.Formatting
import Soql.Proofs.Query.Escapable
import Soql.Proofs.Template.Overlong

/-!
This module contains the errors that compilation does not announce: numbers out of range for a
pattern or too long to be written, numerals too long to be read, and more placeholders than can be
numbered. Each of them is traced to the value that gives rise to it.
-/

namespace Soql

/--
Whether an error is one that callers are told of: about what is missing, about a value that cannot
be escaped, about format text or about a pattern that does not apply.
-/
def Error.isDeclared : Error → Bool
  | .absent _ | .unescapable .. | .badFormat .. | .badPattern .. => true
  | .overflow _ | .integerTooLong | .numeralTooLong _ => false

namespace Value

/--
Whether a value goes beyond a limit that is reported with this error.
-/
inductive Exceeds : Value → Error → Prop where
  | int {n : Int} {label : Option Label} (h : isWritable n = false)
    : Exceeds (.int n label) .integerTooLong
  | range {start stop step n : Int} (mem : n ∈ rangeItems start stop step)
    (h : isWritable n = false)
    : Exceeds (.range start stop step) .integerTooLong
  | overflow {n : Int} {label : Option Label} {o : Overflow} (h : o.IsDue n)
    : Exceeds (.int n label) (.overflow o)
  | numeral {format : String} {arguments : List Value} {count : Nat}
    (h : Segment.TooLong format.toList count)
    : Exceeds (.template format arguments) (.numeralTooLong count)
  | placeholders {format : String} {arguments : List Value}
    (h : Nat.pow 10 maxDecimalDigits ≤ format.length)
    : Exceeds (.template format arguments) .integerTooLong

def Accounts (v : Value) (e : Error) : Prop :=
  e.isDeclared = true ∨ ∃ w : Value, w.Within v ∧ w.Exceeds e

theorem Accounts.of_part {v w : Value} {e : Error} (h : w.Accounts e) (hw : w ∈ v.parts) :
    v.Accounts e := by
  rcases h with h | ⟨u, hu, hexceeds⟩
  . exact .inl h
  . exact .inr ⟨u, .part hw hu, hexceeds⟩

theorem Accounts.of_exceeds {v : Value} {e : Error} (h : v.Exceeds e) : v.Accounts e :=
  .inr ⟨v, .self v, h⟩

theorem accounts_of_laidOut {v : Value} {pattern kind : String} {x : Except PatternFailure Text}
    {e : Error} {due : Overflow → Prop} {R : Text → Prop}
    (hoverflow : ∀ o, due o → v.Exceeds (.overflow o))
    (hx : Yields R (PatternFailure.IsDue due) x) (h : laidOut pattern kind x = .error e)
    : v.Accounts e := by
  cases hx with
  | ok _ => cases h
  | @error failure hfailure =>
    cases failure with
    | fault f =>
      cases h
      exact .inl rfl
    | overflow o =>
      cases h
      exact .of_exceeds (hoverflow o hfailure)

theorem accounts_of_patterned {v : Value} {pattern : String} {e : Error}
    (h : v.patterned? pattern = some (.error e)) : v.Accounts e := by
  let P : Symbol → Bool := fun _ => true
  have hP : HasPlain fun c => P (.char c) := fun _ _ => rfl
  have hpattern : Text.MadeOf P (Text.ofString pattern) :=
    Text.MadeOf.iff_forall_mem.2 fun _ _ => rfl
  cases v with
  | int n label =>
    have hresult := NumberPattern.formatInt_yields hP hpattern "int" n
    exact accounts_of_laidOut (fun o ho => .overflow ho) hresult (Option.some.inj h)
  | float x label =>
    simp only [patterned?] at h
    split at h
    . have hresult := NumberPattern.formatBinary_yields hP hpattern (fun _ => False) x
      exact accounts_of_laidOut (fun _ => False.elim) hresult (Option.some.inj h)
    . cases h
      exact .inl rfl
  | decimal d =>
    simp only [patterned?] at h
    split at h
    . have hresult := NumberPattern.formatDecimal_yields hP (fun _ => False) hpattern d
      exact accounts_of_laidOut (fun _ => False.elim) hresult (Option.some.inj h)
    . unfold decimalLiteral at h
      split at h <;> cases h
      exact .inl rfl
  | _ => cases h

theorem accounts_of_failsWith {v : Value} {e : Error} (h : v.FailsWith e) : v.Accounts e := by
  induction v using induct generalizing e with
  | h v ih =>
    cases h with
    | int h => exact .of_exceeds (.int h)
    | range hmem h => exact .of_exceeds (.range hmem h)
    | float | decimal | containsItself | withoutRule => exact .inl rfl
    | sequence split _ fails | cycle split _ fails =>
      have hmem := split ▸ List.mem_append_cons_self
      exact (ih _ hmem fails).of_part hmem
    | template h =>
      cases h with
      | unreadable hparse =>
        rcases Segment.parse_eq_error hparse with ⟨fault, rfl⟩ | ⟨count, hlong, rfl⟩ | ⟨hmany, rfl⟩
        . exact .inl rfl
        . exact .of_exceeds (.numeral hlong)
        . exact .of_exceeds (.placeholders hmany)
      | noArgument => exact .inl rfl
      | argument _ _ split _ fails =>
        have hmem := split ▸ List.mem_append_cons_self
        exact (ih _ hmem fails).of_part hmem
      | pattern _ _ _ _ _ hargument _ fails =>
        exact (accounts_of_patterned fails).of_part (List.mem_of_getElem? hargument)

end Value

/--
An error that is not declared is due to something in the template that goes beyond a limit.
-/
theorem Template.compile_error_accounted {keepBlanks : Bool} {t : Template} {e : Error}
    (h : t.compile keepBlanks = .error e)
    : e.isDeclared = true ∨ ∃ v : Value, v.Within t.toValue ∧ v.Exceeds e := by
  have hfails : t.FailsWith e :=
    (compile_eq_error_iff_failsWith fun v _ => v.isDecided keepBlanks).1 h
  exact Value.accounts_of_failsWith (.template hfails)

theorem Template.compile_error_accounted_codePoint :
    ∃ v : Value, v.Within (.template "\x7b0:c\x7d" [.int 1114112 none])
      ∧ v.Exceeds (.overflow .notCodePoint) := by
  have h : compile false ⟨"\x7b0:c\x7d", [.int 1114112 none]⟩ = .error (.overflow .notCodePoint) :=
    error?_eq_some_iff.1 (by decide +kernel)
  rcases compile_error_accounted h with hdeclared | hexceeds
  . cases hdeclared
  . exact hexceeds

theorem Template.compile_codePoint_overflows :
    compile false ⟨"\x7b0:c\x7d", [.int (-1) none]⟩ = .error (.overflow .notCodePoint)
      ∧ (Error.overflow .notCodePoint).isDeclared = false :=
  ⟨error?_eq_some_iff.1 (by decide +kernel), rfl⟩

end Soql
