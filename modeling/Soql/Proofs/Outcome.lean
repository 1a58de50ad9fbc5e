/-!
This module contains how the outcome of a computation that can fail comes from the outcomes of its
steps.
-/

namespace Soql

variable {ε α β : Type}

@[simp]
theorem ok_bind (a : α) (f : α → Except ε β) : (Except.ok a >>= f) = f a := rfl

@[simp]
theorem error_bind (e : ε) (f : α → Except ε β) : (Except.error e >>= f) = .error e := rfl

@[simp]
theorem pure_eq_ok (a : α) : (pure a : Except ε α) = .ok a := rfl

@[simp]
theorem throw_eq_error (e : ε) : (throw e : Except ε α) = .error e := rfl

theorem bind_eq_ok_iff {x : Except ε α} {f : α → Except ε β} {b : β} :
    (x >>= f) = .ok b ↔ ∃ a, x = .ok a ∧ f a = .ok b := by
  cases x with
  | error e => simp
  | ok a => simp

theorem bind_eq_error_iff {x : Except ε α} {f : α → Except ε β} {e : ε} :
    (x >>= f) = .error e ↔ x = .error e ∨ ∃ a, x = .ok a ∧ f a = .error e := by
  cases x with
  | error e => simp
  | ok a => simp

theorem map_eq_ok_iff {x : Except ε α} {f : α → β} {b : β} :
    x.map f = .ok b ↔ ∃ a, x = .ok a ∧ f a = b := by
  cases x with
  | error e => simp [Except.map]
  | ok a => simp [Except.map]

theorem map_eq_error_iff {x : Except ε α} {f : α → β} {e : ε} :
    x.map f = .error e ↔ x = .error e := by
  cases x with
  | error e => simp [Except.map]
  | ok a => simp [Except.map]

@[simp]
theorem mapError_ok {ε' : Type} (a : α) (f : ε → ε') :
    (Except.ok a).mapError f = .ok a := rfl

@[simp]
theorem mapError_error {ε' : Type} (e : ε) (f : ε → ε') :
    (Except.error e : Except ε α).mapError f = .error (f e) := rfl

theorem mapError_eq_ok_iff {ε' : Type} {x : Except ε α} {f : ε → ε'} {a : α} :
    x.mapError f = .ok a ↔ x = .ok a := by
  cases x with
  | error e => simp
  | ok a => simp

@[simp]
theorem toOption_ok (a : α) : (Except.ok a : Except ε α).toOption = some a := rfl

@[simp]
theorem toOption_error (e : ε) : (Except.error e : Except ε α).toOption = none := rfl

theorem toOption_eq_some_iff {x : Except ε α} {a : α} : x.toOption = some a ↔ x = .ok a := by
  cases x with
  | error e => simp
  | ok a => simp

def error? : Except ε α → Option ε
  | .ok _ => none
  | .error e => some e

theorem error?_eq_some_iff {x : Except ε α} {e : ε} : error? x = some e ↔ x = .error e := by
  cases x with
  | error e => simp [error?]
  | ok a => simp [error?]

theorem toOption_bind (x : Except ε α) (f : α → Except ε β) :
    (x >>= f).toOption = x.toOption.bind fun a => (f a).toOption := by
  cases x <;> rfl

def FirstError (f : α → Except ε β) (as : List α) (e : ε) : Prop :=
  ∃ before a after, as = before ++ a :: after ∧ (∀ b ∈ before, ∃ c, f b = .ok c) ∧ f a = .error e

theorem not_firstError_nil (f : α → Except ε β) (e : ε) : ¬FirstError f [] e := by
  rintro ⟨before, a, after, h, _⟩
  simp at h

theorem firstError_cons {f : α → Except ε β} {a : α} {as : List α} {e : ε} :
    FirstError f (a :: as) e ↔ f a = .error e ∨ (∃ b, f a = .ok b) ∧ FirstError f as e := by
  constructor
  . rintro ⟨before, a', after, h, hbefore, herror⟩
    cases before with
    | nil =>
      cases h
      exact .inl herror
    | cons b before =>
      cases h
      refine .inr ⟨hbefore a (by simp), before, a', after, rfl, ?_, herror⟩
      intro b hb
      exact hbefore b (by simp [hb])
  . rintro (herror | ⟨hfirst, before, a', after, rfl, hbefore, herror⟩)
    . exact ⟨[], a, as, rfl, by simp, herror⟩
    . refine ⟨a :: before, a', after, rfl, ?_, herror⟩
      intro b hb
      rcases List.mem_cons.1 hb with rfl | hb
      . exact hfirst
      . exact hbefore b hb

/--
What is known of a computation that can fail: a property of its result, or one of its error.
-/
inductive Yields (P : α → Prop) (Q : ε → Prop) : Except ε α → Prop where
  | ok {a : α} (h : P a) : Yields P Q (.ok a)
  | error {e : ε} (h : Q e) : Yields P Q (.error e)

namespace Yields

variable {P : α → Prop} {Q : ε → Prop} {x : Except ε α}

theorem bind {R : β → Prop} {f : α → Except ε β} (h : Yields P Q x)
    (hf : ∀ a, P a → Yields R Q (f a)) : Yields R Q (x >>= f) := by
  cases h with
  | ok h => exact hf _ h
  | error h => exact .error h

theorem imp {P' : α → Prop} (h : Yields P Q x) (hP : ∀ a, P a → P' a) : Yields P' Q x := by
  cases h with
  | ok h => exact .ok (hP _ h)
  | error h => exact .error h

theorem bind_of_forall {x : Except ε β} {f : β → Except ε α} (hQ : ∀ e, Q e)
    (hf : ∀ b, Yields P Q (f b)) : Yields P Q (x >>= f) := by
  cases x with
  | ok b => exact hf b
  | error e => exact .error (hQ e)

theorem mapError {ε' : Type} {Q' : ε' → Prop} {g : ε → ε'} (h : Yields P Q x)
    (hg : ∀ e, Q e → Q' (g e)) : Yields P Q' (x.mapError g) := by
  cases h with
  | ok h => exact .ok h
  | error h => exact .error (hg _ h)

theorem of_error {e : ε} (h : Yields P Q (.error e : Except ε α)) : Q e := by
  cases h with
  | error h => exact h

end Yields

/--
Two computations that fail alike, or whose results are related.
-/
inductive Agree (R : α → β → Prop) : Except ε α → Except ε β → Prop where
  | ok {a : α} {b : β} (h : R a b) : Agree R (.ok a) (.ok b)
  | error (e : ε) : Agree R (.error e) (.error e)

theorem Agree.bind {γ δ : Type} {R : α → β → Prop} {S : γ → δ → Prop} {x : Except ε α}
    {y : Except ε β} {f : α → Except ε γ} {g : β → Except ε δ} (h : Agree R x y)
    (hfg : ∀ a b, R a b → Agree S (f a) (g b))
    : Agree S (x >>= f) (y >>= g) := by
  cases h with
  | ok h => exact hfg _ _ h
  | error e => exact .error e

theorem Agree.map {γ δ : Type} {R : α → β → Prop} {S : γ → δ → Prop} {x : Except ε α}
    {y : Except ε β} {f : α → γ} {g : β → δ} (h : Agree R x y)
    (hfg : ∀ a b, R a b → S (f a) (g b))
    : Agree S (x.map f) (y.map g) := by
  cases h with
  | ok h => exact .ok (hfg _ _ h)
  | error e => exact .error e

theorem Agree.bind_left {γ : Type} {R : α → β → Prop} {S : γ → β → Prop} {x : Except ε α}
    {y : Except ε β} {f : α → Except ε γ} (h : Agree R x y)
    (hf : ∀ a b, R a b → Agree S (f a) (.ok b))
    : Agree S (x >>= f) y := by
  cases h with
  | ok h => exact hf _ _ h
  | error e => exact .error e

theorem Agree.bind_right {γ : Type} {R : α → β → Prop} {S : α → γ → Prop} {x : Except ε α}
    {y : Except ε β} {g : β → Except ε γ} (h : Agree R x y)
    (hg : ∀ a b, R a b → Agree S (.ok a) (g b))
    : Agree S x (y >>= g) := by
  cases h with
  | ok h => exact hg _ _ h
  | error e => exact .error e

theorem Agree.map_eq_map {γ : Type} {x : Except ε α} {y : Except ε β} {f : α → γ} {g : β → γ}
    (h : Agree (fun a b => f a = g b) x y) : x.map f = y.map g := by
  cases h with
  | ok h => exact congrArg Except.ok h
  | error e => rfl

theorem agree_self {R : α → α → Prop} {x : Except ε α} (h : ∀ a, x = .ok a → R a a) :
    Agree R x x := by
  cases x with
  | error e => exact .error e
  | ok a => exact .ok (h a rfl)

end Soql
