/-
  Computations that may fail, taken apart: a result is there
  exactly if every step on the way has one.

  Main statements:
    * `bind_eq_ok_iff`
    * `map_eq_ok_iff`
    * `mapError_eq_ok_iff`
    * `toOption_eq_some_iff`
-/

namespace DeviceHub

variable {ε ε' α β : Type}

@[simp] theorem ok_bind
    (a : α)
    (f : α → Except ε β) :
    (Except.ok a >>= f) = f a := rfl

@[simp] theorem error_bind
    (e : ε)
    (f : α → Except ε β) :
    (Except.error e >>= f) = .error e := rfl

@[simp] theorem pure_eq_ok
    (a : α) :
    (pure a : Except ε α) = .ok a := rfl

@[simp] theorem mapError_ok
    (f : ε → ε')
    (a : α) :
    (Except.ok a).mapError f = .ok a := rfl

@[simp] theorem mapError_error
    (f : ε → ε')
    (e : ε) :
    (Except.error e : Except ε α).mapError f =
      .error (f e) := rfl

/- Two steps succeed if the first does and then the second. -/
theorem bind_eq_ok_iff
    {x : Except ε α}
    {f : α → Except ε β}
    {b : β} :
    (x >>= f) = .ok b ↔ ∃ a, x = .ok a ∧ f a = .ok b := by
  cases x with
  | error e => simp
  | ok a => simp

/- A result that is changed is there if the first was. -/
theorem map_eq_ok_iff
    {x : Except ε α}
    {f : α → β}
    {b : β} :
    x.map f = .ok b ↔ ∃ a, x = .ok a ∧ f a = b := by
  cases x with
  | error e => simp [Except.map]
  | ok a => simp [Except.map]

/- A change of errors makes no result and hides none. -/
theorem mapError_eq_ok_iff
    {x : Except ε α}
    {f : ε → ε'}
    {a : α} :
    x.mapError f = .ok a ↔ x = .ok a := by
  cases x with
  | error e =>
      constructor
      · intro hOk
        cases hOk
      · intro hOk
        cases hOk
  | ok b =>
      constructor
      · intro hOk
        cases hOk
        rfl
      · intro hOk
        cases hOk
        rfl

/- The option of a result has what the result has. -/
theorem toOption_eq_some_iff
    {x : Except ε α}
    {a : α} :
    x.toOption = some a ↔ x = .ok a := by
  cases x with
  | error e => simp [Except.toOption]
  | ok b => simp [Except.toOption]

end DeviceHub
