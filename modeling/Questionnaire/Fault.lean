/-!
What goes wrong when values that no question or rule answers for reach an operation: a quantity that
is not there, or a value of another kind than the operation works on.
-/

namespace Questionnaire

inductive Fault where
  /-- A number that has no counterpart in the format it is brought into: an integer too large for a
  binary number, or an infinity that is to become an integer. -/
  | outOfRange
  /-- What is not a number is to become an integer, a text is to be read as what it is not, or an
  integer of too many digits is to be shown. -/
  | noSuchValue
  /-- A value of a kind that the operation does not work on. -/
  | wrongKind
  /-- A value without named entries is asked for an entry. -/
  | noEntries
  /-- A decimal remainder that has no exact quotient within the working precision. -/
  | noDecimalResult
  /-- A configured limit that no answer can be compared with. -/
  | unusableLimit
  /-- A value of more levels than there is room for. -/
  | tooDeep
deriving DecidableEq, Repr

/-- Two steps in a row have a result exactly if the first has one and the second has one from
there. -/
theorem bind_eq_ok {α β ε : Type} {x : Except ε α} {f : α → Except ε β} {b : β} :
    (x >>= f) = .ok b ↔ ∃ a, x = .ok a ∧ f a = .ok b := by
  cases x with
  | error cause => simp [bind, Except.bind]
  | ok a => simp [bind, Except.bind]

/-- Two steps in a row have some result exactly if the second one has one from where the first
leads. -/
theorem exists_bind_ok_iff {α β ε : Type} {x : Except ε α} {f : α → Except ε β} :
    (∃ b, (x >>= f) = .ok b) ↔ ∃ a, x = .ok a ∧ ∃ b, f a = .ok b := by
  simp only [bind_eq_ok]
  constructor
  · rintro ⟨b, a, ha, hb⟩
    exact ⟨a, ha, b, hb⟩
  · rintro ⟨a, ha, b, hb⟩
    exact ⟨b, a, ha, hb⟩

/-- Two steps in a row fail if the first one fails, or the second one from where the first leads. -/
theorem bind_eq_error {α β : Type} {x : Except Fault α} {f : α → Except Fault β} {cause : Fault} :
    (x >>= f) = .error cause ↔ x = .error cause ∨ ∃ a, x = .ok a ∧ f a = .error cause := by
  cases x with
  | error other => simp [bind, Except.bind]
  | ok a => simp [bind, Except.bind]

/-- What is made of a result is made of one that there is. -/
theorem map_eq_ok {α β ε : Type} {x : Except ε α} {f : α → β} {b : β} :
    x.map f = .ok b ↔ ∃ a, x = .ok a ∧ f a = b := by
  cases x with
  | error cause => simp [Except.map]
  | ok a => simp [Except.map]

/-- A computation fails, if it fails, for one of the causes. -/
def FailsOnly {α : Type} (causes : List Fault) (x : Except Fault α) : Prop :=
  ∀ cause, x = .error cause → cause ∈ causes

namespace FailsOnly

variable {α β : Type} {causes more : List Fault} {x : Except Fault α}

theorem ok {a : α} : FailsOnly causes (.ok a) := nofun

theorem mono (h : FailsOnly causes x) (hsub : causes ⊆ more) : FailsOnly more x :=
  fun cause hcause => hsub (h cause hcause)

theorem bind {f : α → Except Fault β} (hx : FailsOnly causes x)
    (hf : ∀ a, x = .ok a → FailsOnly causes (f a)) : FailsOnly causes (x >>= f) := by
  intro cause hcause
  rcases bind_eq_error.mp hcause with hfirst | ⟨a, ha, hsecond⟩
  · exact hx cause hfirst
  · exact hf a ha cause hsecond

theorem map {f : α → β} (hx : FailsOnly causes x) : FailsOnly causes (x.map f) := by
  intro cause hcause
  cases x with
  | error other => exact hx cause (by rw [Except.error.inj hcause])
  | ok a => cases hcause

/-- Of two computations that can fail for one cause only, it does not matter which is first. -/
theorem bind_comm {γ : Type} {cause : Fault} {y : Except Fault β} (hx : FailsOnly [cause] x)
    (hy : FailsOnly [cause] y) (next : α → β → Except Fault γ) :
    (x >>= fun a => y >>= fun b => next a b) = y >>= fun b => x >>= fun a => next a b := by
  cases x with
  | ok a => rfl
  | error first =>
      cases y with
      | ok b => rfl
      | error second =>
          obtain rfl := List.mem_singleton.mp (hx first rfl)
          obtain rfl := List.mem_singleton.mp (hy second rfl)
          rfl

end FailsOnly

end Questionnaire
