import AsmHarness.Journal
import Mathlib.Control.Lawful

/-!
# Results that are noted

What a computation comes to that may fail and leaves a journal: doing one thing after another comes
to what the second makes of the result of the first.
-/

namespace AsmHarness

variable {ε α β : Type}

theorem value_run_bind (x : ExceptT ε Noted α) (f : α → ExceptT ε Noted β) :
    (x >>= f).run.value = x.run.value.bind fun a => (f a).run.value := by
  rw [ExceptT.run_bind, Noted.value_bind]
  cases x.run.value <;> rfl

theorem bind_eq_ok {x : Except ε α} {f : α → Except ε β} {b : β} :
    x.bind f = .ok b ↔ ∃ a, x = .ok a ∧ f a = .ok b := by
  cases x <;> simp [Except.bind]

theorem bind_eq_error {x : Except ε α} {f : α → Except ε β} {e : ε} :
    x.bind f = .error e ↔ x = .error e ∨ ∃ a, x = .ok a ∧ f a = .error e := by
  cases x <;> simp [Except.bind]

theorem eq_ok_of_toOption {x : Except ε α} {a : α} (h : x.toOption = some a) :
    x = .ok a := by
  cases x with
  | error e => cases h
  | ok b => rw [Option.some_inj.1 h]

@[simp] theorem value_run_liftExcept (x : Except ε α) :
    (liftExcept x : ExceptT ε Noted α).run.value = x := by
  cases x <;> rfl

/-- Nothing is reported by one thing after another that report nothing. -/
theorem report_run_bind {x : ExceptT ε Noted α} {f : α → ExceptT ε Noted β}
    (hx : x.run.journal.report = []) (hf : ∀ a, (f a).run.journal.report = []) :
    (x >>= f).run.journal.report = [] := by
  rw [ExceptT.run_bind, Noted.journal_bind, Journal.report_append, hx]
  cases x.run.value with
  | error e => rfl
  | ok a => exact hf a

@[simp] theorem report_run_liftExcept (x : Except ε α) :
    (liftExcept x : ExceptT ε Noted α).run.journal.report = [] := by
  cases x <;> rfl

/-- What cannot fail does not. -/
@[simp] theorem value_run_liftM (x : Noted α) :
    (liftM x : ExceptT ε Noted α).run.value = .ok x.value := rfl

@[simp] theorem report_run_liftM (x : Noted α) :
    (liftM x : ExceptT ε Noted α).run.journal.report = x.journal.report :=
  congrArg Journal.report (Journal.append_empty x.journal)

end AsmHarness
