import AsmHarness.Log
import AsmHarness.Report

/-!
# Results with a journal

What the harness does leaves a trace: entries of the report and messages of the log. A computation
that leaves one is a value together with the journal of what was noted on the way to it; doing one
thing after another appends the second journal to the first.
-/

namespace AsmHarness

/-- What has been noted. -/
@[ext] structure Journal where
  /-- The entries of the report, in order. -/
  report : List Report.Entry := []
  /-- The messages of the log, in order. -/
  log : List Log.Message := []

namespace Journal

/-- Nothing noted. -/
def empty : Journal := {}

/-- One journal and then another. -/
def append (first second : Journal) : Journal :=
  ⟨first.report ++ second.report, first.log ++ second.log⟩

instance : Append Journal := ⟨append⟩

@[simp] theorem report_append (a b : Journal) : (a ++ b).report = a.report ++ b.report := rfl

@[simp] theorem log_append (a b : Journal) : (a ++ b).log = a.log ++ b.log := rfl

@[simp] theorem report_empty : empty.report = [] := rfl

@[simp] theorem log_empty : empty.log = [] := rfl

@[simp] theorem empty_append (a : Journal) : empty ++ a = a := by ext <;> simp

@[simp] theorem append_empty (a : Journal) : a ++ empty = a := by ext <;> simp

theorem append_assoc (a b c : Journal) : a ++ b ++ c = a ++ (b ++ c) := by
  ext <;> simp

end Journal

/-- A value and what was noted on the way to it. -/
@[ext] structure Noted (α : Type) where
  /-- The value. -/
  value : α
  /-- What was noted. -/
  journal : Journal

namespace Noted

variable {α β γ : Type}

instance : Monad Noted where
  pure value := ⟨value, .empty⟩
  bind first next := ⟨(next first.value).value, first.journal ++ (next first.value).journal⟩

@[simp] theorem value_pure (a : α) : (pure a : Noted α).value = a := rfl

@[simp] theorem journal_pure (a : α) : (pure a : Noted α).journal = .empty := rfl

@[simp] theorem value_bind (x : Noted α) (f : α → Noted β) :
    (x >>= f).value = (f x.value).value := rfl

@[simp] theorem journal_bind (x : Noted α) (f : α → Noted β) :
    (x >>= f).journal = x.journal ++ (f x.value).journal := rfl

@[simp] theorem value_map (f : α → β) (x : Noted α) : (f <$> x).value = f x.value := rfl

@[simp] theorem journal_map (f : α → β) (x : Noted α) : (f <$> x).journal = x.journal :=
  Journal.append_empty _

instance : LawfulMonad Noted :=
  LawfulMonad.mk' Noted
    (fun x => by ext <;> simp)
    (fun a f => by ext <;> simp)
    (fun x f g => by ext <;> simp [Journal.append_assoc])

/-- Writes an entry of the report. -/
def report (entry : Report.Entry) : Noted Unit := ⟨(), ⟨[entry], []⟩⟩

/-- Writes a message to the log. -/
def log (message : Log.Message) : Noted Unit := ⟨(), ⟨[], [message]⟩⟩

@[simp] theorem journal_report (entry : Report.Entry) :
    (report entry).journal = ⟨[entry], []⟩ := rfl

@[simp] theorem journal_log (message : Log.Message) : (log message).journal = ⟨[], [message]⟩ := rfl

end Noted

end AsmHarness
