import AsmHarness.Config.Basic
import AsmHarness.Update
import AsmHarness.Verify

/-!
# Passes over the tests

Tests are run, or their references replaced, one after the other. Every test ends in a banner and
counts in a summary; a failure that counts ends the pass if the configuration says so.
-/

namespace AsmHarness

/-- What is done with every test of a pass. -/
inductive Task where
  /-- It is run. -/
  | verify
  /-- Its references are replaced. -/
  | update
  deriving DecidableEq, Repr

/-- What the banner says of a test with which all was done. -/
def Task.mark : Task → Report.Mark
  | .verify => .pass
  | .update => .updated

/-- Does it with one test. -/
def Task.perform (task : Task) (host : Host) (assembler : Path) (d : Descriptor) :
    Activity Outcome :=
  match task with
  | .verify => AsmHarness.verify host assembler d
  | .update => AsmHarness.update host assembler d

/-- How many tests ended in which way. -/
structure Summary where
  /-- How many were run with success. -/
  passed : Nat := 0
  /-- How many had their references replaced. -/
  updated : Nat := 0
  /-- How many failed in a way that counts. -/
  failed : Nat := 0
  /-- How many were passed over. -/
  skipped : Nat := 0
  /-- How many failed in a way that is tolerated. -/
  tolerated : Nat := 0
  /-- Whether a failure ended the pass. -/
  aborted : Bool := false
  deriving DecidableEq, Repr

/-- Whether a command did what it was asked for. -/
inductive Status where
  /-- It did. -/
  | success
  /-- A test failed. -/
  | failure
  deriving DecidableEq, Repr

/-- The exit code of a status. -/
def Status.exitCode : Status → Nat
  | .success => 0
  | .failure => 1

namespace Summary

/-- The status that a summary amounts to: a failure that is tolerated is none. -/
def status (s : Summary) : Status := if 0 < s.failed then .failure else .success

/-- One more test with which all was done. -/
def addDone (s : Summary) : Task → Summary
  | .verify => { s with passed := s.passed + 1 }
  | .update => { s with updated := s.updated + 1 }

/-- One more test that was passed over. -/
def addSkipped (s : Summary) : Summary := { s with skipped := s.skipped + 1 }

/-- One more failure that is tolerated. -/
def addTolerated (s : Summary) : Summary := { s with tolerated := s.tolerated + 1 }

/-- One more failure that counts, and whether the pass ends with it. -/
def addFailed (s : Summary) (stop : Bool) : Summary :=
  { s with failed := s.failed + 1, aborted := s.aborted || stop }

end Summary

/-- Goes on with a pass, given the summary of what has been done. -/
def passFrom (task : Task) (host : Host) (config : Config) (s : Summary) :
    List Descriptor → Activity Summary
  | [] => pure s
  | d :: rest => do
    match ← task.perform host config.assembler d with
    | .done =>
      note (.banner task.mark d.name none)
      passFrom task host config (s.addDone task) rest
    | .skipped reason =>
      note (.banner .skip d.name (some reason))
      passFrom task host config s.addSkipped rest
    | .failed failure =>
      note (.banner .fail d.name (some failure.message))
      if d.toleratesFailure then
        note (.banner .errorOver d.name none)
        passFrom task host config s.addTolerated rest
      else if config.stopOnFailure then
        note (.banner .abort d.name (some "Error detected"))
        return s.addFailed true
      else
        passFrom task host config (s.addFailed false) rest

/-- Does a task with every test, in order. -/
def passAll (task : Task) (host : Host) (config : Config) (descriptors : List Descriptor) :
    Activity Summary :=
  passFrom task host config {} descriptors

end AsmHarness
