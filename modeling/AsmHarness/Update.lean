import AsmHarness.FileTree.Access
import AsmHarness.Outcome

/-!
# Replacing the references of a test

The assembler is started, and what it produces takes the place of the references: outputs are moved
there, and captured text is written there as it is, without being filtered. The targets are taken in
order, and the first one that cannot be stored is the last one that is touched.
-/

namespace AsmHarness

/-- Replaces the files by what a request makes of them, unless it is turned down. -/
def changeFiles (request : FileTree → Except OsError FileTree) (failure : OsError → Failure) :
    ExceptT Failure Activity Unit := do
  match request (← get) with
  | .ok files => set files
  | .error cause => throw (failure cause)

/-- Stores what a target is compared with. Nothing is stored for an output where the source is to be
rejected. -/
def storeTarget (d : Descriptor) (captured : Captured) (target : Target) :
    ExceptT Failure Activity Unit := do
  match target.subject with
  | .artifact output reference _ =>
    if d.expectsFailure then pure ()
    else
      let output := d.resolve output
      let reference := d.resolve reference
      note (.moving output reference)
      changeFiles (·.rename output reference) (.notMoved reference)
  | .capture stream reference =>
    let reference := d.resolve reference
    note (.moving stream.name reference)
    changeFiles (·.write reference (captured.text stream).toUTF8) (.notWritten reference)

/-- Stores what some targets are compared with, in order. -/
def storeTargets (d : Descriptor) (captured : Captured) :
    List Target → ExceptT Failure Activity Unit
  | [] => pure ()
  | target :: rest => do
    storeTarget d captured target
    storeTargets d captured rest

/-- Replaces the references of a test. -/
def update (host : Host) (assembler : Path) (d : Descriptor) : Activity Outcome := do
  note (.updating d.name)
  if !d.update then return .skipped "No output provided"
  else match d.disabled with
  | some reason => return .skipped reason
  | none =>
    note (.processing d.name)
    match ← (execute host (d.invocation assembler) d.expectedExitCode).run with
    | .error cause => return .failed (.exec cause)
    | .ok captured =>
      match ← (storeTargets d captured d.targets).run with
      | .error failure => return .failed failure
      | .ok () => return .done

end AsmHarness
