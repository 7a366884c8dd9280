/-
**Running a freshly written executable.**

* `runExecutable` — runs the file at a path if the machine can run it.
-/

import StaticElf.Compile
import StaticElf.Host
import StaticElf.Linux.Start

namespace StaticElf

/-- Why an executable was not run. -/
inductive RunError where
  | host (error : HostError)
  | target (error : TargetError)
  /-- There is no executable file at the path. -/
  | notLoaded (path : Bytes)
  deriving DecidableEq, Repr

/-- The failure as it is reported. -/
def RunError.fault : RunError → Fault
  | host error => error.fault
  | target error => error.fault
  | notLoaded path => .plain s!"fork/exec {Utf8.display path}: exec format error"

/-- How a process ended and what it wrote. -/
structure RunResult where
  status : Int
  stdout : Bytes
  stderr : Bytes
  deriving DecidableEq, Repr

/-- The exit status of a process, -1 when it did not end by itself. -/
def exitStatus : Linux.Ended → Int
  | .exited status => status
  | .killed _ => -1

/-- Runs an executable file. -/
def runFile (path : Bytes) (content : Option ByteFile) : Except RunError RunResult :=
  match content.bind (Linux.runProgram path) with
  | none => .error (.notLoaded path)
  | some report => .ok ⟨exitStatus report.ended, report.stdout, report.stderr⟩

/-- Runs the executable file at a path if the machine can run it. -/
def runExecutable {m : Type → Type} [Monad m] (host : FileHost m) (verbose : Bool)
    (uname : Except Errno Uname) (path : Bytes) : m (Traced RunError RunResult) := do
  let machine := hostPlatform verbose uname
  match machine.result with
  | .error error => return ⟨.error (.host error), machine.trace⟩
  | .ok platform =>
    if platform.supported then
      return ⟨runFile path (← host.content path), machine.trace⟩
    else return ⟨.error (.target (.notRunnable platform)), machine.trace⟩

end StaticElf
