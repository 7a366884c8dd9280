/-
**Writing an executable on an output.**

An output can be positioned, cut and written, and each of these calls may fail. All checks come before
the first call; after a call that fails no other is made.

* `steps` — the seven calls that write an accepted assembly, each with what it is for.
* `emit` — checks an assembly and performs its steps on an output.
* `Recorder` — an output that keeps the calls made on it and can be told to fail one.
-/

import StaticElf.Elf.Segment

namespace StaticElf.Elf

/-- A call on an output. -/
inductive Call where
  /-- Moves to a position, counted from the start. -/
  | seek (offset : Int64)
  /-- Cuts or extends to a size. -/
  | truncate (size : Int64)
  /-- Writes at the current position. -/
  | write (data : Bytes)
  deriving DecidableEq, Repr

/-- An output: how it answers a call. A call that fails gives a reason. -/
structure Output (m : Type → Type) where
  perform : Call → m (Except String Unit)

/-- Why an executable was not written. -/
inductive EmitError where
  | assembly (error : AssemblyError)
  /-- There is no output. -/
  | noOutput
  /-- A call failed. -/
  | call (purpose reason : String)
  deriving DecidableEq, Repr

/-- The failure as it is reported. -/
def EmitError.fault : EmitError → Fault
  | assembly error => error.fault
  | noOutput => .io "emit" (.plain "no output")
  | call purpose reason => .io purpose (.plain reason)

/-- One call to make, what it is for, and what is traced before it. -/
structure Step where
  call : Call
  purpose : String
  event : Option Event := none
  deriving DecidableEq, Repr

/-- What a step traces. -/
def Step.trace (verbose : Bool) (step : Step) : List Event :=
  if verbose then step.event.toList else []

/-- The calls that write one segment. -/
def Segment.steps (segment : Segment) : List Step := [
  { call := .seek segment.place.offset.toInt64
    purpose :=
      s!"seeking to the {segment.name} segment at {Text.hexNumeral segment.place.offset.toNat}"
    event := some (.segmentWriting segment.name segment.payload.length segment.permissions.text
      segment.place) },
  { call := .write segment.payload
    purpose := s!"writing the {segment.name} segment" }]

/-- The calls that write an assembly: back to the start, away with the old content, the headers,
and then each segment at its offset. -/
def steps (assembly : Assembly) (headers : Bytes) : List Step :=
  [{ call := .seek 0, purpose := "seeking to the start of the output" },
    { call := .truncate 0, purpose := "truncating the output" },
    { call := .write headers, purpose := "writing ELF headers" }]
    ++ (segments assembly).flatMap Segment.steps

section Emit

variable {m : Type → Type} [Monad m]

/-- Performs steps in order, up to the first call that fails. -/
def performSteps (verbose : Bool) (output : Output m) : List Step → m (Traced EmitError Unit)
  | [] => return pure ()
  | step :: rest => do
    match ← output.perform step.call with
    | .error reason => return ⟨.error (.call step.purpose reason), step.trace verbose⟩
    | .ok () =>
      let later ← performSteps verbose output rest
      return ⟨later.result, step.trace verbose ++ later.trace⟩

/-- Writes an assembly on an output, replacing what was there. -/
def emit (verbose : Bool) (output : Option (Output m)) (assembly : Option Assembly) :
    m (Traced EmitError Unit) :=
  match assembly with
  | none => return Traced.fail (.assembly .noAssembly)
  | some assembly =>
    let heading := headers verbose assembly
    match heading.result, output with
    | .error error, _ => return ⟨.error (.assembly error), heading.trace⟩
    | .ok _, none => return ⟨.error .noOutput, heading.trace⟩
    | .ok bytes, some output => do
      let written ← performSteps verbose output (steps assembly bytes)
      return ⟨written.result, heading.trace ++ written.trace⟩

end Emit

/-! ### An output that keeps its calls -/

/-- The calls made so far, each with whether it succeeded, and the call to fail. -/
structure Recorder where
  calls : List (Call × Bool) := []
  failAt : Option (Int × String) := none
  deriving Repr

/-- Keeps a call and answers it. Calls are counted from zero. -/
def Recorder.perform (call : Call) (recorder : Recorder) : Except String Unit × Recorder :=
  match recorder.failAt with
  | some (position, reason) =>
    if position = recorder.calls.length then
      (.error reason, { recorder with calls := recorder.calls ++ [(call, false)] })
    else (.ok (), { recorder with calls := recorder.calls ++ [(call, true)] })
  | none => (.ok (), { recorder with calls := recorder.calls ++ [(call, true)] })

/-- The recorder as an output. -/
def Recorder.output : Output (StateM Recorder) where
  perform call := fun recorder => recorder.perform call

end StaticElf.Elf
