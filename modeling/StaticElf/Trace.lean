/-
**What is traced while an executable is built.**

In verbose mode the steps of a build leave a trace. A step that fails keeps what it traced before.

* `Event` — one thing that is traced; `Event.text` is how it is shown.
* `Traced` — the outcome of a step together with its trace, and the way steps follow each other.
-/

import StaticElf.Assembly
import StaticElf.Program

namespace StaticElf

/-- One thing that is traced. -/
inductive Event where
  /-- A symbol was stored in the data segment. -/
  | symbolStored (index : Nat) (address : UInt64) (size : Nat)
  /-- A segment is complete. -/
  | segmentCommitted (segment : String) (size : Nat)
  /-- An operation was encoded. -/
  | encoded (operation : Op) (code : Bytes)
  /-- Both segments have their place. -/
  | laidOut (code data : Placement)
  /-- A header begins. -/
  | headerOpened (title : String)
  /-- Bytes of a header. -/
  | headerBytes (bytes : Bytes)
  /-- All headers are complete. -/
  | headersClosed
  /-- A segment is about to be written. -/
  | segmentWriting (segment : String) (size : Nat) (permissions : String) (place : Placement)
  /-- An executable is complete. -/
  | fileWritten (path : String) (entry : UInt64)
  /-- The machine that the command runs on. -/
  | hostSeen (machine system release : String)
  /-- The platform and the path that were asked for. -/
  | targetChosen (platform path : String)
  /-- The build id and the payload sizes of what was written. -/
  | buildNamed (digest : String) (codeSize dataSize : Nat)
  deriving DecidableEq, Repr

namespace Event

/-- The place of a segment as it is shown in the layout. -/
def placementText (place : Placement) : String :=
  s!"offset={Text.hexNumeral place.offset.toNat} addr=" ++
    s!"{Text.hexNumeral place.virtualAddress.toNat} size={place.memorySize.toNat}\n"

/-- How an event is shown. -/
def text : Event → String
  | symbolStored index address size =>
    s!"symbol {index}: {Text.hexNumeral address.toNat} ({size} bytes)\n"
  | segmentCommitted segment size => s!"segment {segment}: committed with {size} bytes\n"
  | encoded operation code => s!"{operation.text}: {Text.spacedHexPairs code}\n"
  | laidOut code data =>
    "=== Layout ===\n  code: " ++ placementText code ++ "  data: " ++ placementText data
  | headerOpened title => title ++ ":"
  | headerBytes bytes => Text.spacedHexDigits bytes
  | headersClosed => "\n"
  | segmentWriting segment size permissions place =>
    s!"Writing {segment} segment: {size} bytes at offset {Text.hexNumeral place.offset.toNat} " ++
      s!"({permissions}, vaddr {Text.hexNumeral place.virtualAddress.toNat})\n"
  | fileWritten path entry => s!"Wrote {path} (entry {Text.hexNumeral entry.toNat})\n"
  | hostSeen machine system release => s!"host: {machine} ({system} {release})\n"
  | targetChosen platform path => s!"Target: {platform}, output: {path}\n"
  | buildNamed digest codeSize dataSize =>
    s!"Build {digest}: code {codeSize} bytes, data {dataSize} bytes\n"

end Event

/-- A trace as it is shown. -/
def traceText (trace : List Event) : String := String.join (trace.map Event.text)

/-- The outcome of a step and what it traced. -/
structure Traced (ε α : Type) where
  result : Except ε α
  trace : List Event := []

namespace Traced

variable {ε ε' α β : Type}

/-- A step that succeeds and traces nothing. -/
protected def pure (value : α) : Traced ε α := ⟨.ok value, []⟩

/-- A step and, if it succeeds, the next one. -/
protected def bind (step : Traced ε α) (next : α → Traced ε β) : Traced ε β :=
  match step.result with
  | .ok value => ⟨(next value).result, step.trace ++ (next value).trace⟩
  | .error error => ⟨.error error, step.trace⟩

instance : Monad (Traced ε) where
  pure := Traced.pure
  bind := Traced.bind

/-- A step that fails. -/
def fail (error : ε) : Traced ε α := ⟨.error error, []⟩

/-- A step that traces nothing. -/
def ofExcept (result : Except ε α) : Traced ε α := ⟨result, []⟩

/-- A step that only traces, and only in verbose mode. -/
def note (verbose : Bool) (event : Event) : Traced ε Unit :=
  ⟨.ok (), if verbose then [event] else []⟩

/-- A step whose failure is told differently. -/
def mapError (change : ε → ε') (step : Traced ε α) : Traced ε' α :=
  ⟨step.result.mapError change, step.trace⟩

/-- Steps over a list, each from a state to a state, after the traces `before`, the last of them first. -/
def foldAfter {σ : Type} (step : σ → α → Traced ε σ) :
    List α → σ → (before : List (List Event)) → Traced (ε × σ) σ
  | [], state, before => ⟨.ok state, before.reverse.flatten⟩
  | item :: rest, state, before =>
    let taken := step state item
    match taken.result with
    | .ok next => foldAfter step rest next (taken.trace :: before)
    | .error error => ⟨.error (error, state), (taken.trace :: before).reverse.flatten⟩

/-- Steps over a list, each from a state to a state, up to the first that fails. A failure comes with
the state in which it happened. -/
def fold {σ : Type} (step : σ → α → Traced ε σ) (start : σ) (items : List α) : Traced (ε × σ) σ :=
  foldAfter step items start []

@[simp] theorem mapError_ok (change : ε → ε') (value : α) :
    (Except.ok value).mapError change = .ok value := rfl

@[simp] theorem mapError_error (change : ε → ε') (error : ε) :
    (Except.error error : Except ε α).mapError change = .error (change error) := rfl

@[simp] theorem result_pure (value : α) : (pure value : Traced ε α).result = .ok value := rfl

@[simp] theorem trace_pure (value : α) : (pure value : Traced ε α).trace = [] := rfl

@[simp] theorem result_mapError (change : ε → ε') (step : Traced ε α) :
    (step.mapError change).result = step.result.mapError change := rfl

@[simp] theorem result_note (verbose : Bool) (event : Event) :
    (note verbose event : Traced ε Unit).result = .ok () := rfl

theorem bind_of_ok {step : Traced ε α} {value : α} (next : α → Traced ε β)
    (succeeds : step.result = .ok value) :
    step >>= next = ⟨(next value).result, step.trace ++ (next value).trace⟩ := by
  show Traced.bind step next = _
  simp only [Traced.bind, succeeds]

theorem bind_of_error {step : Traced ε α} {error : ε} (next : α → Traced ε β)
    (fails : step.result = .error error) : step >>= next = ⟨.error error, step.trace⟩ := by
  show Traced.bind step next = _
  simp only [Traced.bind, fails]

theorem foldAfter_eq {σ : Type} (step : σ → α → Traced ε σ) (items : List α) (state : σ)
    (before : List (List Event)) :
    foldAfter step items state before
      = ⟨(fold step state items).result,
          before.reverse.flatten ++ (fold step state items).trace⟩ := by
  induction items generalizing state before with
  | nil => simp [fold, foldAfter]
  | cons item rest ih =>
    unfold fold foldAfter
    cases outcome : (step state item).result with
    | ok next => simp [outcome, ih]
    | error error => simp [outcome]

/-- Steps over a list are its first step and then the steps over the rest. -/
theorem fold_cons {σ : Type} (step : σ → α → Traced ε σ) (state : σ) (item : α) (rest : List α) :
    fold step state (item :: rest)
      = (step state item).mapError (·, state) >>= fun next => fold step next rest := by
  show foldAfter step (item :: rest) state [] = Traced.bind _ _
  unfold foldAfter Traced.bind mapError
  cases outcome : (step state item).result with
  | ok next => simp [outcome, foldAfter_eq]
  | error error => simp [outcome]

end Traced

end StaticElf
