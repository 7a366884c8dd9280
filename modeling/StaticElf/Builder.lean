/-
**Building an assembly from a program.**

A builder stores all symbols first, so that every operation sees every address, and then encodes the
operations. It writes into its own two segments, which it renews for each build, and remembers the
addresses of its last successful build.

* `storeSymbols` and `encodeSlots` — the two passes; one that fails says how far it came.
* `Builder.build` — one build and the builder afterwards. A build that fails midway leaves its
  segments half filled and the addresses as they were.
* `BuildError` — why a build fails; the first fault in the order layout, symbols, operations, size.
-/

import StaticElf.Encoding
import StaticElf.Layout
import StaticElf.SegmentBuffer

namespace StaticElf

/-- Why a build fails. -/
inductive BuildError where
  /-- There is no program. -/
  | noProgram
  | layout (error : LayoutError)
  /-- A symbol was declared without bytes. -/
  | emptySymbol (index : Nat)
  /-- A symbol ends above the last address. -/
  | symbolTooHigh (index : Nat)
  /-- What stands at a place of the program's list has no code. -/
  | slot (index : Nat) (item : Slot) (error : EncodingError)
  /-- The code would run into the data. -/
  | codeTooLarge (size : Nat) (capacity : UInt64)
  /-- A segment was written after it was complete. -/
  | committed (failure : CommittedWrite)
  deriving DecidableEq, Repr

/-- The failure as it is reported. -/
def BuildError.fault : BuildError → Fault
  | noProgram => .argument "no program given" .invalidOperand
  | layout error => error.fault
  | emptySymbol index => .argument s!"symbol {index} is nil" .invalidOperand
  | symbolTooHigh index => .range s!"symbol {index} does not fit in the address space" .fieldOverflow
  | slot index item error => .context s!"instruction {index} ({item.text})" error.fault
  | codeTooLarge size capacity =>
    .range (s!"code segment is {size} bytes but only {capacity.toNat} " ++
      "fit before the data segment") .segmentOverlap
  | committed failure => .plain failure.text

/-! ### The symbol pass -/

/-- How far the symbols are stored. -/
structure Stored where
  /-- The data segment so far. -/
  data : SegmentBuffer
  /-- How many bytes are in it. -/
  used : Nat := data.content.length
  /-- How many symbols are in it. -/
  count : Nat := 0
  /-- Their addresses, the last first. -/
  addresses : List UInt64 := []
  deriving DecidableEq, Repr

/-- Appends one symbol to the data segment, which starts at `base`. -/
def storeSymbol (verbose : Bool) (base : UInt64) (stored : Stored) (symbol : Option Bytes) :
    Traced BuildError Stored := do
  match symbol with
  | none => Traced.fail (.emptySymbol stored.count)
  | some bytes =>
    let used := UInt64.ofNat stored.used
    if used + UInt64.ofNat bytes.length > 0xffffffffffffffff - base then
      Traced.fail (.symbolTooHigh stored.count)
    else
      let data ← Traced.ofExcept ((stored.data.write? bytes).mapError .committed)
      Traced.note verbose (.symbolStored stored.count (base + used) bytes.length)
      return {
        data
        used := stored.used + bytes.length
        count := stored.count + 1
        addresses := (base + used) :: stored.addresses }

/-- Stores symbols in a data segment, which starts at `base`. -/
def storeSymbols (verbose : Bool) (base : UInt64) (data : SegmentBuffer)
    (symbols : List (Option Bytes)) : Traced (BuildError × Stored) Stored :=
  Traced.fold (storeSymbol verbose base) { data } symbols

/-! ### The instruction pass -/

/-- The code of what stands in the list, traced when it is an operation that has one. -/
def Slot.encodeTraced (verbose : Bool) (lookup : SymbolLookup) (slot : Slot) :
    Traced EncodingError Bytes := do
  let code ← Traced.ofExcept (slot.encode? lookup)
  match slot with
  | .op operation => Traced.note verbose (.encoded operation code)
  | _ => pure ()
  return code

/-- How far a list is encoded. -/
structure Encoded where
  /-- The code segment so far. -/
  code : SegmentBuffer
  /-- How many places of the list are in it. -/
  count : Nat := 0
  deriving DecidableEq, Repr

/-- Appends the code of what stands at the next place of the list to the code segment. -/
def encodeSlot (verbose : Bool) (lookup : SymbolLookup) (encoded : Encoded) (slot : Slot) :
    Traced BuildError Encoded := do
  let bytes ← (slot.encodeTraced verbose lookup).mapError (.slot encoded.count slot)
  let code ← Traced.ofExcept ((encoded.code.write? bytes).mapError .committed)
  return { code, count := encoded.count + 1 }

/-- Encodes a list in a code segment. -/
def encodeSlots (verbose : Bool) (lookup : SymbolLookup) (code : SegmentBuffer)
    (slots : List Slot) : Traced (BuildError × Encoded) Encoded :=
  Traced.fold (encodeSlot verbose lookup) { code } slots

/-! ### Builders -/

/-- A layout, two segments, and the addresses of symbols. -/
structure Builder where
  layout : Layout := .standard
  /-- The code segment of the last build that came to its passes. -/
  code : SegmentBuffer := { name := "code" }
  /-- The data segment of that build. -/
  data : SegmentBuffer := { name := "data" }
  /-- The addresses of the last successful build. -/
  addresses : SymbolTable := []
  deriving DecidableEq, Repr

namespace Builder

/-- The builder with new segments. -/
def renewed (builder : Builder) : Builder :=
  { builder with code := { name := "code" }, data := { name := "data" } }

/-- The assembly of two complete segments. -/
def assembly (layout : Layout) (code data : SegmentBuffer) : Assembly where
  code := code.content
  data := data.content
  codeAt := {
    offset := layout.codeOffset
    virtualAddress := layout.codeAddress
    physicalAddress := layout.codeAddress
    memorySize := code.size }
  dataAt := {
    offset := layout.dataOffset
    virtualAddress := layout.dataAddress
    physicalAddress := layout.dataAddress
    memorySize := data.size }

/-- Both passes over a program, into new segments. A failure comes with the builder it leaves. -/
def run (verbose : Bool) (builder : Builder) (program : Program) :
    Traced (BuildError × Builder) (Assembly × Builder) := do
  let layout := builder.layout
  Traced.ofExcept (layout.check.mapError fun error => (.layout error, builder))
  let builder := builder.renewed
  let stored ← (storeSymbols verbose layout.dataAddress builder.data program.symbols).mapError
    fun (error, stored) => (error, { builder with data := stored.data })
  let table := stored.addresses.reverse
  let builder := { builder with data := ← stored.data.commit verbose }
  let encoded ← (encodeSlots verbose (SymbolTable.address? table) builder.code
    program.slots).mapError fun (error, encoded) => (error, { builder with code := encoded.code })
  let size := encoded.code.content.length
  if size > layout.codeCapacity.toNat then
    Traced.fail (.codeTooLarge size layout.codeCapacity, { builder with code := encoded.code })
  else
    let builder := { builder with code := ← encoded.code.commit verbose, addresses := table }
    let built := assembly layout builder.code builder.data
    Traced.note verbose (.laidOut built.codeAt built.dataAt)
    return (built, builder)

/-- Builds a program and gives the builder afterwards. -/
def build (verbose : Bool) (builder : Builder) (program : Option Program) :
    Traced BuildError Assembly × Builder :=
  match program with
  | none => (Traced.fail .noProgram, builder)
  | some program =>
    let outcome := builder.run verbose program
    match outcome.result with
    | .ok (built, next) => (⟨.ok built, outcome.trace⟩, next)
    | .error (error, left) => (⟨.error error, outcome.trace⟩, left)

end Builder

end StaticElf
