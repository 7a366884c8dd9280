/-
**A processor that runs decoded instructions.**

* `Registers` — the sixteen general purpose registers, with `assign` for a part of one.
* `step` — fetches, decodes and executes one instruction.
* `run` — steps until the kernel ends the program or an instruction cannot be executed.
-/

import StaticElf.Machine.Decoder
import StaticElf.Machine.Memory

namespace StaticElf.Machine

/-- The general purpose registers. -/
abbrev Registers := Vector UInt64 16

namespace Registers

/-- All registers zero. -/
def zero : Registers := Vector.replicate 16 0

/-- The bits of `old` where `kept` has a one, and those of `new` elsewhere. -/
def splice (kept old new : UInt64) : UInt64 := (old &&& kept) ||| (new &&& ~~~kept)

/-- Writes a whole register. -/
def put (registers : Registers) (index : Fin 16) (word : UInt64) : Registers :=
  registers.set index word

/-- Writes a part of a register. Bytes and words leave the rest as it is, a 32-bit value clears the
upper half. -/
def assign (registers : Registers) : Destination → UInt64 → Registers
  | .low index .byte, value =>
    registers.put index (splice 0xffffffffffffff00 registers[index] value)
  | .low index .word, value =>
    registers.put index (splice 0xffffffffffff0000 registers[index] value)
  | .low index .dword, value => registers.put index (splice 0xffffffff00000000 0 value)
  | .low index .qword, value => registers.put index value
  | .secondByte index, value =>
    let place : Fin 16 := ⟨index.val, by omega⟩
    registers.put place (splice 0xffffffffffff00ff registers[place] (value <<< 8))

end Registers

/-- A processor: its registers and the address of the next instruction. -/
structure Processor where
  registers : Registers
  next : Nat
  deriving Repr

/-- The most bytes of an instruction. -/
def maxInstruction : Nat := 15

/-- What one instruction does. -/
inductive StepResult where
  /-- The next instruction follows. -/
  | next (processor : Processor)
  /-- The kernel is entered; the processor is behind the instruction. -/
  | trap (processor : Processor)
  /-- There is no instruction that can be executed. -/
  | fault
  deriving Repr

/-- Fetches, decodes and executes one instruction. -/
def step (memory : Memory) (processor : Processor) : StepResult :=
  let window := memory.fetch maxInstruction processor.next
  match decode window with
  | none => .fault
  | some (action, rest) =>
    let next := processor.next + (window.length - rest.length)
    match action with
    | .load destination value => .next ⟨processor.registers.assign destination value, next⟩
    | .trap => .trap ⟨processor.registers, next⟩

/-- What the kernel does when it is entered. -/
inductive KernelAnswer (σ : Type) where
  /-- The program goes on with these registers and this memory. -/
  | resume (registers : Registers) (memory : Memory) (state : σ)
  /-- The program ends with a status. -/
  | exit (status : Nat) (state : σ)

/-- A kernel: how it answers a trap. -/
abbrev Kernel (σ : Type) := Registers → Memory → σ → KernelAnswer σ

/-- How a run ended. -/
inductive Ending where
  | exited (status : Nat)
  /-- An instruction could not be executed. -/
  | faulted
  /-- More instructions were to come than were allowed. -/
  | unfinished
  deriving DecidableEq, Repr

/-- What is left when a run is over: how it ended, the processor, and the state of the kernel. -/
structure RunEnd (σ : Type) where
  ending : Ending
  processor : Processor
  state : σ

/-- Runs a program for at most `fuel` instructions. -/
def run {σ : Type} (kernel : Kernel σ) : (fuel : Nat) → Memory → Processor → σ → RunEnd σ
  | 0, _, processor, state => ⟨.unfinished, processor, state⟩
  | fuel + 1, memory, processor, state =>
    match step memory processor with
    | .fault => ⟨.faulted, processor, state⟩
    | .next after => run kernel fuel memory after state
    | .trap after =>
      match kernel after.registers memory state with
      | .exit status state => ⟨.exited status, after, state⟩
      | .resume registers memory state => run kernel fuel memory { after with registers } state

end StaticElf.Machine
