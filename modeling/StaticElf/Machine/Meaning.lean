/-
**What operations mean to a processor.**

The meaning of a program without regard to how it is encoded: the actions that its operations stand
for, and what they do to the registers.

* `Op.actions?` — the actions of an operation; those of a list are its normal form.
* `Action.perform` — what an action does, with any kernel; every entry into the kernel is kept.
* `Op.interpret?` — what an operation itself does, by the numbers that registers hold.
-/

import StaticElf.Encoding
import StaticElf.Machine.Processor

namespace StaticElf

/-- A value cut to an operand width. -/
def OperandWidth.cut (width : OperandWidth) (value : UInt64) : UInt64 :=
  match width with
  | .byte => value.toUInt8.toUInt64
  | .word => value.toUInt16.toUInt64
  | .dword => value.toUInt32.toUInt64
  | .qword => value

/-- The actions that an operation stands for: a load of the value cut to its width, a load of a whole
address, or a load of the number of a system call and an entry into the kernel. -/
def Op.actions? (lookup : SymbolLookup) : Op → Option (List Machine.Action)
  | .loadImm register width value => do
    let index ← register.index?
    let operand ← width.operand?
    return [.load (.low index operand) (operand.cut value)]
  | .loadSymbol register symbol => do
    let address ← lookup symbol
    let index ← register.index?
    return [.load (.low index .qword) address]
  | .syscall number =>
    return [.load (.low Register.accumulator .dword) number.value.toUInt64, .trap]

/-- The actions of what stands in a program's list. -/
def Slot.actions? (lookup : SymbolLookup) : Slot → Option (List Machine.Action)
  | .op operation => operation.actions? lookup
  | _ => none

/-- The actions of a list, one after the other. -/
def actionsOf? (lookup : SymbolLookup) (slots : List Slot) : Option (List Machine.Action) :=
  (slots.mapM (Slot.actions? lookup)).map List.flatten

namespace Machine

/-- The registers now, and the registers at every entry into the kernel so far. -/
structure Progress where
  registers : Registers
  entries : List Registers := []
  deriving Repr

/-- What an action does. The kernel may answer with any registers. -/
def Action.perform (kernel : Registers → Registers) (progress : Progress) : Action → Progress
  | .load destination value =>
    { progress with registers := progress.registers.assign destination value }
  | .trap => {
      registers := kernel progress.registers
      entries := progress.entries ++ [progress.registers] }

/-- What actions do, one after the other. -/
def performAll (kernel : Registers → Registers) (progress : Progress) (actions : List Action) :
    Progress :=
  actions.foldl (Action.perform kernel) progress

/-- A kernel that keeps the registers at every entry, answers with a function of them and of the
memory, and leaves the memory as it is. -/
def answering (answer : Registers → Memory → Registers) : Kernel (List Registers) :=
  fun registers memory entries => .resume (answer registers memory) memory (entries ++ [registers])

end Machine

/-! ### Operations by the numbers that registers hold -/

/-- The number in a register that held `old` after its low part was written: bytes and words keep
what is above them, a 32-bit value clears it. -/
def OperandWidth.merge (width : OperandWidth) (old value : Nat) : Nat :=
  match width with
  | .byte => old / 256 * 256 + value % 256
  | .word => old / 65536 * 65536 + value % 65536
  | .dword => value % 4294967296
  | .qword => value

/-- Writes a value, cut to a width, into a register. -/
def Machine.Registers.store (registers : Machine.Registers) (index : Fin 16) (width : OperandWidth)
    (value : UInt64) : Machine.Registers :=
  registers.put index (UInt64.ofNat (width.merge (registers.get index).toNat value.toNat))

/-- What an operation does, if its operands exist and its symbol has an address. -/
def Op.interpret? (lookup : SymbolLookup) (kernel : Machine.Registers → Machine.Registers)
    (progress : Machine.Progress) : Op → Option Machine.Progress
  | .loadImm register width value => do
    let index ← register.index?
    let operand ← width.operand?
    return { progress with registers := progress.registers.store index operand value }
  | .loadSymbol register symbol => do
    let address ← lookup symbol
    let index ← register.index?
    return { progress with registers := progress.registers.store index .qword address }
  | .syscall number =>
    let entering :=
      progress.registers.store Register.accumulator .dword number.value.toUInt64
    return { registers := kernel entering, entries := progress.entries ++ [entering] }

/-- What stands in a program's list does what its operation does. -/
def Slot.interpret? (lookup : SymbolLookup) (kernel : Machine.Registers → Machine.Registers)
    (progress : Machine.Progress) : Slot → Option Machine.Progress
  | .op operation => operation.interpret? lookup kernel progress
  | _ => none

/-- What a list does, from its first place to its last. -/
def interpretAll? (lookup : SymbolLookup) (kernel : Machine.Registers → Machine.Registers)
    (progress : Machine.Progress) (slots : List Slot) : Option Machine.Progress :=
  slots.foldlM (Slot.interpret? lookup kernel) progress

end StaticElf
