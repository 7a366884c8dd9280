/-
**Programs: byte strings to store and operations to run.**

A program declares symbols, which are byte strings, and lists operations. An operation may refer to a
symbol by its position.

* `Op` — load an immediate, load the address of a symbol, make a system call.
* `Slot` — what stands at one place of the list. Only an operation itself can be encoded; a
  reference to one, an empty reference and an empty place are kept and shown, and refused later.
* `Program.addString`, `Program.emit` — the two ways in which a program grows.
-/

import StaticElf.Register
import StaticElf.Text.Numeral

namespace StaticElf

/-- A symbol of a program, by its position. -/
structure SymbolRef where
  index : Int
  deriving DecidableEq, Repr

/-- How a symbol reference is written. -/
def SymbolRef.text (symbol : SymbolRef) : String := "sym#" ++ toString symbol.index

/-- The number of a system call. -/
structure SyscallNumber where
  value : UInt32
  deriving DecidableEq, Repr

namespace SyscallNumber

/-- Writing to a file descriptor. -/
def write : SyscallNumber := ⟨1⟩
/-- Ending the process. -/
def exit : SyscallNumber := ⟨60⟩

/-- How a system call is written: by name where it has one. -/
def text (number : SyscallNumber) : String :=
  if number = write then "write"
  else if number = exit then "exit"
  else "syscall(" ++ toString number.value.toNat ++ ")"

end SyscallNumber

/-- One operation. -/
inductive Op where
  /-- Moves an immediate into a register at a width. -/
  | loadImm (register : Register) (width : Width) (value : UInt64)
  /-- Moves the address of a symbol into a register. -/
  | loadSymbol (register : Register) (symbol : SymbolRef)
  /-- Loads the number of a system call into the accumulator and enters the kernel. -/
  | syscall (number : SyscallNumber)
  deriving DecidableEq, Repr

/-- The three forms of an operation. -/
inductive OpForm where
  | loadImm
  | loadSymbol
  | syscall
  deriving DecidableEq, Repr

/-- How a reference to an operation of a form is called. -/
def OpForm.referenceText : OpForm → String
  | .loadImm => "*ir.LoadImm"
  | .loadSymbol => "*ir.LoadSymbol"
  | .syscall => "*ir.Syscall"

/-- The form of an operation. -/
def Op.form : Op → OpForm
  | .loadImm .. => .loadImm
  | .loadSymbol .. => .loadSymbol
  | .syscall .. => .syscall

/-- The assembler text of an operation. -/
def Op.text : Op → String
  | .loadImm register width value =>
    "mov " ++ register.name width ++ ", " ++ Text.hexNumeral value.toNat
  | .loadSymbol register symbol => "mov " ++ register.text ++ ", " ++ symbol.text
  | .syscall number => "syscall " ++ number.text

/-- What stands at one place of a program's list. -/
inductive Slot where
  /-- An operation. -/
  | op (operation : Op)
  /-- A reference to an operation, shown as the operation is. -/
  | reference (operation : Op)
  /-- A reference of some form that leads nowhere. -/
  | emptyReference (form : OpForm)
  /-- Nothing. -/
  | empty
  deriving DecidableEq, Repr

/-- How a place of the list is shown. -/
def Slot.text : Slot → String
  | .op operation | .reference operation => operation.text
  | .emptyReference _ | .empty => "<nil>"

/-- A program. A symbol that was declared without bytes is kept as `none`. -/
structure Program where
  symbols : List (Option Bytes) := []
  slots : List Slot := []
  deriving DecidableEq, Repr

namespace Program

/-- Declares a symbol and returns a reference to it. -/
def addString (program : Program) (bytes : Bytes) : SymbolRef × Program :=
  (⟨program.symbols.length⟩, { program with symbols := program.symbols ++ [some bytes] })

/-- Appends to the list of operations. -/
def emit (program : Program) (slots : List Slot) : Program :=
  { program with slots := program.slots ++ slots }

/-- The list as it is shown, one text for each place. -/
def listing (program : Program) : List String := program.slots.map Slot.text

end Program

end StaticElf
