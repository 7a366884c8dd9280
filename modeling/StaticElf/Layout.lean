/-
**Where the two segments go.**

A layout fixes the file offset and the address of the code and of the data segment, and an alignment.

* `Layout.standard` — code at `0x401000`, data at `0x402000`, one page of the file each.
* `Layout.check` — a layout is accepted when it is aligned and the data lies behind the code.
* `Layout.codeCapacity` — how much code fits before the data.
-/

import StaticElf.Fault
import StaticElf.Text.Numeral

namespace StaticElf

/-- The placement of the segments, in the file and in memory. -/
structure Layout where
  codeOffset : UInt64
  codeAddress : UInt64
  dataOffset : UInt64
  dataAddress : UInt64
  align : UInt64
  deriving DecidableEq, Repr

/-- Why a layout is refused. -/
inductive LayoutError where
  | notPowerOfTwo (align : UInt64)
  | misaligned (field : String) (value align : UInt64)
  | codeAtStart
  | dataNotBehindCode (layout : Layout)
  deriving DecidableEq, Repr

namespace LayoutError

/-- What is said about the failure. -/
def text : LayoutError → String
  | notPowerOfTwo align => s!"alignment {Text.hexNumeral align.toNat} is not a power of two"
  | misaligned field value align =>
    s!"{field} {Text.hexNumeral value.toNat} is not a multiple of {Text.hexNumeral align.toNat}"
  | codeAtStart => "code offset 0 overlaps the ELF headers"
  | dataNotBehindCode layout =>
    s!"data segment ({Text.hexNumeral layout.dataOffset.toNat}/" ++
      s!"{Text.hexNumeral layout.dataAddress.toNat}) must follow code segment (" ++
      s!"{Text.hexNumeral layout.codeOffset.toNat}/" ++
      s!"{Text.hexNumeral layout.codeAddress.toNat})"

/-- The kind of the failure. -/
def kind : LayoutError → FaultKind
  | notPowerOfTwo _ | misaligned .. => .unalignedLayout
  | codeAtStart | dataNotBehindCode _ => .segmentOverlap

/-- The failure as it is reported. -/
def fault (error : LayoutError) : Fault := .range error.text error.kind

end LayoutError

namespace Layout

/-- Code in the second page of the file at `0x401000`, data in the third at `0x402000`. -/
def standard : Layout where
  codeOffset := 0x1000
  codeAddress := 0x401000
  dataOffset := 0x2000
  dataAddress := 0x402000
  align := 0x1000

/-- The four placements with their names, in the order in which they are checked. -/
def placements (layout : Layout) : List (String × UInt64) :=
  [("code offset", layout.codeOffset), ("code address", layout.codeAddress),
    ("data offset", layout.dataOffset), ("data address", layout.dataAddress)]

/-- Accepts a layout whose alignment is a power of two that divides every placement, whose code does
not start the file, and whose data lies behind the code in the file and in memory. -/
def check (layout : Layout) : Except LayoutError Unit := do
  if layout.align = 0 || layout.align &&& (layout.align - 1) != 0 then
    throw (.notPowerOfTwo layout.align)
  layout.placements.forM fun (field, value) =>
    if value % layout.align = 0 then .ok () else .error (.misaligned field value layout.align)
  if layout.codeOffset = 0 then
    throw .codeAtStart
  if layout.dataOffset ≤ layout.codeOffset || layout.dataAddress ≤ layout.codeAddress then
    throw (.dataNotBehindCode layout)

/-- The largest code segment that does not run into the data segment. -/
def codeCapacity (layout : Layout) : UInt64 :=
  min (layout.dataOffset - layout.codeOffset) (layout.dataAddress - layout.codeAddress)

end Layout

end StaticElf
