/-
**Permissions of a loaded segment.**

* `Permissions` — a set of permission bits: execute, write, read, and bits without a name.
* `Permissions.text` — the three known bits as letters or dashes, and the rest as a number.
-/

import StaticElf.Text.Numeral

namespace StaticElf

/-- Permission bits of a segment. -/
structure Permissions where
  bits : UInt32
  deriving DecidableEq, Repr

namespace Permissions

/-- The segment can be run. -/
def execute : Permissions := ⟨1⟩
/-- The segment can be written. -/
def write : Permissions := ⟨2⟩
/-- The segment can be read. -/
def read : Permissions := ⟨4⟩

/-- Whether all bits of `others` are set. -/
def has (permissions others : Permissions) : Bool := permissions.bits &&& others.bits == others.bits

/-- The bits of both. -/
def join (permissions others : Permissions) : Permissions := ⟨permissions.bits ||| others.bits⟩

/-- The bits that have no name. -/
def unnamed (permissions : Permissions) : UInt32 :=
  permissions.bits &&& ~~~(read.bits ||| write.bits ||| execute.bits)

/-- The named bits as letters or dashes, then the others, if any, as a number. -/
def text (permissions : Permissions) : String :=
  (if permissions.has read then "r" else "-") ++ (if permissions.has write then "w" else "-")
    ++ (if permissions.has execute then "x" else "-")
    ++ (if permissions.unnamed = 0 then ""
        else "|" ++ Text.hexNumeral permissions.unnamed.toNat)

end Permissions

end StaticElf
