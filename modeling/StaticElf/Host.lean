/-
**The machine that the command runs on.**

* `Uname` — what the system says about itself: fields of 65 bytes, read up to the first zero.
* `hostPlatform` — the platform of the machine, or why it is not known.
-/

import StaticElf.Errno
import StaticElf.Platform
import StaticElf.Trace

namespace StaticElf

/-- The fields that the system fills in about itself. -/
structure Uname where
  system : Bytes := []
  release : Bytes := []
  machine : Bytes := []
  deriving DecidableEq, Repr

/-- The number of bytes of a field. -/
def Uname.fieldSize : Nat := 65

/-- The text of a field: its bytes up to the first zero. -/
def Uname.fieldText (field : Bytes) : Bytes := (field.take fieldSize).takeWhile (· != 0)

/-- Why the platform of the machine is not known. -/
inductive HostError where
  | uname (errno : Errno)
  | machine (error : TargetError)
  deriving DecidableEq, Repr

/-- The failure as it is reported. -/
def HostError.fault : HostError → Fault
  | uname errno => .io "uname failed" (.plain errno.text)
  | machine error => error.fault

/-- The platform of the machine, from what the system says about itself. -/
def hostPlatform (verbose : Bool) (answer : Except Errno Uname) : Traced HostError Platform := do
  let uname ← Traced.ofExcept (answer.mapError .uname)
  let machine := Uname.fieldText uname.machine
  let arch ← Traced.ofExcept ((Arch.parse? machine).mapError .machine)
  Traced.note verbose (.hostSeen (Utf8.display machine)
    (Utf8.display (Uname.fieldText uname.system)) (Utf8.display (Uname.fieldText uname.release)))
  return ⟨arch, .linux⟩

end StaticElf
