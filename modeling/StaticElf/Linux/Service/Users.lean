/-
**Users, groups and privileges.**

All processes have one user and one group, and no privileges. Nothing else can be asked for.

* `Service.user`, `Service.tellUsers` — who a process is.
* `Service.setUser`, `Service.setUsers`, `Service.setGroups` — becoming somebody.
* `Service.tellPrivileges`, `Service.setPrivileges` — what a process may do besides.
-/

import StaticElf.Linux.Service.Properties

namespace StaticElf.Linux

namespace Kernel

/-- Whether a number is that of the user, or asks for no change. -/
def isOwnUser (number : UInt64) : Bool := low number = 0xffffffff || low number = userNumber

/-- The version of the structure in which privileges are told. -/
def privilegeVersion : UInt64 := 0x20080522

/-- How many sets of three words there are in a version of the structure. -/
def privilegeSets? (version : UInt64) : Option Nat :=
  if version = 0x19980330 then some 1
  else if version = 0x20071026 || version = privilegeVersion then some 2
  else none

end Kernel

namespace Service

open Kernel

/-- The number of the user and of the group of all processes. -/
def user : Service := fun _ => return result userNumber

/-- Tells the number of the user three times. -/
def tellUsers : Service := fun arguments => do
  for address in [arguments.first, arguments.second, arguments.third] do
    writeNumber address 4 (result userNumber)
  return 0

/-- Becomes a user: only the one that the process already has can be asked for. -/
def setUser : Service := fun arguments => do
  failIf (low arguments.first = 0xffffffff) .invalidArgument
  failIf (!isOwnUser arguments.first) .notPermitted
  return 0

/-- Becomes a user in two ways. -/
def setUsers : Service := fun arguments => do
  failIf (!isOwnUser arguments.first || !isOwnUser arguments.second) .notPermitted
  return 0

/-- Becomes a user in three ways. -/
def setAllUsers : Service := fun arguments => do
  failIf (!([arguments.first, arguments.second, arguments.third].all isOwnUser)) .notPermitted
  return 0

/-- The user that counts for files: what it was is told in any case. -/
def setFileUser : Service := fun _ => return result userNumber

/-- The groups that a process is in besides: there are none. -/
def tellGroups : Service := fun arguments => do
  failIf (lowSigned arguments.first < 0) .invalidArgument
  return 0

/-- Tells the privileges of a process, which has none. -/
def tellPrivileges : Service := fun arguments => do
  let version ← readNumber arguments.first 4
  match privilegeSets? version with
  | none =>
    writeNumber arguments.first 4 privilegeVersion
    if arguments.second = 0 then return 0
    fail .invalidArgument
  | some sets =>
    if arguments.second = 0 then return 0
    let number := lowSigned (← readNumber (arguments.first + 4) 4)
    failIf (number < 0) .invalidArgument
    failIf (number ≠ 0 && !(← isNumbered number.toNat)) .noProcess
    writeMemory arguments.second (padded ByteArray.empty (12 * sets))
    return 0

/-- Gives privileges up. None can be had that was not there before. -/
def setPrivileges : Service := fun arguments => do
  let version ← readNumber arguments.first 4
  match privilegeSets? version with
  | none =>
    writeNumber arguments.first 4 privilegeVersion
    fail .invalidArgument
  | some sets =>
    let number := low (← readNumber (arguments.first + 4) 4)
    failIf (number ≠ 0 && number ≠ (← thread).number) .notPermitted
    let bytes ← readMemory arguments.second (12 * sets)
    failIf (bytes.toList.any (· != 0)) .notPermitted
    return 0

end Service

end StaticElf.Linux
