/-
**The program that greets.**

* `helloProgram` writes the greeting to standard output and exits with status 0.
-/

import StaticElf.Program
import StaticElf.Text.Utf8

namespace StaticElf

/-- The line that the program writes. -/
def greeting : Bytes := Utf8.ofString "hello, world!\n"

/-- Writes the greeting to file descriptor 1, then exits with status 0. -/
def helloProgram : Program :=
  let (message, program) := ({} : Program).addString greeting
  program.emit [
    .op (.loadImm .di .qword 1),
    .op (.loadSymbol .si message),
    .op (.loadImm .dx .qword (UInt64.ofNat greeting.length)),
    .op (.syscall .write),
    .op (.loadImm .di .qword 0),
    .op (.syscall .exit)]

/-- The name and version of the command. -/
def versionText : String := "tacet 0.1.0"

end StaticElf
