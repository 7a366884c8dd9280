/-
**From a program to an executable file.**

* `writeExecutable` — checks an assembly, then creates a file, writes it and lets it be run.
* `compile` — builds a program in the standard layout, makes the directory of the path, and writes the
  executable. Nothing is touched when the build fails.
-/

import StaticElf.Builder
import StaticElf.FileHost

namespace StaticElf

/-- Why an executable file was not written. -/
inductive WriteError where
  | emit (error : Elf.EmitError)
  | create (error : OpenError)
  | makeExecutable (path : Bytes) (reason : String)
  | close (path : Bytes) (reason : String)
  | notExecutable (path : Bytes)
  deriving DecidableEq, Repr

/-- The failure as it is reported. -/
def WriteError.fault : WriteError → Fault
  | emit error => error.fault
  | create error => .io s!"creating {Utf8.display error.path}" (.plain error.text)
  | makeExecutable path reason => .io s!"making {Utf8.display path} executable" (.plain reason)
  | close path reason => .io s!"closing {Utf8.display path}" (.plain reason)
  | notExecutable path => .io (Utf8.display path) (.plain "not executable after writing")

/-- Why a program did not become an executable file. -/
inductive CompileError where
  | build (error : BuildError)
  | directory (path : Bytes) (error : DirectoryError)
  | write (error : WriteError)
  deriving DecidableEq, Repr

/-- The failure as it is reported. -/
def CompileError.fault : CompileError → Fault
  | build error => error.fault
  | directory path error => .io s!"creating {Utf8.display path}" (.plain error.text)
  | write error => error.fault

section

variable {m : Type → Type} [Monad m]

/-- What remains to be done with the open file after its content is written: letting it be run,
closing it, and seeing whether it can be run. -/
def finishExecutable (host : FileHost m) (path : Bytes) : m (Except WriteError Unit) := do
  match ← host.makeExecutable with
  | .error reason =>
    let _ ← host.close
    return .error (.makeExecutable path reason)
  | .ok () =>
    match ← host.close with
    | .error reason => return .error (.close path reason)
    | .ok () =>
      if ← host.isExecutable path then return .ok () else return .error (.notExecutable path)

/-- Writes an assembly as an executable file. -/
def writeExecutable (host : FileHost m) (verbose : Bool) (path : Bytes)
    (assembly : Option Assembly) : m (Traced WriteError Unit) := do
  match Elf.checkGiven assembly, assembly with
  | .error error, _ => return Traced.fail (.emit (.assembly error))
  | .ok (), none => return Traced.fail (.emit (.assembly .noAssembly))
  | .ok (), some assembly =>
    match ← host.create path with
    | .error errno => return Traced.fail (.create ⟨path, errno⟩)
    | .ok () =>
      let emitted ← Elf.emit verbose (some host.output) (some assembly)
      match emitted.result with
      | .error error =>
        let _ ← host.close
        return ⟨.error (.emit error), emitted.trace⟩
      | .ok () =>
        match ← finishExecutable host path with
        | .error error => return ⟨.error error, emitted.trace⟩
        | .ok () =>
          let noted : Traced WriteError Unit :=
            Traced.note verbose (.fileWritten (Utf8.display path) assembly.entry)
          return ⟨.ok (), emitted.trace ++ noted.trace⟩

/-- Makes the directory of a path, unless that is the working directory. -/
def makeDirectoryOf (host : FileHost m) (path : Bytes) : m (Except CompileError Unit) := do
  let directory := Path.directory path
  if directory = Path.here then
    return .ok ()
  else
    let made ← makeDirectories host (Path.ancestors directory)
    return made.mapError (.directory directory)

/-- Builds a program and writes it as an executable file. -/
def compile (host : FileHost m) (verbose : Bool) (program : Option Program) (path : Bytes) :
    m (Traced CompileError Assembly) := do
  let built := (({} : Builder).build verbose program).1
  match built.result with
  | .error error => return ⟨.error (.build error), built.trace⟩
  | .ok assembly =>
    match ← makeDirectoryOf host path with
    | .error error => return ⟨.error error, built.trace⟩
    | .ok () =>
      let written ← writeExecutable host verbose path (some assembly)
      return ⟨(written.result.mapError .write).map fun _ => assembly, built.trace ++ written.trace⟩

end

end StaticElf
