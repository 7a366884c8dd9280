/-
**Target platforms and their names.**

A platform is an architecture and an operating system. It is named by both with a dash between, or by
the architecture alone, which means Linux. Names are read without regard to case.

* `Arch.parse?`, `Os.parse?`, `Platform.parse?` — the platform that a text names; `Platform.parse` says
  what is answered when it names none.
* `TargetError` — a text that names none, told with a hint, or a platform that cannot be used.
-/

import StaticElf.Fault
import StaticElf.Suggestion
import StaticElf.Text.Lowercase

namespace StaticElf

/-- A processor architecture. Codes other than 1 to 3 have no name. -/
inductive Arch where
  | x86_64
  | aarch64
  | riscv64
  | other (code : Int)
  deriving DecidableEq, Repr

namespace Arch

/-- The architecture with a given code. -/
def ofCode (code : Int) : Arch :=
  if code = 1 then .x86_64 else if code = 2 then .aarch64 else if code = 3 then .riscv64
  else .other code

/-- The code of an architecture. -/
def code : Arch → Int
  | x86_64 => 1
  | aarch64 => 2
  | riscv64 => 3
  | other code => code

/-- The name of an architecture. -/
def text : Arch → String
  | x86_64 => "x86_64"
  | aarch64 => "aarch64"
  | riscv64 => "riscv64"
  | other _ => "unknown"

/-- The names by which an architecture can be asked for. -/
def names : List (String × Arch) :=
  [("x86_64", .x86_64), ("amd64", .x86_64), ("x86-64", .x86_64), ("aarch64", .aarch64),
    ("arm64", .aarch64), ("riscv64", .riscv64), ("rv64", .riscv64)]

end Arch

/-- An operating system. Codes other than 1 to 3 have no name. -/
inductive Os where
  | linux
  | darwin
  | freebsd
  | other (code : Int)
  deriving DecidableEq, Repr

namespace Os

/-- The operating system with a given code. -/
def ofCode (code : Int) : Os :=
  if code = 1 then .linux else if code = 2 then .darwin else if code = 3 then .freebsd
  else .other code

/-- The code of an operating system. -/
def code : Os → Int
  | linux => 1
  | darwin => 2
  | freebsd => 3
  | other code => code

/-- The name of an operating system. -/
def text : Os → String
  | linux => "linux"
  | darwin => "darwin"
  | freebsd => "freebsd"
  | other _ => "unknown"

/-- The names by which an operating system can be asked for. -/
def names : List (String × Os) :=
  [("linux", .linux), ("darwin", .darwin), ("macos", .darwin), ("freebsd", .freebsd)]

end Os

/-- An architecture and an operating system. -/
structure Platform where
  arch : Arch
  os : Os
  deriving DecidableEq, Repr

namespace Platform

/-- The only platform for which executables are generated. -/
def supportedOne : Platform := ⟨.x86_64, .linux⟩

/-- Whether executables are generated for a platform. -/
def supported (platform : Platform) : Bool := platform = supportedOne

/-- The name of a platform. -/
def text (platform : Platform) : String := platform.arch.text ++ "-" ++ platform.os.text

/-- A platform in words. -/
def fullText (platform : Platform) : String := platform.arch.text ++ " on " ++ platform.os.text

end Platform

/-! ### Reading names -/

/-- Why a target cannot be used. -/
inductive TargetError where
  /-- A text that names no architecture. -/
  | unknownArch (text : Bytes)
  /-- A text that names no operating system. -/
  | unknownOs (text : Bytes)
  /-- A platform for which no executables are generated. -/
  | notGenerated (platform : Platform)
  /-- A machine on which the executables do not run. -/
  | notRunnable (host : Platform)
  deriving DecidableEq, Repr

namespace TargetError

/-- The hint for a text that is none of the names. -/
def hintFor {α : Type} (text : Bytes) (names : List (String × α)) : String :=
  hint (Text.lower text) (names.map fun (name, _) => Utf8.ofString name)

/-- What is said about the failure. -/
def message : TargetError → String
  | unknownArch text =>
    s!"unsupported architecture: {Utf8.display text}{hintFor text Arch.names}"
  | unknownOs text => s!"unsupported OS: {Utf8.display text}{hintFor text Os.names}"
  | notGenerated platform => s!"can not generate executables for {platform.fullText}"
  | notRunnable host =>
    s!"can not run {Platform.supportedOne.text} executables on {host.fullText}"

/-- The failure as it is reported. -/
def fault (error : TargetError) : Fault := .argument error.message .unsupportedTarget

end TargetError

/-- What a text names, without regard to case. -/
def lookupName {α : Type} (names : List (String × α)) (text : Bytes) : Option α :=
  (names.find? fun (name, _) => Utf8.ofString name = Text.lower text).map (·.2)

/-- The architecture that a text names. -/
def Arch.parse? (text : Bytes) : Except TargetError Arch :=
  match lookupName Arch.names text with
  | some arch => .ok arch
  | none => .error (.unknownArch text)

/-- The operating system that a text names. -/
def Os.parse? (text : Bytes) : Except TargetError Os :=
  match lookupName Os.names text with
  | some os => .ok os
  | none => .error (.unknownOs text)

/-- The byte between an architecture and an operating system. -/
def dash : UInt8 := 0x2d

/-- A text cut at its last dash, if it has one. -/
def splitLastDash : Bytes → Option (Bytes × Bytes)
  | [] => none
  | byte :: rest =>
    match splitLastDash rest with
    | some (before, after) => some (byte :: before, after)
    | none => if byte = dash then some ([], rest) else none

/-- The platform that a text names. The part behind the last dash counts as an operating system if it
names one; otherwise the whole text is an architecture, since an architecture may have a dash of its
own. -/
def Platform.parse? (text : Bytes) : Except TargetError Platform :=
  match splitLastDash text with
  | some (before, after) =>
    match Os.parse? after with
    | .ok os => (Arch.parse? before).map (⟨·, os⟩)
    | .error _ => (Arch.parse? text).map (⟨·, .linux⟩)
  | none => (Arch.parse? text).map (⟨·, .linux⟩)

/-- The platform of which neither part is known: both codes are zero. -/
def Platform.unknown : Platform := ⟨.ofCode 0, .ofCode 0⟩

/-- What is answered for a text: the platform that it names, or the unknown one and the failure. -/
def Platform.parse (text : Bytes) : Platform × Option Fault :=
  match Platform.parse? text with
  | .ok platform => (platform, none)
  | .error error => (.unknown, some error.fault)

end StaticElf
