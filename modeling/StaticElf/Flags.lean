/-
**Command line flags.**

A flag is an argument that starts with one dash or two. A text flag has a value, after an equals sign or
as the next argument; a switch is on unless it is given another value after an equals sign. Reading stops
at the first argument that is no flag, and behind a bare double dash.

* `FlagSpec` — a flag that is known; `usage` lists them.
* `parseFlags` — the flags that were set, in order, or the first thing wrong.
* `lastText`, `isOn`, `isSet` — what the settings amount to: the last one counts.
* `outputPath` — which of the two spellings of the output path is used.
-/

import StaticElf.Text.Quoted

namespace StaticElf

/-- A flag that is known. -/
structure FlagSpec where
  name : String
  /-- Whether the flag has a text as its value; if not it is a switch. -/
  takesText : Bool
  help : String
  /-- The text that counts when the flag is not set. -/
  default : Bytes := []
  deriving DecidableEq, Repr

/-- The value of a flag that was set. -/
inductive FlagValue where
  | text (value : Bytes)
  | switch (on : Bool)
  deriving DecidableEq, Repr

/-- A flag that was set, and to what. -/
structure FlagSetting where
  name : String
  value : FlagValue
  deriving DecidableEq, Repr

/-- What can be wrong with the arguments. -/
inductive FlagError where
  /-- A flag without a name, or with a third dash. -/
  | badSyntax (argument : Bytes)
  | undefined (name : Bytes)
  | invalidSwitch (name : String) (value : Bytes)
  | missingText (name : String)
  /-- Help was asked for. -/
  | help
  deriving DecidableEq, Repr

/-- How a failure is told. -/
def FlagError.text : FlagError → String
  | badSyntax argument => s!"bad flag syntax: {Utf8.display argument}"
  | undefined name => s!"flag provided but not defined: -{Utf8.display name}"
  | invalidSwitch name value =>
    s!"invalid boolean value {Text.quoted value} for -{name}: parse error"
  | missingText name => s!"flag needs an argument: -{name}"
  | help => "flag: help requested"

/-! ### Reading arguments -/

/-- The byte that starts a flag. -/
def flagDash : UInt8 := 0x2d

/-- The byte in front of a value. -/
def equalsSign : UInt8 := 0x3d

/-- What an argument is. -/
inductive Argument where
  /-- No flag, or the bare double dash: reading stops. -/
  | stop
  | malformed
  /-- A flag with its name and the value behind an equals sign, if any. -/
  | flag (name : Bytes) (value : Option Bytes)
  deriving DecidableEq, Repr

/-- The name of a flag and the value behind its first equals sign. The name has at least one byte,
which is no equals sign. -/
def splitValue (named : Bytes) : Bytes × Option Bytes :=
  match named.dropWhile (· != equalsSign) with
  | [] => (named, none)
  | _ :: value => (named.takeWhile (· != equalsSign), some value)

/-- A flag by what follows its dashes. -/
def Argument.named (rest : Bytes) : Argument :=
  match rest with
  | [] => .malformed
  | first :: _ =>
    if first = flagDash || first = equalsSign then .malformed
    else .flag (splitValue rest).1 (splitValue rest).2

/-- What an argument is. -/
def Argument.classify : Bytes → Argument
  | first :: second :: rest =>
    if first != flagDash then .stop
    else if second != flagDash then .named (second :: rest)
    else if rest.isEmpty then .stop
    else .named rest
  | _ => .stop

/-- The words for on and off. -/
def switchValue? (value : Bytes) : Option Bool :=
  if ["1", "t", "T", "TRUE", "true", "True"].any (Utf8.ofString · = value) then some true
  else if ["0", "f", "F", "FALSE", "false", "False"].any (Utf8.ofString · = value) then some false
  else none

/-- The known flag with a name. -/
def findFlag (specs : List FlagSpec) (name : Bytes) : Option FlagSpec :=
  specs.find? fun spec => Utf8.ofString spec.name = name

/-- Whether a name that is not known asks for help. -/
def asksHelp (name : Bytes) : Bool :=
  name = Utf8.ofString "help" || name = Utf8.ofString "h"

/-- What a single argument amounts to. -/
inductive Reading where
  /-- Reading stops. -/
  | stop
  | setting (setting : FlagSetting)
  /-- A text flag whose value is the next argument. -/
  | awaitsText (name : String)
  deriving DecidableEq, Repr

/-- What a known flag amounts to, with the value behind its equals sign. -/
def FlagSpec.read (spec : FlagSpec) (value : Option Bytes) : Except FlagError Reading :=
  match value with
  | none =>
    if spec.takesText then .ok (.awaitsText spec.name)
    else .ok (.setting ⟨spec.name, .switch true⟩)
  | some text =>
    if spec.takesText then .ok (.setting ⟨spec.name, .text text⟩)
    else match switchValue? text with
      | some on => .ok (.setting ⟨spec.name, .switch on⟩)
      | none => .error (.invalidSwitch spec.name text)

/-- What a single argument amounts to. -/
def readArgument (specs : List FlagSpec) (argument : Bytes) : Except FlagError Reading :=
  match Argument.classify argument with
  | .stop => .ok .stop
  | .malformed => .error (.badSyntax argument)
  | .flag name value =>
    match findFlag specs name with
    | some spec => spec.read value
    | none => .error (if asksHelp name then .help else .undefined name)

/-- The flags that the arguments set, in order. -/
def parseFlags (specs : List FlagSpec) : List Bytes → Except FlagError (List FlagSetting)
  | [] => .ok []
  | argument :: rest =>
    match readArgument specs argument with
    | .error error => .error error
    | .ok .stop => .ok []
    | .ok (.setting setting) => (parseFlags specs rest).map (setting :: ·)
    | .ok (.awaitsText name) =>
      match rest with
      | [] => .error (.missingText name)
      | text :: rest => (parseFlags specs rest).map (⟨name, .text text⟩ :: ·)

/-! ### What was set -/

/-- Whether a flag was set. -/
def isSet (settings : List FlagSetting) (name : String) : Bool := settings.any (·.name == name)

/-- The last text that a flag was set to. -/
def lastText (settings : List FlagSetting) (name : String) : Option Bytes :=
  settings.reverse.findSome? fun setting =>
    match setting.value with
    | .text value => if setting.name = name then some value else none
    | .switch _ => none

/-- Whether a switch is on: it was set and the last setting counts. -/
def isOn (settings : List FlagSetting) (name : String) : Bool :=
  (settings.reverse.findSome? fun setting =>
    match setting.value with
    | .switch on => if setting.name = name then some on else none
    | .text _ => none).getD false

/-- The name of the short spelling of the output path. -/
def shortOutput : String := "o"

/-- The name of the long spelling of the output path. -/
def longOutput : String := "output"

/-- The output path: that of the short spelling, unless only the long one was set. -/
def outputPath (settings : List FlagSetting) (shortDefault longDefault : Bytes) : Bytes :=
  if isSet settings longOutput && !isSet settings shortOutput then
    (lastText settings longOutput).getD longDefault
  else
    (lastText settings shortOutput).getD shortDefault

/-! ### Usage -/

/-- How a flag is listed: name, sort of value, what it is for, and what counts when it is not set. A
one-letter switch has all on one line. -/
def FlagSpec.usage (spec : FlagSpec) : String :=
  let heading := "  -" ++ spec.name ++ (if spec.takesText then " string" else "")
  heading ++ (if heading.length ≤ 4 then "\t" else "\n    \t") ++ spec.help
    ++ (if spec.default.isEmpty then "" else s!" (default {Text.quoted spec.default})") ++ "\n"

/-- The list of the known flags, in the order of their names. -/
def usage (command : String) (specs : List FlagSpec) : String :=
  s!"Usage of {command}:\n" ++
    String.join ((specs.mergeSort fun left right =>
      !byteBefore (Utf8.ofString right.name) (Utf8.ofString left.name)).map FlagSpec.usage)

end StaticElf
