/-
**The command.**

The command writes the greeting program as an executable and can run it. It reads its settings from the
environment and from flags, greets, compiles, takes leave, and says on its error stream what went wrong.

* `flagSpecs` — the flags of the command, with defaults from the environment.
* `Plan.make` — what the arguments and the environment ask for.
* `Plan.perform` — does what a plan says.
* `runCommand` — the whole command on a file system; `runCommandWith` leaves open which texts of the
  environment are a yes.
-/

import StaticElf.Flags
import StaticElf.Hello
import StaticElf.Run
import StaticElf.Settings

namespace StaticElf

/-- What the command leaves behind: its exit status and what it wrote. -/
structure Outcome where
  status : Int
  stdout : Bytes := []
  stderr : Bytes := []
  deriving DecidableEq, Repr

/-- The name of the command. -/
def commandName : String := "tacet"

/-- What `-o` and `-output` are for. -/
def outputHelp : String := "output executable filename"

/-- What `-V` and `-version` are for. -/
def versionHelp : String := "print version information and exit"

/-- What `-v` and `-verbose` are for. -/
def verboseHelp : String := "verbose mode (show encodings, symbol addresses and headers)"

/-- The flags of the command. The texts that count when a flag is not set come from the
environment. -/
def flagSpecs (settings : Settings) : List FlagSpec := [
  ⟨shortOutput, true, outputHelp, settings.output⟩,
  ⟨longOutput, true, outputHelp, settings.output⟩,
  ⟨"target", true, "target platform (only x86_64-linux is supported)", settings.target⟩,
  ⟨"V", false, versionHelp, []⟩,
  ⟨"version", false, versionHelp, []⟩,
  ⟨"v", false, verboseHelp, []⟩,
  ⟨"verbose", false, verboseHelp, []⟩,
  ⟨"run", false, "run the executable after writing it", []⟩,
  ⟨"q", false, "do not print the greeting and farewell", []⟩]

/-- What the command is asked to do. -/
structure Plan where
  showVersion : Bool
  verbose : Bool
  output : Bytes
  target : Bytes
  run : Bool
  quiet : Bool
  deriving DecidableEq, Repr

/-- What the settings of the environment and the flags ask for. Verbose mode is on if any of them
asks for it. -/
def Plan.make (settings : Settings) (flags : List FlagSetting) : Plan where
  showVersion := isOn flags "version" || isOn flags "V"
  verbose := settings.verbose || isOn flags "v" || isOn flags "verbose"
  output := outputPath flags settings.output settings.output
  target := (lastText flags "target").getD settings.target
  run := isOn flags "run"
  quiet := isOn flags "q"

/-- What is shown about a failure: its report, or its bare text. -/
def failureText (fault : Fault) : String :=
  match fault.headReport with
  | some (report, chain) => Fault.terminalText false report chain
  | none => s!"Error: {fault.message}\n"

/-- What is written before the executable is. -/
def helloLine : String := "hello, world!\n"

/-- What is written after the executable was. -/
def goodbyeLine : String := "goodbye, world!\n"

/-- The platform for which an executable is generated. -/
def chooseTarget (target : Bytes) : Except TargetError Platform := do
  let platform ← Platform.parse? target
  if platform.supported then return platform else throw (.notGenerated platform)

/-- The outcome of a failure, after what was written before. -/
def failed (stdout stderr : String) (fault : Fault) : Outcome :=
  { status := 1
    stdout := Utf8.ofString stdout
    stderr := Utf8.ofString (stderr ++ failureText fault) }

section

variable {m : Type → Type} [Monad m]

/-- Compiles the greeting program and runs it if asked to. -/
def carryOut (host : FileHost m) (uname : Except Errno Uname) (plan : Plan) : m Outcome := do
  match chooseTarget plan.target with
  | .error error => return failed "" "" error.fault
  | .ok platform =>
    let chosen : Traced Unit Unit :=
      Traced.note plan.verbose (.targetChosen platform.text (Utf8.display plan.output))
    let greeted := if plan.quiet then "" else helloLine
    let compiled ← compile host plan.verbose (some helloProgram) plan.output
    let noted := traceText (chosen.trace ++ compiled.trace)
    match compiled.result with
    | .error error => return failed greeted noted error.fault
    | .ok assembly =>
      let named : Traced Unit Unit :=
        Traced.note plan.verbose
          (.buildNamed assembly.digest assembly.code.length assembly.data.length)
      let noted := noted ++ traceText named.trace
      let said := greeted ++ (if plan.quiet then "" else goodbyeLine)
      if plan.run then
        let ran ← runExecutable host plan.verbose uname plan.output
        let noted := noted ++ traceText ran.trace
        match ran.result with
        | .error error => return failed said noted error.fault
        | .ok result =>
          return {
            status := result.status % 256
            stdout := Utf8.ofString said ++ result.stdout
            stderr := Utf8.ofString noted ++ result.stderr }
      else
        return { status := 0, stdout := Utf8.ofString said, stderr := Utf8.ofString noted }

/-- Does what a plan says: tells the version, or compiles. -/
def Plan.perform (host : FileHost m) (uname : Except Errno Uname) (plan : Plan) : m Outcome :=
  if plan.showVersion then
    return { status := 0, stdout := Utf8.ofString (versionText ++ "\n") }
  else carryOut host uname plan

/-- The whole command, by which texts are a yes: arguments, environment, what the machine says about
itself. -/
def runCommandWith (isYes : Bytes → Bool) (host : FileHost m) (uname : Except Errno Uname)
    (environment : Environment) (arguments : List Bytes) : m Outcome := do
  let settings := Settings.loadWith isYes environment
  let specs := flagSpecs settings
  match parseFlags specs arguments with
  | .error .help =>
    return { status := 0, stderr := Utf8.ofString (usage commandName specs) }
  | .error error =>
    return { status := 2, stderr := Utf8.ofString (error.text ++ "\n" ++ usage commandName specs) }
  | .ok flags => (Plan.make settings flags).perform host uname

/-- The whole command. -/
def runCommand (host : FileHost m) (uname : Except Errno Uname) (environment : Environment)
    (arguments : List Bytes) : m Outcome :=
  runCommandWith Environment.isYes host uname environment arguments

end

end StaticElf
