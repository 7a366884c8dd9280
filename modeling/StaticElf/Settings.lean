/-
**Settings from the environment.**

* `Environment` — the variables of the environment, with `set` and `unset`.
* `Settings.load` — the settings that the environment asks for; `Settings.loadWith` leaves open which
  texts are a yes.
-/

import StaticElf.Text.Utf8

namespace StaticElf

/-- The variables of the environment, by name. -/
abbrev Environment := List (String × Bytes)

namespace Environment

/-- Removes a variable. -/
def unset (environment : Environment) (name : String) : Environment :=
  environment.filter (·.1 != name)

/-- Gives a variable a value. -/
def set (environment : Environment) (name : String) (value : Bytes) : Environment :=
  (name, value) :: environment.unset name

/-- The value of a variable, empty when it is not set. -/
def value (environment : Environment) (name : String) : Bytes :=
  (environment.lookup name).getD []

/-- The value of a variable, or another when it is empty or not set. -/
def valueOr (environment : Environment) (name : String) (otherwise : Bytes) : Bytes :=
  if (environment.value name).isEmpty then otherwise else environment.value name

/-- The words that count as a yes, in the spellings that count. -/
def affirmations : List String :=
  ["1", "ABSOLUTELY", "AFFIRMATIVE", "Absolutely", "Affirmative", "ENABLE", "ENABLED", "Enable",
    "Enabled", "POSITIVE", "Positive", "T", "TRUE", "True", "Y", "YES", "Yes", "absolutely",
    "affirmative", "enable", "enabled", "positive", "t", "true", "y", "yes"]

/-- Whether a text is a yes. -/
def isYes (text : Bytes) : Bool := affirmations.any fun word => Utf8.ofString word = text

end Environment

/-- The settings of the command. -/
structure Settings where
  verbose : Bool
  output : Bytes
  target : Bytes
  deriving DecidableEq, Repr

namespace Settings

/-- The path that is written when no other is asked for. -/
def defaultOutput : Bytes := Utf8.ofString "out/yummy"

/-- The target when no other is asked for. -/
def defaultTarget : Bytes := Utf8.ofString "x86_64-linux"

/-- The settings that the environment asks for, by which texts are a yes. -/
def loadWith (isYes : Bytes → Bool) (environment : Environment) : Settings where
  verbose := isYes (environment.value "TACET_VERBOSE")
  output := environment.valueOr "TACET_OUT" defaultOutput
  target := environment.valueOr "TACET_TARGET" defaultTarget

/-- The settings that the environment asks for. -/
def load (environment : Environment) : Settings := loadWith Environment.isYes environment

end Settings

end StaticElf
