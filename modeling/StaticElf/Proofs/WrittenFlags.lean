/-
**Flags as they are written.**

Arguments that are accepted are flags written one after the other, up to where reading stops. A flag has
one dash or two, and its value behind an equals sign, as the next argument, or not at all.

* `WrittenFlag` — a flag as it is written; `WrittenFlag.Sets` says what it sets among known flags.
* `LegalFlags` — flags that can be told apart by their names.
* `Argument.classify_eq_flag_iff`, `Argument.classify_eq_stop_iff` — how a flag looks, and where reading
  stops.
* `SpelledBy` — arguments as written flags; `LegalFlags.parseFlags_of_spelledBy` and
  `spelledBy_of_parseFlags` say that these are the arguments that are accepted, and what is read.
-/

import Mathlib.Data.List.Forall2
import Mathlib.Data.List.Nodup
import Mathlib.Data.List.TakeWhile
import StaticElf.Proofs.Precedence

namespace StaticElf

theorem Utf8.ofString_inj {text other : String} :
    Utf8.ofString text = Utf8.ofString other ↔ text = other := by
  constructor
  · intro same
    have arrays : text.toList.utf8Encode = other.toList.utf8Encode := congrArg List.toByteArray same
    apply String.toByteArray_inj.mp
    rw [← String.utf8Encode_toList, ← String.utf8Encode_toList, arrays]
  · rintro rfl
    rfl

/-! ### Flags as they are written -/

/-- How the value of a flag is written. -/
inductive WrittenValue where
  /-- Behind an equals sign. -/
  | joined (text : Bytes)
  /-- As the next argument. -/
  | separate (text : Bytes)
  | omitted
  deriving DecidableEq, Repr

/-- What a written value amounts to. A text flag has to have one, and a switch none or a word for on or off
behind an equals sign. -/
def WrittenValue.value? (takesText : Bool) : WrittenValue → Option FlagValue
  | .joined text => if takesText then some (.text text) else (switchValue? text).map .switch
  | .separate text => if takesText then some (.text text) else none
  | .omitted => if takesText then none else some (.switch true)

/-- The text that is written. -/
def WrittenValue.text? : WrittenValue → Option Bytes
  | .joined text | .separate text => some text
  | .omitted => none

/-- The dashes of a flag: one or two. -/
def dashes (doubled : Bool) : Bytes := if doubled then [flagDash, flagDash] else [flagDash]

/-- **A flag as it is written** among the arguments. -/
structure WrittenFlag where
  /-- Whether it has two dashes. -/
  doubled : Bool := false
  name : String
  value : WrittenValue
  deriving DecidableEq, Repr

namespace WrittenFlag

/-- The dashes and the name of a flag. -/
def heading (flag : WrittenFlag) : Bytes := dashes flag.doubled ++ Utf8.ofString flag.name

/-- The arguments that a flag takes up. -/
def arguments (flag : WrittenFlag) : List Bytes :=
  match flag.value with
  | .joined text => [flag.heading ++ equalsSign :: text]
  | .separate text => [flag.heading, text]
  | .omitted => [flag.heading]

/-- **What a written flag sets**, if it is known and has a value of its sort. -/
def Sets (specs : List FlagSpec) (flag : WrittenFlag) (setting : FlagSetting) : Prop :=
  flag.name ≠ "" ∧ setting.name = flag.name
    ∧ ∃ spec ∈ specs, spec.name = flag.name ∧ flag.value.value? spec.takesText = some setting.value

instance (specs : List FlagSpec) (flag : WrittenFlag) (setting : FlagSetting) :
    Decidable (Sets specs flag setting) :=
  inferInstanceAs (Decidable (_ ∧ _ ∧ ∃ spec ∈ specs, _ ∧ _))

end WrittenFlag

/-- **Flags that can be told apart**: no two have the same name, and no name starts with a dash or has an
equals sign in it. -/
structure LegalFlags (specs : List FlagSpec) : Prop where
  distinct : (specs.map FlagSpec.name).Nodup
  noDash : ∀ spec ∈ specs, (Utf8.ofString spec.name).head? ≠ some flagDash
  noEquals : ∀ spec ∈ specs, equalsSign ∉ Utf8.ofString spec.name

/-! ### Single arguments -/

section Arguments

variable {name argument : Bytes} {value : Option Bytes}

/-- A name and the value behind an equals sign. -/
def joinValue (name : Bytes) (value : Option Bytes) : Bytes :=
  name ++ value.elim [] (equalsSign :: ·)

/-- A name that a flag can have: it is not empty, starts with no dash and has no equals sign. -/
def PlainName (name : Bytes) : Prop :=
  name ≠ [] ∧ name.head? ≠ some flagDash ∧ equalsSign ∉ name

/-- **The first equals sign stands between the name and the value.** -/
theorem splitValue_eq_iff {named : Bytes} :
    splitValue named = (name, value) ↔ named = joinValue name value ∧ equalsSign ∉ name := by
  constructor
  · intro split
    have whole := List.takeWhile_append_dropWhile (p := (· != equalsSign)) (l := named)
    have absent : equalsSign ∉ named.takeWhile (· != equalsSign) :=
      fun member => by simpa using List.mem_takeWhile_imp member
    unfold splitValue at split
    split at split
    · next none =>
      cases split
      rw [none, List.append_nil] at whole
      exact ⟨(List.append_nil _).symm, whole ▸ absent⟩
    · next first rest found =>
      cases split
      have stopped : first = equalsSign := by
        have stops := List.head_dropWhile_not (· != equalsSign) (l := named) (by simp [found])
        simpa [found] using stops
      rw [found, stopped] at whole
      exact ⟨whole.symm, absent⟩
  · rintro ⟨rfl, absent⟩
    have plain : ∀ byte ∈ name, (byte != equalsSign) = true :=
      fun byte member => bne_iff_ne.mpr fun same => absent (same ▸ member)
    cases value with
    | none => simp [splitValue, joinValue, List.dropWhile_eq_nil_iff.mpr plain]
    | some text =>
      simp [splitValue, joinValue, List.dropWhile_append_of_pos plain,
        List.takeWhile_append_of_pos plain]

theorem Argument.named_eq_flag_iff {rest : Bytes} :
    Argument.named rest = .flag name value ↔ rest = joinValue name value ∧ PlainName name := by
  cases rest with
  | nil =>
    constructor
    · intro refused
      cases refused
    · rintro ⟨joined, notEmpty, -⟩
      exact absurd (List.append_eq_nil_iff.mp joined.symm).1 notEmpty
  | cons first rest =>
    have heads (joined : first :: rest = joinValue name value) (notEmpty : name ≠ []) :
        name.head? = some first := by
      rw [← List.head?_append_of_ne_nil _ notEmpty, ← joinValue, ← joined, List.head?_cons]
    rw [Argument.named]
    split
    · next special =>
      constructor
      · intro refused
        cases refused
      · rintro ⟨joined, notEmpty, noDash, noEquals⟩
        have head := heads joined notEmpty
        rcases (by simpa using special : first = flagDash ∨ first = equalsSign) with rfl | rfl
        · exact absurd head noDash
        · exact absurd (List.mem_of_head? head) noEquals
    · next special =>
      have plain : first ≠ flagDash ∧ first ≠ equalsSign := by simpa using special
      have parts : (splitValue (first :: rest)).1 = name ∧ (splitValue (first :: rest)).2 = value
          ↔ splitValue (first :: rest) = (name, value) := by rw [Prod.ext_iff]
      rw [Argument.flag.injEq, parts, splitValue_eq_iff]
      constructor
      · rintro ⟨joined, noEquals⟩
        have notEmpty : name ≠ [] := by
          rintro rfl
          cases value with
          | none => cases joined
          | some text => exact plain.2 (List.cons.inj joined).1
        refine ⟨joined, notEmpty, fun dash => plain.1 ?_, noEquals⟩
        exact Option.some.inj ((heads joined notEmpty).symm.trans dash)
      · rintro ⟨joined, -, -, noEquals⟩
        exact ⟨joined, noEquals⟩

/-- **How a flag looks**: one dash or two, a name, and a value behind an equals sign. -/
theorem Argument.classify_eq_flag_iff :
    Argument.classify argument = .flag name value
      ↔ PlainName name ∧ ∃ doubled, argument = dashes doubled ++ joinValue name value := by
  constructor
  · intro classified
    unfold Argument.classify at classified
    split at classified
    · next first second rest =>
      split at classified
      · cases classified
      · next isDash =>
        have isDash : first = flagDash := by simpa using isDash
        split at classified
        · obtain ⟨joined, plain⟩ := Argument.named_eq_flag_iff.mp classified
          exact ⟨plain, false, by rw [isDash, joined]; rfl⟩
        · next another =>
          have another : second = flagDash := by simpa using another
          split at classified
          · cases classified
          · obtain ⟨joined, plain⟩ := Argument.named_eq_flag_iff.mp classified
            exact ⟨plain, true, by rw [isDash, another, joined]; rfl⟩
    · cases classified
  · rintro ⟨plain, doubled, rfl⟩
    have named : Argument.named (joinValue name value) = .flag name value :=
      Argument.named_eq_flag_iff.mpr ⟨rfl, plain⟩
    obtain ⟨notEmpty, noDash, -⟩ := plain
    obtain ⟨first, rest, rfl⟩ := List.exists_cons_of_ne_nil notEmpty
    have first : first ≠ flagDash := fun same => noDash (congrArg some same)
    cases doubled with
    | false => simpa [Argument.classify, dashes, joinValue, first] using named
    | true => simpa [Argument.classify, dashes, joinValue] using named

/-- An argument at which reading stops: it starts with no dash, or is nothing but one or two of them. -/
def IsStop (argument : Bytes) : Prop :=
  argument.head? ≠ some flagDash ∨ argument = dashes false ∨ argument = dashes true

theorem Argument.classify_eq_stop_iff : Argument.classify argument = .stop ↔ IsStop argument := by
  have named (rest : Bytes) : Argument.named rest ≠ .stop := by
    intro stop
    unfold Argument.named at stop
    split at stop
    · cases stop
    · split at stop <;> cases stop
  rcases argument with _ | ⟨first, _ | ⟨second, rest⟩⟩
  · simp [Argument.classify, IsStop]
  · simp [Argument.classify, IsStop, dashes, em']
  · by_cases dash : first = flagDash
    · by_cases second : second = flagDash
      · cases rest <;> simp [Argument.classify, IsStop, dashes, dash, second, named]
      · simp [Argument.classify, IsStop, dashes, dash, second, named]
    · simp [Argument.classify, IsStop, dashes, dash]

end Arguments

/-! ### Arguments one after the other -/

/-- What is left where reading stops. -/
def Stops (rest : List Bytes) : Prop := ∀ argument, rest.head? = some argument → IsStop argument

/-- **Arguments as flags written one after the other**, up to where reading stops. -/
structure SpelledBy (specs : List FlagSpec) (arguments : List Bytes) (written : List WrittenFlag)
    (flags : List FlagSetting) (rest : List Bytes) : Prop where
  arguments : arguments = written.flatMap WrittenFlag.arguments ++ rest
  stops : Stops rest
  sets : List.Forall₂ (WrittenFlag.Sets specs) written flags

section Reading

variable {specs : List FlagSpec} {arguments rest : List Bytes} {written : List WrittenFlag}
  {flags : List FlagSetting}

theorem ofString_ne_nil {name : String} (notEmpty : name ≠ "") : Utf8.ofString name ≠ [] :=
  fun empty => notEmpty (Utf8.ofString_inj.mp empty)

theorem LegalFlags.plainName (legal : LegalFlags specs) {spec : FlagSpec} (known : spec ∈ specs)
    (notEmpty : spec.name ≠ "") : PlainName (Utf8.ofString spec.name) :=
  ⟨ofString_ne_nil notEmpty, legal.noDash spec known, legal.noEquals spec known⟩

/-- **A known flag is found by its name.** -/
theorem LegalFlags.findFlag_eq (legal : LegalFlags specs) {spec : FlagSpec} (known : spec ∈ specs) :
    findFlag specs (Utf8.ofString spec.name) = some spec := by
  have found : (findFlag specs (Utf8.ofString spec.name)).isSome := by
    rw [findFlag, List.find?_isSome]
    exact ⟨spec, known, by simp⟩
  obtain ⟨other, first⟩ := Option.isSome_iff_exists.mp found
  have named : Utf8.ofString other.name = Utf8.ofString spec.name := by
    simpa using List.find?_some first
  rw [first, List.inj_on_of_nodup_map legal.distinct (List.mem_of_find?_eq_some first) known
    (Utf8.ofString_inj.mp named)]

/-- An argument with the name of a known flag is that flag. -/
theorem LegalFlags.readArgument_eq (legal : LegalFlags specs) {spec : FlagSpec} (known : spec ∈ specs)
    (notEmpty : spec.name ≠ "") (doubled : Bool) (value : Option Bytes) :
    readArgument specs (dashes doubled ++ joinValue (Utf8.ofString spec.name) value)
      = spec.read value := by
  have classified : Argument.classify (dashes doubled ++ joinValue (Utf8.ofString spec.name) value)
      = .flag (Utf8.ofString spec.name) value :=
    Argument.classify_eq_flag_iff.mpr ⟨legal.plainName known notEmpty, doubled, rfl⟩
  rw [readArgument, classified]
  simp only [legal.findFlag_eq known]

/-- **A flag that is written is read as what it sets**, and then what follows. -/
theorem LegalFlags.parseFlags_arguments (legal : LegalFlags specs) {flag : WrittenFlag}
    {setting : FlagSetting} (sets : flag.Sets specs setting) (rest : List Bytes) :
    parseFlags specs (flag.arguments ++ rest) = (parseFlags specs rest).map (setting :: ·) := by
  obtain ⟨doubled, name, value⟩ := flag
  obtain ⟨_, settingValue⟩ := setting
  obtain ⟨notEmpty, rfl, spec, known, rfl, amounts⟩ := sets
  have reads := legal.readArgument_eq known notEmpty doubled
  have alone := reads none
  rw [joinValue, Option.elim_none, List.append_nil] at alone
  cases value with
  | joined text =>
    have joined : (WrittenFlag.mk doubled spec.name (.joined text)).heading ++ equalsSign :: text
        = dashes doubled ++ joinValue (Utf8.ofString spec.name) (some text) :=
      List.append_assoc ..
    cases takesText : spec.takesText with
    | true =>
      rw [takesText] at amounts
      cases amounts
      simp [WrittenFlag.arguments, joined, parseFlags, reads, FlagSpec.read, takesText]
    | false =>
      rw [takesText] at amounts
      obtain ⟨on, word, rfl⟩ := Option.map_eq_some_iff.mp amounts
      simp [WrittenFlag.arguments, joined, parseFlags, reads, FlagSpec.read, takesText, word]
  | separate text =>
    cases takesText : spec.takesText with
    | true =>
      rw [takesText] at amounts
      cases amounts
      simp [WrittenFlag.arguments, WrittenFlag.heading, parseFlags, alone, FlagSpec.read, takesText]
    | false =>
      rw [takesText] at amounts
      cases amounts
  | omitted =>
    cases takesText : spec.takesText with
    | true =>
      rw [takesText] at amounts
      cases amounts
    | false =>
      rw [takesText] at amounts
      cases amounts
      simp [WrittenFlag.arguments, WrittenFlag.heading, parseFlags, alone, FlagSpec.read, takesText]

theorem parseFlags_of_stops (stops : Stops rest) : parseFlags specs rest = .ok [] := by
  cases rest with
  | nil => rfl
  | cons argument rest =>
    have stop := Argument.classify_eq_stop_iff.mpr (stops argument rfl)
    simp [parseFlags, readArgument, stop]

/-- **Flags that are written one after the other are accepted.** -/
theorem LegalFlags.parseFlags_of_spelledBy (legal : LegalFlags specs)
    (spelled : SpelledBy specs arguments written flags rest) :
    parseFlags specs arguments = .ok flags := by
  obtain ⟨rfl, stops, sets⟩ := spelled
  induction sets with
  | nil => exact parseFlags_of_stops stops
  | cons here later ih =>
    rw [List.flatMap_cons, List.append_assoc, legal.parseFlags_arguments here, ih]
    rfl

/-- What a known flag sets by itself is what it sets as it is written. -/
theorem FlagSpec.read_eq_setting {spec : FlagSpec} {value : Option Bytes} {setting : FlagSetting}
    (read : spec.read value = .ok (.setting setting)) :
    setting.name = spec.name
      ∧ (value.elim WrittenValue.omitted .joined).value? spec.takesText = some setting.value := by
  cases takesText : spec.takesText with
  | true =>
    cases value with
    | none => simp [FlagSpec.read, takesText] at read
    | some text =>
      simp only [FlagSpec.read, takesText, if_true] at read
      cases read
      exact ⟨rfl, rfl⟩
  | false =>
    cases value with
    | none =>
      simp only [FlagSpec.read, takesText, Bool.false_eq_true, if_false] at read
      cases read
      exact ⟨rfl, rfl⟩
    | some text =>
      simp only [FlagSpec.read, takesText, Bool.false_eq_true, if_false] at read
      split at read
      · next on word =>
        cases read
        exact ⟨rfl, congrArg (Option.map FlagValue.switch) word⟩
      · cases read

/-- Only a text flag without a value waits for one. -/
theorem FlagSpec.read_eq_awaitsText {spec : FlagSpec} {value : Option Bytes} {name : String}
    (read : spec.read value = .ok (.awaitsText name)) :
    name = spec.name ∧ value = none ∧ spec.takesText = true := by
  unfold FlagSpec.read at read
  split at read
  · split at read
    · next takesText =>
      cases read
      exact ⟨rfl, rfl, takesText⟩
    · cases read
  · split at read
    · cases read
    · split at read <;> cases read

/-- An argument at which reading goes on is a known flag as it is written. -/
theorem exists_written_of_readArgument {argument : Bytes} {reading : Reading}
    (read : readArgument specs argument = .ok reading) (goesOn : reading ≠ .stop) :
    ∃ spec ∈ specs, spec.name ≠ "" ∧ ∃ doubled value, spec.read value = .ok reading
      ∧ argument = dashes doubled ++ joinValue (Utf8.ofString spec.name) value := by
  unfold readArgument at read
  split at read
  · cases read
    exact absurd rfl goesOn
  · cases read
  · next name value classified =>
    split at read
    · next spec found =>
      have named : Utf8.ofString spec.name = name := by simpa using List.find?_some found
      obtain ⟨plain, doubled, spelled⟩ := Argument.classify_eq_flag_iff.mp classified
      refine ⟨spec, List.mem_of_find?_eq_some found, ?_, doubled, value, read, named ▸ spelled⟩
      rintro empty
      exact plain.1 (named ▸ congrArg Utf8.ofString empty)
    · cases read

theorem isStop_of_readArgument {argument : Bytes} (read : readArgument specs argument = .ok .stop) :
    IsStop argument := by
  unfold readArgument at read
  split at read
  · next classified => exact Argument.classify_eq_stop_iff.mp classified
  · cases read
  · split at read
    · rcases FlagSpec.read_eq_ok read with ⟨_, other, -⟩ | ⟨other, -⟩
      all_goals cases other
    · cases read

theorem SpelledBy.cons (spelled : SpelledBy specs arguments written flags rest) (flag : WrittenFlag)
    (setting : FlagSetting) (sets : flag.Sets specs setting) :
    SpelledBy specs (flag.arguments ++ arguments) (flag :: written) (setting :: flags) rest := by
  refine ⟨?_, spelled.stops, .cons sets spelled.sets⟩
  rw [List.flatMap_cons, List.append_assoc, ← spelled.arguments]

/-- **Arguments that are accepted are flags written one after the other.** -/
theorem spelledBy_of_parseFlags (accepted : parseFlags specs arguments = .ok flags) :
    ∃ written rest, SpelledBy specs arguments written flags rest := by
  fun_induction parseFlags specs arguments generalizing flags with
  | case1 =>
    cases accepted
    exact ⟨[], [], rfl, by simp [Stops], .nil⟩
  | case2 argument rest error read => cases accepted
  | case3 argument rest read =>
    cases accepted
    refine ⟨[], argument :: rest, rfl, fun first head => ?_, .nil⟩
    cases head
    exact isStop_of_readArgument read
  | case4 argument rest setting read ih =>
    obtain ⟨later, parsed, rfl⟩ := except_map_eq_ok.mp accepted
    obtain ⟨written, left, spelled⟩ := ih parsed
    obtain ⟨spec, known, notEmpty, doubled, value, reads, rfl⟩ :=
      exists_written_of_readArgument read (by simp)
    obtain ⟨named, amounts⟩ := FlagSpec.read_eq_setting reads
    refine ⟨⟨doubled, spec.name, value.elim .omitted .joined⟩ :: written, left, ?_⟩
    have next := spelled.cons ⟨doubled, spec.name, value.elim .omitted .joined⟩ setting
      ⟨notEmpty, named, spec, known, rfl, amounts⟩
    cases value with
    | none => simpa [WrittenFlag.arguments, WrittenFlag.heading, joinValue] using next
    | some text => simpa [WrittenFlag.arguments, WrittenFlag.heading, joinValue] using next
  | case5 argument name read => cases accepted
  | case6 argument name read text rest ih =>
    obtain ⟨later, parsed, rfl⟩ := except_map_eq_ok.mp accepted
    obtain ⟨written, left, spelled⟩ := ih parsed
    obtain ⟨spec, known, notEmpty, doubled, value, reads, rfl⟩ :=
      exists_written_of_readArgument read (by simp)
    obtain ⟨rfl, rfl, takesText⟩ := FlagSpec.read_eq_awaitsText reads
    refine ⟨⟨doubled, spec.name, .separate text⟩ :: written, left, ?_⟩
    have next := spelled.cons ⟨doubled, spec.name, .separate text⟩ ⟨spec.name, .text text⟩
      ⟨notEmpty, rfl, spec, known, rfl, by rw [takesText]; rfl⟩
    simpa [WrittenFlag.arguments, WrittenFlag.heading, joinValue] using next

end Reading

end StaticElf
