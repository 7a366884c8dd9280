/-
**Flags before the environment.**

The environment gives what counts when a flag is not set, so two runs with the same arguments in two
environments read the same flags. A flag that has a text decides alone; a switch for verbose mode can
only add to what the environment asks for.

* `parseFlags_congr` — what arguments set does not depend on what counts without them.
* `FlagSetting.Fits`, `fits_of_parseFlags` — every setting is one of a known flag, with a value of its
  sort.
* `lastText_of_isSet`, `outputPath_of_isSet` — so a text flag that was set has a last text, and with it
  the output path does not depend on what counts without.
* `runCommandWith_eq` — all that the command takes from its environment is its plan.
* `plan_precedence` — which parts of the plan the flags decide.
* `verbose_not_switched_off` — a switch that is off does not decide.
-/

import StaticElf.CommandLine
import StaticElf.Proofs.Outcome

namespace StaticElf

/-! ### What arguments set -/

/-- What arguments can tell of a flag: its name, and whether it has a text. -/
def FlagSpec.form (spec : FlagSpec) : String × Bool := (spec.name, spec.takesText)

section Congruence

variable {specs others : List FlagSpec}

theorem FlagSpec.read_congr {spec other : FlagSpec} (same : spec.form = other.form)
    (value : Option Bytes) : spec.read value = other.read value := by
  obtain ⟨name, takesText⟩ := Prod.mk.inj same
  unfold FlagSpec.read
  rw [name, takesText]

theorem map_form_findFlag (specs : List FlagSpec) (name : Bytes) :
    (findFlag specs name).map FlagSpec.form
      = (specs.map FlagSpec.form).find? fun form => Utf8.ofString form.1 = name := by
  rw [List.find?_map]
  rfl

theorem readArgument_congr (same : specs.map FlagSpec.form = others.map FlagSpec.form)
    (argument : Bytes) : readArgument specs argument = readArgument others argument := by
  unfold readArgument
  cases Argument.classify argument with
  | stop => rfl
  | malformed => rfl
  | flag name value =>
    have found := map_form_findFlag specs name
    rw [same, ← map_form_findFlag others name] at found
    dsimp only
    cases here : findFlag specs name with
    | none =>
      rw [here] at found
      rw [Option.map_eq_none_iff.mp found.symm]
    | some spec =>
      rw [here] at found
      obtain ⟨other, there, forms⟩ := Option.map_eq_some_iff.mp found.symm
      rw [there]
      exact FlagSpec.read_congr forms.symm value

/-- **What arguments set depends on the names and the sorts of the flags alone.** -/
theorem parseFlags_congr (same : specs.map FlagSpec.form = others.map FlagSpec.form)
    (arguments : List Bytes) : parseFlags specs arguments = parseFlags others arguments := by
  fun_induction parseFlags specs arguments with
  | case1 => rfl
  | case2 argument rest error read => simp [parseFlags, ← readArgument_congr same, read]
  | case3 argument rest read => simp [parseFlags, ← readArgument_congr same, read]
  | case4 argument rest setting read ih => simp [parseFlags, ← readArgument_congr same, read, ih]
  | case5 argument name read => simp [parseFlags, ← readArgument_congr same, read]
  | case6 argument name read text rest ih => simp [parseFlags, ← readArgument_congr same, read, ih]

end Congruence

/-- Whether a value is a text. -/
def FlagValue.isText : FlagValue → Bool
  | .text _ => true
  | .switch _ => false

/-- **A setting of a known flag**: a text if the flag has one, and else on or off. -/
def FlagSetting.Fits (setting : FlagSetting) (spec : FlagSpec) : Prop :=
  setting.name = spec.name ∧ setting.value.isText = spec.takesText

section Settings

variable {specs : List FlagSpec} {arguments : List Bytes} {flags : List FlagSetting} {name : String}

/-- What a known flag amounts to: a setting of it, or the text that it waits for. -/
theorem FlagSpec.read_eq_ok {spec : FlagSpec} {value : Option Bytes} {reading : Reading}
    (read : spec.read value = .ok reading) :
    (∃ setting, reading = .setting setting ∧ setting.Fits spec)
      ∨ reading = .awaitsText spec.name ∧ spec.takesText = true := by
  cases takesText : spec.takesText with
  | true =>
    cases value with
    | none =>
      rw [FlagSpec.read, takesText] at read
      cases read
      exact .inr ⟨rfl, rfl⟩
    | some text =>
      rw [FlagSpec.read, takesText] at read
      cases read
      exact .inl ⟨_, rfl, rfl, takesText.symm⟩
  | false =>
    cases value with
    | none =>
      rw [FlagSpec.read, takesText] at read
      cases read
      exact .inl ⟨_, rfl, rfl, takesText.symm⟩
    | some text =>
      simp only [FlagSpec.read, takesText, Bool.false_eq_true, if_false] at read
      split at read
      · cases read
        exact .inl ⟨_, rfl, rfl, takesText.symm⟩
      · cases read

/-- What an argument amounts to comes from a known flag, unless reading stops. -/
theorem exists_read_of_readArgument {argument : Bytes} {reading : Reading}
    (read : readArgument specs argument = .ok reading) (goesOn : reading ≠ .stop) :
    ∃ spec ∈ specs, ∃ value, spec.read value = .ok reading := by
  unfold readArgument at read
  split at read
  · cases read
    exact absurd rfl goesOn
  · cases read
  · split at read
    · next spec found => exact ⟨spec, List.mem_of_find?_eq_some found, _, read⟩
    · cases read

/-- **Every setting is one of a known flag.** -/
theorem fits_of_parseFlags (accepted : parseFlags specs arguments = .ok flags) :
    ∀ setting ∈ flags, ∃ spec ∈ specs, setting.Fits spec := by
  fun_induction parseFlags specs arguments generalizing flags with
  | case1 =>
    cases accepted
    exact nofun
  | case2 argument rest error read => cases accepted
  | case3 argument rest read =>
    cases accepted
    exact nofun
  | case4 argument rest setting read ih =>
    obtain ⟨later, parsed, rfl⟩ := except_map_eq_ok.mp accepted
    refine List.forall_mem_cons.mpr ⟨?_, ih parsed⟩
    obtain ⟨spec, known, value, reads⟩ := exists_read_of_readArgument read nofun
    rcases FlagSpec.read_eq_ok reads with ⟨_, same, fits⟩ | ⟨other, -⟩
    · cases same
      exact ⟨spec, known, fits⟩
    · cases other
  | case5 argument name read => cases accepted
  | case6 argument name read text rest ih =>
    obtain ⟨later, parsed, rfl⟩ := except_map_eq_ok.mp accepted
    refine List.forall_mem_cons.mpr ⟨?_, ih parsed⟩
    obtain ⟨spec, known, value, reads⟩ := exists_read_of_readArgument read nofun
    rcases FlagSpec.read_eq_ok reads with ⟨_, other, -⟩ | ⟨same, takesText⟩
    · cases other
    · cases same
      exact ⟨spec, known, rfl, takesText.symm⟩

/-- **A text flag that was set has a last text.** -/
theorem lastText_of_isSet (texts : ∀ spec ∈ specs, spec.name = name → spec.takesText = true)
    (accepted : parseFlags specs arguments = .ok flags) (set : isSet flags name = true) :
    ∃ text, lastText flags name = some text := by
  obtain ⟨setting, member, named⟩ := List.any_eq_true.mp set
  have named : setting.name = name := by simpa using named
  obtain ⟨spec, known, sameName, sort⟩ := fits_of_parseFlags accepted setting member
  have isText : setting.value.isText = true :=
    sort.trans (texts spec known (sameName.symm.trans named))
  rw [← Option.isSome_iff_exists, lastText, List.findSome?_isSome_iff]
  refine ⟨setting, List.mem_reverse.mpr member, ?_⟩
  cases value : setting.value with
  | text text => simp [named]
  | switch on =>
    rw [value] at isText
    cases isText

/-- **The output path does not depend on what counts without a flag** once either spelling was set. It
is the last text of the short one, or of the long one if only that was set. -/
theorem outputPath_of_isSet (texts : ∀ spec ∈ specs,
      spec.name = shortOutput ∨ spec.name = longOutput → spec.takesText = true)
    (accepted : parseFlags specs arguments = .ok flags)
    (set : isSet flags shortOutput = true ∨ isSet flags longOutput = true) :
    ∃ path, (∀ short long, outputPath flags short long = path)
      ∧ lastText flags (if isSet flags shortOutput then shortOutput else longOutput) = some path := by
  unfold outputPath
  cases isShort : isSet flags shortOutput with
  | true =>
    obtain ⟨path, last⟩ := lastText_of_isSet (fun spec known named => texts spec known (.inl named))
      accepted isShort
    exact ⟨path, fun short long => by simp [last], by simp [last]⟩
  | false =>
    have isLong : isSet flags longOutput = true := by simpa [isShort] using set
    obtain ⟨path, last⟩ := lastText_of_isSet (fun spec known named => texts spec known (.inr named))
      accepted isLong
    exact ⟨path, fun short long => by simp [last, isLong], by simp [last]⟩

end Settings

/-! ### What the command is asked to do -/

/-- **All that the command takes from its environment is its plan**, if its arguments are accepted. -/
theorem runCommandWith_eq {m : Type → Type} [Monad m] (host : FileHost m)
    (uname : Except Errno Uname) {isYes : Bytes → Bool} {environment : Environment}
    {arguments : List Bytes} {flags : List FlagSetting}
    (accepted : parseFlags (flagSpecs (.loadWith isYes environment)) arguments = .ok flags) :
    runCommandWith isYes host uname environment arguments
      = (Plan.make (.loadWith isYes environment) flags).perform host uname := by
  simp only [runCommandWith, accepted]

theorem map_form_flagSpecs (settings other : Settings) :
    (flagSpecs settings).map FlagSpec.form = (flagSpecs other).map FlagSpec.form := rfl

/-- **Flags take precedence over the environment, but for a switch that is off**, whatever texts of it are
a yes. In two environments the same arguments are accepted and set the same flags, and what is done is all
in the plan. If the output path is set, in either spelling, or the target is, it is what was set, whatever
the environments say. Verbose mode is on in both if either of its switches is on in the end; if none is,
it is on just where the environment asks for it, also if a switch was set to off. All else comes from the
flags alone, so that with all three decided the plan is the same. -/
theorem plan_precedence (isYes : Bytes → Bool) (first second : Environment) {arguments : List Bytes}
    {flags : List FlagSetting}
    (accepted : parseFlags (flagSpecs (.loadWith isYes first)) arguments = .ok flags) :
    let plan := Plan.make (.loadWith isYes first) flags
    let other := Plan.make (.loadWith isYes second) flags
    let verboseOn := isOn flags "v" || isOn flags "verbose"
    parseFlags (flagSpecs (.loadWith isYes second)) arguments = .ok flags
      ∧ (isSet flags "o" ∨ isSet flags "output" →
        plan.output = other.output
          ∧ lastText flags (if isSet flags "o" then "o" else "output") = some plan.output)
      ∧ (isSet flags "target" →
        plan.target = other.target ∧ lastText flags "target" = some plan.target)
      ∧ (verboseOn = true → plan.verbose = true ∧ other.verbose = true)
      ∧ (verboseOn = false → plan.verbose = isYes (first.value "TACET_VERBOSE")
        ∧ other.verbose = isYes (second.value "TACET_VERBOSE"))
      ∧ plan.showVersion = other.showVersion ∧ plan.run = other.run ∧ plan.quiet = other.quiet
      ∧ (isSet flags "o" ∨ isSet flags "output" → isSet flags "target" → verboseOn = true →
        plan = other)
      ∧ ∀ (m : Type → Type) [Monad m] (host : FileHost m) (uname : Except Errno Uname),
        runCommandWith isYes host uname first arguments = plan.perform host uname
          ∧ runCommandWith isYes host uname second arguments = other.perform host uname := by
  intro plan other verboseOn
  have accepted' : parseFlags (flagSpecs (.loadWith isYes second)) arguments = .ok flags := by
    rw [parseFlags_congr (map_form_flagSpecs (.loadWith isYes second) (.loadWith isYes first)),
      accepted]
  have output (set : isSet flags "o" ∨ isSet flags "output") :
      plan.output = other.output
        ∧ lastText flags (if isSet flags "o" then "o" else "output") = some plan.output := by
    obtain ⟨path, same, last⟩ := outputPath_of_isSet (by simp [flagSpecs, shortOutput, longOutput])
      accepted set
    exact ⟨(same _ _).trans (same _ _).symm, last.trans (congrArg some (same _ _).symm)⟩
  have target (set : isSet flags "target") :
      plan.target = other.target ∧ lastText flags "target" = some plan.target := by
    obtain ⟨text, last⟩ := lastText_of_isSet (by simp [flagSpecs, shortOutput, longOutput])
      accepted set
    have decided (settings : Settings) : (Plan.make settings flags).target = text := by
      simp [Plan.make, last]
    exact ⟨(decided _).trans (decided _).symm, last.trans (congrArg some (decided _).symm)⟩
  have verbose (settings : Settings) :
      (Plan.make settings flags).verbose = (settings.verbose || verboseOn) := Bool.or_assoc _ _ _
  have switchedOn (on : verboseOn = true) : plan.verbose = true ∧ other.verbose = true := by
    simp [plan, other, verbose, on]
  refine ⟨accepted', output, target, switchedOn, fun off => ?_, rfl, rfl, rfl,
    fun outputSet targetSet on => ?_, fun m _ host uname => ?_⟩
  · rw [verbose, verbose, off, Bool.or_false, Bool.or_false]
    exact ⟨rfl, rfl⟩
  · refine Plan.mk.injEq .. ▸ ⟨rfl, ?_, (output outputSet).1, (target targetSet).1, rfl, rfl⟩
    exact (switchedOn on).1.trans (switchedOn on).2.symm
  · exact ⟨runCommandWith_eq host uname accepted, runCommandWith_eq host uname accepted'⟩

/-- An environment that asks for another path, for a target that is not supported, and for a trace. -/
def contrary : Environment :=
  [("TACET_OUT", Utf8.ofString "b"), ("TACET_TARGET", Utf8.ofString "arm64-linux"),
    ("TACET_VERBOSE", Utf8.ofString "yes")]

theorem plan_precedence_contrary :
    let arguments := ["-output=a", "-target", "x86_64-linux", "--verbose"].map Utf8.ofString
    let flags : List FlagSetting := [⟨"output", .text (Utf8.ofString "a")⟩,
      ⟨"target", .text (Utf8.ofString "x86_64-linux")⟩, ⟨"verbose", .switch true⟩]
    parseFlags (flagSpecs (.load contrary)) arguments = .ok flags
      ∧ (Plan.make (.load contrary) flags).output = Utf8.ofString "a"
      ∧ (Plan.make (.load contrary) []).output ≠ (Plan.make (.load []) []).output
      ∧ ∀ (m : Type → Type) [Monad m] (host : FileHost m) (uname : Except Errno Uname),
        runCommand host uname contrary arguments = runCommand host uname [] arguments := by
  intro arguments flags
  have accepted : parseFlags (flagSpecs (.load contrary)) arguments = .ok flags := rfl
  obtain ⟨-, output, -, -, -, -, -, -, same, runs⟩ :=
    plan_precedence Environment.isYes contrary [] accepted
  have path := (output (.inr rfl)).2
  refine ⟨accepted, (Option.some.inj path).symm, by decide, fun m _ host uname => ?_⟩
  obtain ⟨here, there⟩ := runs m host uname
  exact here.trans ((congrArg (Plan.perform host uname) (same (.inr rfl) rfl rfl)).trans there.symm)

/-- **A switch that is off does not decide**: the environment turns verbose mode on against it. -/
theorem verbose_not_switched_off :
    let arguments := ["-q", "-v=false"].map Utf8.ofString
    let asking : Environment := [("TACET_VERBOSE", Utf8.ofString "yes")]
    let flags : List FlagSetting := [⟨"q", .switch true⟩, ⟨"v", .switch false⟩]
    parseFlags (flagSpecs (.load asking)) arguments = .ok flags
      ∧ parseFlags (flagSpecs (.load [])) arguments = .ok flags
      ∧ isSet flags "v" = true
      ∧ (Plan.make (.load asking) flags).verbose = true
      ∧ (Plan.make (.load []) flags).verbose = false :=
  ⟨rfl, rfl, rfl, rfl, rfl⟩

end StaticElf
