/-
**The output path that the flags ask for.**

The output path depends only on the flags of its two spellings, each in its order, and not on what stands
between them.

* `lastNamed`, `lastText_eq_lastNamed` — the last flag of a name, and its text.
* `AsksFor`, `asksFor_outputPath` — the path that the last flags ask for is the output path.
* `outputPath_follows` — the output path is the text of the last flag of its short spelling, or else of
  the long one, wherever they stand.
-/

import Mathlib.Data.List.Perm.Basic
import StaticElf.Proofs.WrittenFlags

namespace StaticElf

/-! ### The output path -/

/-- **The last flag of a name.** -/
def lastNamed (name : String) (written : List WrittenFlag) : Option WrittenFlag :=
  (written.filter (·.name = name)).getLast?

/-- **The path that written flags ask for**: the text of the last flag of the short spelling, if there is
one; else of the last one of the long spelling; and else what counts without a flag. -/
structure AsksFor (written : List WrittenFlag) (fallback path : Bytes) : Prop where
  short : ∀ flag, lastNamed shortOutput written = some flag → flag.value.text? = some path
  long : lastNamed shortOutput written = none →
    ∀ flag, lastNamed longOutput written = some flag → flag.value.text? = some path
  neither : lastNamed shortOutput written = none → lastNamed longOutput written = none →
    path = fallback

/-- There is only one such path, and it depends on the last flags of both names alone. -/
theorem AsksFor.unique {written moved : List WrittenFlag} {fallback path other : Bytes}
    (asks : AsksFor written fallback path) (asks' : AsksFor moved fallback other)
    (short : lastNamed shortOutput moved = lastNamed shortOutput written)
    (long : lastNamed longOutput moved = lastNamed longOutput written) : other = path := by
  cases lastShort : lastNamed shortOutput written with
  | some flag =>
    rw [lastShort] at short
    exact Option.some.inj ((asks'.short flag short).symm.trans (asks.short flag lastShort))
  | none =>
    rw [lastShort] at short
    cases lastLong : lastNamed longOutput written with
    | some flag =>
      rw [lastLong] at long
      exact Option.some.inj
        ((asks'.long short flag long).symm.trans (asks.long lastShort flag lastLong))
    | none =>
      rw [lastLong] at long
      rw [asks'.neither short long, asks.neither lastShort lastLong]

section Paths

variable {specs : List FlagSpec} {written : List WrittenFlag} {flags : List FlagSetting}
  {name : String}

/-- A text flag that is written has a text, and sets it. -/
theorem WrittenFlag.Sets.text {flag : WrittenFlag} {setting : FlagSetting}
    (sets : flag.Sets specs setting)
    (texts : ∀ spec ∈ specs, spec.name = name → spec.takesText = true) (named : flag.name = name) :
    ∃ text, flag.value.text? = some text ∧ setting.value = .text text := by
  obtain ⟨-, -, spec, known, same, amounts⟩ := sets
  rw [texts spec known (same.trans named)] at amounts
  cases value : flag.value with
  | joined text =>
    rw [value] at amounts
    exact ⟨text, rfl, (Option.some.inj amounts).symm⟩
  | separate text =>
    rw [value] at amounts
    exact ⟨text, rfl, (Option.some.inj amounts).symm⟩
  | omitted =>
    rw [value] at amounts
    cases amounts

/-- **The last text of a name is that of the last flag of the name.** -/
theorem lastText_eq_lastNamed (texts : ∀ spec ∈ specs, spec.name = name → spec.takesText = true)
    (sets : List.Forall₂ (WrittenFlag.Sets specs) written flags) :
    lastText flags name = (lastNamed name written).bind (·.value.text?) := by
  rw [lastText, lastNamed, List.getLast?_filter]
  have reversed := List.forall₂_reverse_iff.mpr sets
  generalize written.reverse = written, flags.reverse = flags at reversed
  -- From the end on, the first flag of the name decides on both sides
  induction reversed with
  | nil => rfl
  | @cons flag setting written flags here later ih =>
    by_cases named : flag.name = name
    · obtain ⟨text, shown, set⟩ := here.text texts named
      simp [named, here.2.1, set, shown]
    · have other : setting.name ≠ name := here.2.1 ▸ named
      cases value : setting.value <;> simp [named, other, value, ih]

/-- A name is set exactly if a flag of it is written. -/
theorem isSet_eq_isSome (sets : List.Forall₂ (WrittenFlag.Sets specs) written flags) (name : String) :
    isSet flags name = (lastNamed name written).isSome := by
  calc isSet flags name
    _ = written.any (·.name == name) := by
      unfold isSet
      induction sets with
      | nil => rfl
      | cons here later ih => rw [List.any_cons, List.any_cons, here.2.1, ih]
    _ = (lastNamed name written).isSome := by
      rw [lastNamed, List.getLast?_filter, Bool.eq_iff_iff, List.find?_isSome]
      simp

/-- The last flag of a text flag's name has a text. -/
theorem exists_text_of_lastNamed
    (texts : ∀ spec ∈ specs, spec.name = name → spec.takesText = true)
    (sets : List.Forall₂ (WrittenFlag.Sets specs) written flags) {flag : WrittenFlag}
    (last : lastNamed name written = some flag) : ∃ text, flag.value.text? = some text := by
  have member : flag ∈ written ∧ flag.name = name := by
    simpa using List.mem_of_getLast? last
  obtain ⟨isWritten, named⟩ := member
  clear last
  induction sets with
  | nil => cases isWritten
  | cons here later ih =>
    rcases List.mem_cons.mp isWritten with rfl | isLater
    · obtain ⟨text, shown, -⟩ := here.text texts named
      exact ⟨text, shown⟩
    · exact ih isLater

/-- **The output path is the one that the flags ask for.** -/
theorem asksFor_outputPath (sets : List.Forall₂ (WrittenFlag.Sets specs) written flags)
    (texts : ∀ spec ∈ specs, spec.name = shortOutput ∨ spec.name = longOutput → spec.takesText = true)
    (fallback : Bytes) : AsksFor written fallback (outputPath flags fallback fallback) := by
  have shortText := lastText_eq_lastNamed (fun spec known named => texts spec known (.inl named)) sets
  have longText := lastText_eq_lastNamed (fun spec known named => texts spec known (.inr named)) sets
  unfold outputPath
  rw [isSet_eq_isSome sets, isSet_eq_isSome sets, shortText, longText]
  refine ⟨fun flag last => ?_, fun noShort flag last => ?_, fun noShort noLong => ?_⟩
  · obtain ⟨text, shown⟩ :=
      exists_text_of_lastNamed (fun spec known named => texts spec known (.inl named)) sets last
    simp [last, shown]
  · obtain ⟨text, shown⟩ :=
      exists_text_of_lastNamed (fun spec known named => texts spec known (.inr named)) sets last
    simp [noShort, last, shown]
  · simp [noShort, noLong]

/-- What is written can be written in another order: each flag sets the same. -/
theorem SpelledBy.moved {arguments rest : List Bytes} {moved : List WrittenFlag}
    (spelled : SpelledBy specs arguments written flags rest) (same : moved.Perm written) :
    ∃ changed, SpelledBy specs (moved.flatMap WrittenFlag.arguments ++ rest) moved changed rest := by
  obtain ⟨changed, sets, -⟩ := List.perm_comp_forall₂ same spelled.sets
  exact ⟨changed, rfl, spelled.stops, sets⟩

end Paths

theorem LegalFlags.takesText {specs : List FlagSpec} (legal : LegalFlags specs) {name : String}
    {help : String} {fallback : Bytes} (known : ⟨name, true, help, fallback⟩ ∈ specs) :
    ∀ spec ∈ specs, spec.name = name → spec.takesText = true := by
  intro spec other named
  rw [List.inj_on_of_nodup_map legal.distinct other known named]

/-- **The output path follows the flags that are written.** Among legal flags with both spellings of the
output path, and one path that counts without them, arguments that are accepted are flags written one after
the other. However they are read as such, the output path is the text of the last flag of the short
spelling, also if that is the path that counts without it; else of the last one of the long spelling; and
else the path that counts without a flag. It stays the same if the flags are written in any other order
that keeps those of each spelling in theirs. -/
theorem outputPath_follows {specs : List FlagSpec} (legal : LegalFlags specs) {fallback : Bytes}
    (short : ∃ help, ⟨shortOutput, true, help, fallback⟩ ∈ specs)
    (long : ∃ help, ⟨longOutput, true, help, fallback⟩ ∈ specs)
    {arguments : List Bytes} {flags : List FlagSetting}
    (accepted : parseFlags specs arguments = .ok flags) :
    let path := outputPath flags fallback fallback
    (∃ written rest, SpelledBy specs arguments written flags rest)
      ∧ ∀ written read rest, SpelledBy specs arguments written read rest →
        read = flags
          ∧ AsksFor written fallback path
          ∧ ∀ moved : List WrittenFlag, moved.Perm written →
            (∀ name ∈ [shortOutput, longOutput],
              moved.filter (·.name = name) = written.filter (·.name = name)) →
            ∃ changed, parseFlags specs (moved.flatMap WrittenFlag.arguments ++ rest) = .ok changed
              ∧ outputPath changed fallback fallback = path := by
  intro path
  obtain ⟨shortHelp, shortKnown⟩ := short
  obtain ⟨longHelp, longKnown⟩ := long
  have texts : ∀ spec ∈ specs,
      spec.name = shortOutput ∨ spec.name = longOutput → spec.takesText = true := by
    rintro spec known (named | named)
    · exact legal.takesText shortKnown spec known named
    · exact legal.takesText longKnown spec known named
  refine ⟨spelledBy_of_parseFlags accepted, fun written read rest spelled => ?_⟩
  obtain rfl : read = flags :=
    Except.ok.inj ((legal.parseFlags_of_spelledBy spelled).symm.trans accepted)
  have asks := asksFor_outputPath spelled.sets texts fallback
  refine ⟨rfl, asks, fun moved same kept => ?_⟩
  obtain ⟨changed, respelled⟩ := spelled.moved same
  refine ⟨changed, legal.parseFlags_of_spelledBy respelled, ?_⟩
  -- Both orders have the same last flags of both names
  exact asks.unique (asksFor_outputPath respelled.sets texts fallback)
    (congrArg List.getLast? (kept shortOutput (by simp)))
    (congrArg List.getLast? (kept longOutput (by simp)))

/-- The flags of the command can be told apart. -/
theorem legalFlags_flagSpecs (settings : Settings) : LegalFlags (flagSpecs settings) := by
  have names : (flagSpecs settings).map FlagSpec.name =
      ["o", "output", "target", "V", "version", "v", "verbose", "run", "q"] := rfl
  refine ⟨?_, ?_, ?_⟩
  · rw [names]
    decide
  · rw [← List.forall_mem_map (P := fun name => (Utf8.ofString name).head? ≠ some flagDash), names]
    decide
  · rw [← List.forall_mem_map (P := fun name => equalsSign ∉ Utf8.ofString name), names]
    decide

/-- Flags that set the output path four times, once to what counts without a flag. -/
def pathsAndSwitch : List WrittenFlag := [
  ⟨false, "output", .separate (Utf8.ofString "-v")⟩,
  ⟨false, "o", .joined (Utf8.ofString "a=b")⟩,
  ⟨true, "o", .separate Settings.defaultOutput⟩,
  ⟨true, "v", .omitted⟩,
  ⟨false, "output", .joined (Utf8.ofString "c")⟩]

/-- The same flags, with the short spelling of the output path in front. -/
def shortInFront : List WrittenFlag := [
  ⟨false, "o", .joined (Utf8.ofString "a=b")⟩,
  ⟨true, "o", .separate Settings.defaultOutput⟩,
  ⟨false, "output", .separate (Utf8.ofString "-v")⟩,
  ⟨false, "output", .joined (Utf8.ofString "c")⟩,
  ⟨true, "v", .omitted⟩]

theorem outputPath_follows_pathsAndSwitch :
    let specs := flagSpecs (.load [])
    let rest := ["--", "-o=x"].map Utf8.ofString
    let arguments := pathsAndSwitch.flatMap WrittenFlag.arguments ++ rest
    let path flags := outputPath flags Settings.defaultOutput Settings.defaultOutput
    arguments = ["-output", "-v", "-o=a=b", "--o", "out/yummy", "--v", "-output=c", "--", "-o=x"].map
        Utf8.ofString
      ∧ (∃ flags, parseFlags specs arguments = .ok flags ∧ path flags = Utf8.ofString "out/yummy")
      ∧ ∃ changed, parseFlags specs (shortInFront.flatMap WrittenFlag.arguments ++ rest) = .ok changed
        ∧ path changed = Utf8.ofString "out/yummy" := by
  intro specs rest arguments path
  let flags : List FlagSetting := [⟨"output", .text (Utf8.ofString "-v")⟩,
    ⟨"o", .text (Utf8.ofString "a=b")⟩, ⟨"o", .text Settings.defaultOutput⟩, ⟨"v", .switch true⟩,
    ⟨"output", .text (Utf8.ofString "c")⟩]
  have accepted : parseFlags specs arguments = .ok flags := rfl
  have sets : List.Forall₂ (WrittenFlag.Sets specs) pathsAndSwitch flags := by decide
  have spelled : SpelledBy specs arguments pathsAndSwitch flags rest :=
    ⟨rfl, fun first head => .inr (.inr (Option.some.inj head).symm), sets⟩
  have short : ⟨shortOutput, true, outputHelp, Settings.defaultOutput⟩ ∈ specs := by decide
  have long : ⟨longOutput, true, outputHelp, Settings.defaultOutput⟩ ∈ specs := by decide
  have follows := outputPath_follows (legalFlags_flagSpecs (.load [])) ⟨_, short⟩ ⟨_, long⟩ accepted
  obtain ⟨-, asks, moves⟩ := follows.2 pathsAndSwitch flags rest spelled
  have chosen : path flags = Utf8.ofString "out/yummy" :=
    (Option.some.inj (asks.short ⟨true, "o", .separate Settings.defaultOutput⟩ rfl)).symm
  obtain ⟨changed, reads, same⟩ := moves shortInFront (by decide) (by decide)
  exact ⟨rfl, ⟨flags, accepted, chosen⟩, changed, reads, same.trans chosen⟩

end StaticElf
