/-
**Which texts name a platform.**

A text names a platform by an architecture alone, or by an architecture and an operating system with a
dash between. An architecture may have a dash of its own, so a text with a dash could be meant in both
ways; which of them it is never is in doubt.

* `Names`, `lookupName_eq_some_iff` — a text that is in a table, without regard to case.
* `splitLastDash_eq_some_iff` — a text has one last dash.
* `Platform.Bare`, `Platform.Paired` — the two ways to name a platform; `not_names_arch` says that no text
  is both.
* `Platform.paired_iff_lower` — what a text names can be told from it in lower case.
* `Platform.parse_grammar` — exactly the texts that name a platform are read, and as what they name.
-/

import Mathlib.Data.List.Nodup
import StaticElf.Proofs.LowerCase
import StaticElf.Proofs.Outcome

namespace StaticElf

/-! ### Names in a table -/

/-- **A text names a thing of a table**, without regard to case. -/
def Names {α : Type} (names : List (String × α)) (text : Bytes) (value : α) : Prop :=
  ∃ name, (name, value) ∈ names ∧ Text.lower text = Utf8.ofString name

section Tables

variable {α : Type} {names : List (String × α)} {text : Bytes} {value : α}

/-- In a table without repetitions, a text is found exactly as what it names. -/
theorem lookupName_eq_some_iff (distinct : (names.map fun entry => Utf8.ofString entry.1).Nodup) :
    lookupName names text = some value ↔ Names names text value := by
  rw [lookupName, Option.map_eq_some_iff]
  constructor
  · rintro ⟨⟨name, value⟩, found, rfl⟩
    have same := List.find?_some found
    exact ⟨name, List.mem_of_find?_eq_some found, (of_decide_eq_true same).symm⟩
  · rintro ⟨name, listed, same⟩
    have exists_entry : (names.find? fun entry => Utf8.ofString entry.1 = Text.lower text).isSome := by
      rw [List.find?_isSome]
      exact ⟨(name, value), listed, decide_eq_true same.symm⟩
    obtain ⟨entry, found⟩ := Option.isSome_iff_exists.mp exists_entry
    have key : Utf8.ofString entry.1 = Text.lower text := by simpa using List.find?_some found
    have only := List.inj_on_of_nodup_map distinct (List.mem_of_find?_eq_some found) listed
      (key.trans same)
    exact ⟨entry, found, congrArg Prod.snd only⟩

end Tables

theorem Arch.parse?_eq_ok_iff {text : Bytes} {arch : Arch} :
    Arch.parse? text = .ok arch ↔ Names Arch.names text arch := by
  rw [← lookupName_eq_some_iff (by decide), Arch.parse?]
  cases lookupName Arch.names text <;> simp

theorem Os.parse?_eq_ok_iff {text : Bytes} {os : Os} :
    Os.parse? text = .ok os ↔ Names Os.names text os := by
  rw [← lookupName_eq_some_iff (by decide), Os.parse?]
  cases lookupName Os.names text <;> simp

/-! ### The last dash -/

theorem splitLastDash_eq_none_iff {text : Bytes} : splitLastDash text = none ↔ dash ∉ text := by
  induction text with
  | nil => simp [splitLastDash]
  | cons byte rest ih =>
    rw [splitLastDash, List.mem_cons, not_or, ← ih]
    cases splitLastDash rest with
    | some parts => simp
    | none => simp [eq_comm]

/-- **The last dash of a text**: no other stands behind it. -/
theorem splitLastDash_eq_some_iff {text before after : Bytes} :
    splitLastDash text = some (before, after) ↔ text = before ++ dash :: after ∧ dash ∉ after := by
  constructor
  · intro split
    induction text generalizing before with
    | nil => cases split
    | cons byte rest ih =>
      rw [splitLastDash] at split
      cases later : splitLastDash rest with
      | some parts =>
        rw [later] at split
        cases split
        obtain ⟨same, clear⟩ := ih later
        exact ⟨congrArg (byte :: ·) same, clear⟩
      | none =>
        rw [later] at split
        obtain ⟨isDash, same⟩ := Option.ite_none_right_eq_some.mp split
        cases same
        exact ⟨congrArg (· :: after) isDash, splitLastDash_eq_none_iff.mp later⟩
  · rintro ⟨rfl, clear⟩
    induction before with
    | nil =>
      rw [List.nil_append, splitLastDash, splitLastDash_eq_none_iff.mpr clear]
      exact if_pos rfl
    | cons byte before ih => rw [List.cons_append, splitLastDash, ih]

/-- Texts that are the same agree before and behind their last dash. -/
theorem eq_of_lastDash {before after before' after' : Bytes} (clear : dash ∉ after)
    (clear' : dash ∉ after') (same : before ++ dash :: after = before' ++ dash :: after') :
    before = before' ∧ after = after' := by
  have split := splitLastDash_eq_some_iff.mpr ⟨same, clear'⟩
  rw [splitLastDash_eq_some_iff.mpr ⟨rfl, clear⟩] at split
  exact Prod.mk.inj (Option.some.inj split)

/-! ### Platforms -/

/-- The end of no architecture's name is a dash with an operating system's name behind it. -/
theorem not_names_arch {front back : Bytes} {os : Os} (named : Names Os.names back os) (arch : Arch) :
    ¬ Names Arch.names (front ++ dash :: back) arch := by
  have apart : ∀ arch ∈ Arch.names, ∀ os ∈ Os.names,
      ¬ (dash :: Utf8.ofString os.1) <:+ Utf8.ofString arch.1 := by decide
  rintro ⟨archName, archListed, whole⟩
  obtain ⟨osName, osListed, behind⟩ := named
  rw [Text.lower_append_dash, behind] at whole
  exact apart _ archListed _ osListed ⟨Text.lower front, whole⟩

namespace Platform

/-- **A platform named by its architecture alone**, which means Linux. -/
def Bare (platform : Platform) (text : Bytes) : Prop :=
  Names Arch.names text platform.arch ∧ platform.os = .linux

/-- **A platform named by both parts** with a dash between, the last of the text. -/
def Paired (platform : Platform) (text : Bytes) : Prop :=
  ∃ front back, text = front ++ dash :: back ∧ dash ∉ back
    ∧ Names Arch.names front platform.arch ∧ Names Os.names back platform.os

variable {platform other : Platform} {text : Bytes}

/-- **No text names a platform in both ways.** -/
theorem Bare.not_paired (bare : platform.Bare text) : ¬ other.Paired text := by
  rintro ⟨front, back, rfl, -, -, named⟩
  exact not_names_arch named platform.arch bare.1

/-- **What a text names in two parts can be told from it in lower case.** -/
theorem paired_iff_lower :
    platform.Paired text
      ↔ ∃ archName osName, (archName, platform.arch) ∈ Arch.names ∧ (osName, platform.os) ∈ Os.names
        ∧ Text.lower text = Utf8.ofString archName ++ dash :: Utf8.ofString osName := by
  have clear : ∀ os ∈ Os.names, dash ∉ Utf8.ofString os.1 := by decide
  constructor
  · rintro ⟨front, back, rfl, -, ⟨archName, archListed, before⟩, ⟨osName, osListed, behind⟩⟩
    exact ⟨archName, osName, archListed, osListed, by rw [Text.lower_append_dash, before, behind]⟩
  · rintro ⟨archName, osName, archListed, osListed, lowered⟩
    have hasDash : dash ∈ text := by
      rw [← Text.dash_mem_lower_iff, lowered]
      simp
    cases split : splitLastDash text with
    | none => exact absurd hasDash (splitLastDash_eq_none_iff.mp split)
    | some parts =>
      obtain ⟨front, back⟩ := parts
      obtain ⟨rfl, clearBack⟩ := splitLastDash_eq_some_iff.mp split
      rw [Text.lower_append_dash] at lowered
      obtain ⟨before, behind⟩ :=
        eq_of_lastDash (mt Text.dash_mem_lower_iff.mp clearBack) (clear _ osListed) lowered
      exact ⟨front, back, rfl, clearBack, ⟨archName, archListed, before⟩, ⟨osName, osListed, behind⟩⟩

/-- The parts that a text names are those at its last dash. -/
theorem paired_append_iff {before after : Bytes} (clear : dash ∉ after) :
    platform.Paired (before ++ dash :: after)
      ↔ Names Arch.names before platform.arch ∧ Names Os.names after platform.os := by
  constructor
  · rintro ⟨front, back, same, clear', archNamed, osNamed⟩
    obtain ⟨rfl, rfl⟩ := eq_of_lastDash clear clear' same
    exact ⟨archNamed, osNamed⟩
  · rintro ⟨archNamed, osNamed⟩
    exact ⟨before, after, rfl, clear, archNamed, osNamed⟩

theorem map_arch_eq_ok_iff {os : Os} :
    (Arch.parse? text).map (⟨·, os⟩) = .ok platform
      ↔ Names Arch.names text platform.arch ∧ platform.os = os := by
  rw [except_map_eq_ok]
  simp only [Arch.parse?_eq_ok_iff]
  constructor
  · rintro ⟨arch, named, rfl⟩
    exact ⟨named, rfl⟩
  · rintro ⟨named, rfl⟩
    exact ⟨platform.arch, named, rfl⟩

/-- **What is read is what is named.** -/
theorem parse?_eq_ok_iff :
    Platform.parse? text = .ok platform ↔ platform.Bare text ∨ platform.Paired text := by
  unfold Platform.parse?
  cases split : splitLastDash text with
  | none =>
    have notPaired : ¬ platform.Paired text := by
      rintro ⟨front, back, rfl, -⟩
      exact splitLastDash_eq_none_iff.mp split (by simp)
    exact map_arch_eq_ok_iff.trans (or_iff_left notPaired).symm
  | some parts =>
    obtain ⟨before, after⟩ := parts
    obtain ⟨rfl, clear⟩ := splitLastDash_eq_some_iff.mp split
    rw [paired_append_iff clear]
    dsimp only
    cases reads : Os.parse? after with
    | ok os =>
      have named := Os.parse?_eq_ok_iff.mp reads
      have notBare : ¬ platform.Bare (before ++ dash :: after) := fun bare =>
        not_names_arch named platform.arch bare.1
      rw [or_iff_right notBare, map_arch_eq_ok_iff, ← Os.parse?_eq_ok_iff, reads, Except.ok.injEq,
        eq_comm]
    | error error =>
      have notNamed : ¬ Names Os.names after platform.os := by
        rw [← Os.parse?_eq_ok_iff, reads]
        exact nofun
      exact map_arch_eq_ok_iff.trans (or_iff_left fun paired => notNamed paired.2).symm

/-- What a text names is the same for texts that are the same in lower case. -/
theorem named_congr {text' : Bytes} (same : Text.lower text = Text.lower text') :
    platform.Bare text ∨ platform.Paired text ↔ platform.Bare text' ∨ platform.Paired text' := by
  rw [paired_iff_lower, paired_iff_lower, Bare, Bare, Names, Names, same]

theorem parse_of_ok {platform : Platform} (reads : Platform.parse? text = .ok platform) :
    Platform.parse text = (platform, none) := by
  rw [Platform.parse, reads]

/-- **Every failure is told in the same way**, and no part of a platform is told with it. -/
theorem parse_of_error {error : TargetError} (fails : Platform.parse? text = .error error) :
    Platform.parse text = (.unknown, some error.fault)
      ∧ error.fault.category = some .argument ∧ error.fault.kinds = [.unsupportedTarget] := by
  rw [Platform.parse, fails]
  exact ⟨rfl, rfl, rfl⟩

/-- **What is read depends on the text in lower case alone.** -/
theorem toOption_parse?_congr {text' : Bytes} (same : Text.lower text = Text.lower text') :
    (Platform.parse? text).toOption = (Platform.parse? text').toOption := by
  have results (platform : Platform) :
      Platform.parse? text = .ok platform ↔ Platform.parse? text' = .ok platform := by
    rw [parse?_eq_ok_iff, parse?_eq_ok_iff, named_congr same]
  cases read : Platform.parse? text with
  | ok platform => rw [(results platform).mp read]
  | error error =>
    cases read' : Platform.parse? text' with
    | ok platform =>
      rw [(results platform).mpr read'] at read
      cases read
    | error error' => rfl

/-- **The texts that name a platform.** A text is read as a platform exactly if it names it, in one of
two ways: as one of the architectures, for Linux, or as an architecture and an operating system at the
two sides of its last dash. No text does both. The answer is then this platform and no failure. For any
other text both parts of the platform in the answer have the code zero, and the failure is one of the
argument, of the kind for targets. Whether a text is read, and as what, depends on it in lower case
alone. -/
theorem parse_grammar (text : Bytes) :
    (∀ platform : Platform, Platform.parse? text = .ok platform
        ↔ platform.Bare text ∨ platform.Paired text)
      ∧ (∀ platform other : Platform, ¬ (platform.Bare text ∧ other.Paired text))
      ∧ (∀ platform, Platform.parse? text = .ok platform → Platform.parse text = (platform, none))
      ∧ (∀ error, Platform.parse? text = .error error →
        Platform.parse text = (⟨.other 0, .other 0⟩, some error.fault)
          ∧ error.fault.category = some .argument ∧ error.fault.kinds = [.unsupportedTarget])
      ∧ ∀ other, Text.lower other = Text.lower text →
        (Platform.parse? other).toOption = (Platform.parse? text).toOption :=
  ⟨fun _ => parse?_eq_ok_iff, fun _ _ named => named.1.not_paired named.2,
    fun _ reads => parse_of_ok reads, fun _ fails => parse_of_error fails, fun _ same => toOption_parse?_congr same⟩

/-- Two dashes, and a capital letter that is no ASCII and becomes one. -/
theorem parse_grammar_dashes :
    Platform.parse (Utf8.ofString "X86-64-LİNUX") = (⟨.x86_64, .linux⟩, none)
      ∧ ∀ platform : Platform, ¬ platform.Bare (Utf8.ofString "X86-64-LİNUX") := by
  obtain ⟨reads, apart, answers, -⟩ := parse_grammar (Utf8.ofString "X86-64-LİNUX")
  have paired : (⟨.x86_64, .linux⟩ : Platform).Paired (Utf8.ofString "X86-64-LİNUX") :=
    ⟨Utf8.ofString "X86-64", Utf8.ofString "LİNUX", by decide, by decide,
      ⟨"x86-64", by decide, by decide +kernel⟩, ⟨"linux", by decide, by decide +kernel⟩⟩
  exact ⟨answers _ ((reads _).mpr (.inr paired)), fun platform bare => apart platform _ ⟨bare, paired⟩⟩

end Platform

end StaticElf
