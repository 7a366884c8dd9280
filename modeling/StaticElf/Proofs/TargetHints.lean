/-
**Which hint a misspelt target gets.**

A text that names no target is told with a question that offers the names near it. A platform is named by
two parts, and each part has names of its own. A misspelt architecture in front of an operating system is
told by itself, with its hint. A misspelt operating system is not: the whole text is told as an
architecture, and what it was compared with are architectures.

* `question`, `toList_hint` — what a hint says, the best name first.
* `Text.length_chars_le` — a text has no more characters than bytes in lower case.
* `cons_suffix_append` — where a character stands in a text that is put together.
* `question_not_infix` — a question about a system is no part of what is said about an architecture.
* `Misspelt` — a text that is none of the names of a table and near one of them.
* `Platform.misspelt_told` — what is said about either part when it is misspelt.
* `Platform.misspelt_os_not_hinted` — a misspelt operating system that gets no hint.
-/

import StaticElf.Proofs.EditScripts
import StaticElf.Proofs.NearestNames
import StaticElf.Proofs.Numerals
import StaticElf.Proofs.PlatformNames

namespace StaticElf

/-! ### What a hint says -/

/-- What a hint asks, from its first word on. -/
def question (best : Bytes) (others : List Bytes) : List Char :=
  "did you mean ".toList ++ (Utf8.chars best
    ++ (others.flatMap (" or ".toList ++ Utf8.chars ·) ++ "?)".toList))

section Hints

variable {name : Bytes} {names : List Bytes}

theorem mem_of_similarNames {limit : Nat} {candidate : Bytes}
    (chosen : candidate ∈ similarNames name names limit) :
    candidate ∈ names ∧ Eligible name candidate := by
  rw [similarNames_eq] at chosen
  have member := List.mem_of_mem_take chosen
  rw [(ranking_rankedNames name names).mem_iff, List.mem_toFinset] at member
  exact member

/-- **A name near enough is reason for a hint**, and nothing else is. -/
theorem similarNames_eq_nil_iff (limit : Nat) :
    similarNames name names (limit + 1) = []
      ↔ ∀ candidate ∈ names, ¬ Eligible name candidate := by
  rw [similarNames_eq, List.take_eq_nil_iff, or_iff_right (Nat.succ_ne_zero limit),
    List.eq_nil_iff_forall_not_mem]
  simp only [(ranking_rankedNames name names).mem_iff, List.mem_toFinset, not_and]

theorem toList_hint_of_cons {best : Bytes} {others : List Bytes}
    (similar : similarNames name names 2 = best :: others) :
    (hint name names).toList = ' ' :: '(' :: question best others := by
  have asked : hint name names
      = " (did you mean " ++ " or ".intercalate ((best :: others).map Utf8.display) ++ "?)" := by
    rw [hint, similar]
  rw [asked, String.toList_append, String.toList_append, String.toList_intercalate, List.map_cons,
    List.map_cons, Text.intercalate_cons, List.flatMap_map, List.flatMap_map, List.append_assoc,
    List.append_assoc, Utf8.display, String.toList_ofList]
  simp only [Utf8.display, String.toList_ofList]
  rfl

/-- **A hint is a question** that offers the best name first, or nothing when no name is near enough. -/
theorem toList_hint (name : Bytes) (names : List Bytes) :
    ((∀ candidate ∈ names, ¬ Eligible name candidate) ∧ hint name names = "")
      ∨ ∃ best others, (∀ candidate ∈ best :: others, candidate ∈ names)
        ∧ (hint name names).toList = ' ' :: '(' :: question best others := by
  cases similar : similarNames name names 2 with
  | nil =>
    refine .inl ⟨(similarNames_eq_nil_iff 1).mp similar, ?_⟩
    rw [hint, similar]
  | cons best others =>
    refine .inr ⟨best, others, fun candidate chosen => ?_, toList_hint_of_cons similar⟩
    rw [← similar] at chosen
    exact (mem_of_similarNames chosen).1

end Hints

/-- **A text has no more characters than bytes in lower case.** -/
theorem Text.length_chars_le (text : Bytes) : (Utf8.chars text).length ≤ (Text.lower text).length := by
  have longer (cs : List Char) : cs.length ≤ (Utf8.encode cs).length := by
    induction cs with
    | nil => exact Nat.le_refl 0
    | cons c cs ih =>
      have some_byte : 0 < (String.utf8EncodeChar c).length := by
        rw [String.length_utf8EncodeChar]
        exact c.utf8Size_pos
      rw [Utf8.encode, List.flatMap_cons, List.length_append, List.length_cons, ← Utf8.encode]
      omega
  have bound := longer ((Utf8.chars text).map Text.lowerChar)
  rwa [List.length_map] at bound

/-! ### The names of the tables -/

/-- The names of a table as they are compared. -/
def spellings {α : Type} (names : List (String × α)) : List Bytes :=
  names.map fun entry => Utf8.ofString entry.1

/-- A text is one of the names in lower case exactly if it names something. -/
theorem lower_mem_spellings {α : Type} {names : List (String × α)} {text : Bytes} :
    Text.lower text ∈ spellings names ↔ ∃ value, Names names text value := by
  constructor
  · intro listed
    obtain ⟨entry, member, same⟩ := List.mem_map.mp listed
    exact ⟨entry.2, entry.1, member, same.symm⟩
  · rintro ⟨value, name, member, same⟩
    exact List.mem_map.mpr ⟨(name, value), member, same.symm⟩

/-- **A short word without a bracket or a colon.** -/
structure PlainWord (name : Bytes) : Prop where
  noBracket : '(' ∉ Utf8.chars name
  noColon : ':' ∉ Utf8.chars name
  notEmpty : Utf8.chars name ≠ []
  length_le : name.length ≤ 7

instance (name : Bytes) : Decidable (PlainWord name) :=
  decidable_of_iff ('(' ∉ Utf8.chars name ∧ ':' ∉ Utf8.chars name ∧ Utf8.chars name ≠ []
      ∧ name.length ≤ 7)
    ⟨fun all => ⟨all.1, all.2.1, all.2.2.1, all.2.2.2⟩,
      fun word => ⟨word.noBracket, word.noColon, word.notEmpty, word.length_le⟩⟩

theorem Arch.plainWord : ∀ name ∈ spellings Arch.names, PlainWord name := by
  decide +kernel

theorem Os.plainWord : ∀ name ∈ spellings Os.names, PlainWord name := by
  decide +kernel

theorem Os.le_length_spelling : ∀ name ∈ spellings Os.names, 5 ≤ (Utf8.chars name).length := by
  decide +kernel

/-- No operating system's name begins as an architecture's does. -/
theorem head_spellings_ne : ∀ os ∈ spellings Os.names, ∀ arch ∈ spellings Arch.names,
    (Utf8.chars os).head? ≠ (Utf8.chars arch).head? := by
  decide +kernel

/-! ### Where a question can stand -/

/-- **A character of a text that is put together** stands in the second part, or in the first with the
second behind it. -/
theorem cons_suffix_append {α : Type} {item : α} {behind first second : List α}
    (stands : item :: behind <:+ first ++ second) :
    item :: behind <:+ second ∨ ∃ rest, item :: rest <:+ first ∧ behind = rest ++ second := by
  obtain ⟨front, same⟩ := stands
  rcases List.append_eq_append_iff.mp same with ⟨more, rfl, rest⟩ | ⟨more, rfl, rest⟩
  · cases more with
    | nil => exact .inl ⟨[], rest⟩
    | cons other more =>
      obtain ⟨rfl, rfl⟩ := List.cons.inj rest
      exact .inr ⟨more, List.suffix_append front _, rfl⟩
  · exact .inl ⟨more, rest.symm⟩

section Questions

variable {best : Bytes} {others : List Bytes}

theorem not_mem_question {mark : Char}
    (notWord : ∀ word ∈ ["did you mean ", " or ", "?)"], mark ∉ word.toList)
    (plain : ∀ name ∈ best :: others, mark ∉ Utf8.chars name) : mark ∉ question best others := by
  intro asked
  rcases List.mem_append.mp asked with words | asked
  · exact notWord _ (by simp) words
  rcases List.mem_append.mp asked with first | asked
  · exact plain best List.mem_cons_self first
  rcases List.mem_append.mp asked with later | closing
  · obtain ⟨name, listed, offered⟩ := List.mem_flatMap.mp later
    rcases List.mem_append.mp offered with words | offered
    · exact notWord _ (by simp) words
    · exact plain name (List.mem_cons_of_mem _ listed) offered
  · exact notWord _ (by simp) closing

theorem getLast?_question (best : Bytes) (others : List Bytes) :
    (question best others).getLast? = some ')' := by
  have closing : "?)".toList.getLast? = some ')' := by decide
  unfold question
  rw [List.getLast?_append, List.getLast?_append, List.getLast?_append, closing]
  rfl

theorem le_length_question (long : 5 ≤ (Utf8.chars best).length) :
    20 ≤ (question best others).length := by
  have words : "did you mean ".toList.length = 13 := by decide
  have closing : "?)".toList.length = 2 := by decide
  unfold question
  rw [List.length_append, List.length_append, List.length_append, words, closing]
  omega

/-- **Questions about an operating system and about an architecture differ** in the first name. -/
theorem question_append_ne {best' : Bytes} {others' : List Bytes} (os : best ∈ spellings Os.names)
    (arch : best' ∈ spellings Arch.names) (behind behind' : List Char) :
    question best others ++ behind ≠ question best' others' ++ behind' := by
  intro same
  unfold question at same
  rw [List.append_assoc, List.append_assoc _ _ behind', List.append_cancel_left_eq,
    List.append_assoc, List.append_assoc _ _ behind'] at same
  have heads := congrArg List.head? same
  rw [List.head?_append_of_ne_nil _ (Os.plainWord best os).notEmpty,
    List.head?_append_of_ne_nil _ (Arch.plainWord best' arch).notEmpty] at heads
  exact head_spellings_ne best os best' arch heads

/-- What a message says behind the text: a question about an architecture or nothing, then a colon. -/
def ArchEnding (behind : List Char) : Prop :=
  ∃ asks cause, behind = asks ++ ':' :: cause ∧ '(' ∉ cause
    ∧ (asks = [] ∨ ∃ best others, (∀ name ∈ best :: others, name ∈ spellings Arch.names)
      ∧ asks = ' ' :: '(' :: question best others)

section OsQuestions

variable (os : ∀ name ∈ best :: others, name ∈ spellings Os.names)
include os

/-- **The end of a question cannot stand behind the text**: a colon is no part of it, and only its first
blank has a bracket behind it. -/
theorem ArchEnding.ne_question_end {behind part more : List Char} (ending : ArchEnding behind)
    (ends : part <:+ question best others) (notEmpty : part ≠ []) : part ++ more ≠ behind := by
  have noBracket : '(' ∉ part := fun listed =>
    not_mem_question (by decide) (fun name listed => (Os.plainWord name (os name listed)).noBracket)
      (ends.mem listed)
  have noColon : ':' ∉ part := fun listed =>
    not_mem_question (by decide) (fun name listed => (Os.plainWord name (os name listed)).noColon)
      (ends.mem listed)
  have last : part.getLast? = some ')' := by
    obtain ⟨front, whole⟩ := ends
    have closing := getLast?_question best others
    rw [← whole, List.getLast?_append_of_ne_nil _ notEmpty] at closing
    exact closing
  intro same
  cases part with
  | nil => exact notEmpty rfl
  | cons first part =>
    obtain ⟨asks, cause, rfl, -, rfl | ⟨best', others', -, rfl⟩⟩ := ending
    · obtain ⟨rfl, -⟩ := List.cons.inj same
      exact noColon List.mem_cons_self
    · obtain ⟨rfl, tails⟩ := List.cons.inj same
      cases part with
      | nil => cases last
      | cons second part =>
        obtain ⟨rfl, -⟩ := List.cons.inj tails
        exact noBracket (by simp)

/-- The bracket of a question about an architecture has no question about an operating system behind it. -/
theorem ArchEnding.question_not_suffix {behind more : List Char} (ending : ArchEnding behind) :
    ¬ '(' :: (question best others ++ more) <:+ behind := by
  obtain ⟨asks, cause, rfl, noBracket, asked⟩ := ending
  intro stands
  rcases cons_suffix_append stands with inCause | ⟨rest, inHint, same⟩
  · have listed := List.mem_cons.mp (inCause.mem List.mem_cons_self)
    exact noBracket (listed.resolve_left (by decide))
  · rcases asked with rfl | ⟨best', others', arch, rfl⟩
    · cases List.suffix_nil.mp inHint
    · have only : '(' ∉ question best' others' :=
        not_mem_question (by decide) fun name listed => (Arch.plainWord name (arch name listed)).noBracket
      obtain ⟨front, whole⟩ := inHint
      have split : [' '] = front ∧ '(' = '(' ∧ question best' others' = rest :=
        (List.append_cons_inj_of_notMem (by decide) only).mp whole.symm
      rw [← split.2.2] at same
      exact question_append_ne (os best List.mem_cons_self) (arch best' List.mem_cons_self) _ _ same

/-- **A question about an operating system is no part of a message about an architecture** that shows a
short text. -/
theorem question_not_infix {heading shown behind : List Char} (noBracket : '(' ∉ heading)
    (short : shown.length < 20) (ending : ArchEnding behind) :
    ¬ ' ' :: '(' :: question best others <:+: heading ++ (shown ++ behind) := by
  rintro ⟨front, more, whole⟩
  have stands : '(' :: (question best others ++ more) <:+ heading ++ (shown ++ behind) :=
    ⟨front ++ [' '], by rw [← whole]; simp⟩
  -- The message has three parts, and the bracket of the question stands in one of them
  rcases cons_suffix_append stands with stands | ⟨rest, inHeading, -⟩
  · rcases cons_suffix_append stands with inEnding | ⟨rest, inShown, same⟩
    · exact ending.question_not_suffix os inEnding
    · -- The text is too short for the question, whose end would stand behind the text
      have long : 20 ≤ (question best others).length :=
        le_length_question (Os.le_length_spelling best (os best List.mem_cons_self))
      have bound := inShown.length_le
      rw [List.length_cons] at bound
      rcases List.append_eq_append_iff.mp same with ⟨part, rfl, rfl⟩ | ⟨part, whole, same⟩
      · rw [List.length_append] at bound
        omega
      · refine ending.ne_question_end os ⟨rest, whole.symm⟩ ?_ same.symm
        rintro rfl
        rw [whole, List.append_nil] at long
        omega
  · exact noBracket (inHeading.mem List.mem_cons_self)

end OsQuestions

end Questions

/-! ### What is said about a misspelt target -/

namespace TargetError

/-- **What is said about a target has these words in it.** -/
def Says (error : TargetError) (words : String) : Prop :=
  words.toList <:+: error.fault.message.toList

instance (error : TargetError) (words : String) : Decidable (error.Says words) :=
  inferInstanceAs (Decidable (_ <:+: _))

/-- What is said about a text that is none of the names, from its heading on. -/
def told (heading : String) (text : Bytes) (hint : String) : String :=
  heading ++ Utf8.display text ++ hint ++ ": " ++ "unsupported target"

theorem toList_told (heading : String) (text : Bytes) (hint : String) :
    (told heading text hint).toList
      = heading.toList ++ (Utf8.chars text
        ++ (hint.toList ++ ':' :: " unsupported target".toList)) := by
  have cause : ": ".toList ++ "unsupported target".toList = ':' :: " unsupported target".toList := by
    decide
  rw [told, String.toList_append, String.toList_append, String.toList_append, String.toList_append,
    Utf8.display, String.toList_ofList, List.append_assoc, List.append_assoc, List.append_assoc, cause]

theorem message_unknownArch (text : Bytes) :
    (unknownArch text).fault.message
      = told "unsupported architecture: " text (hintFor text Arch.names) := rfl

theorem message_unknownOs (text : Bytes) :
    (unknownOs text).fault.message = told "unsupported OS: " text (hintFor text Os.names) := rfl

theorem infix_told (heading : String) (text : Bytes) (hint : String) :
    hint.toList <:+: (told heading text hint).toList := by
  rw [toList_told]
  exact ⟨heading.toList ++ Utf8.chars text, ':' :: " unsupported target".toList,
    by rw [List.append_assoc, List.append_assoc]⟩

theorem unknownArch_says (text : Bytes) : (unknownArch text).Says (hintFor text Arch.names) := by
  rw [Says, message_unknownArch]
  exact infix_told _ text _

theorem unknownOs_says (text : Bytes) : (unknownOs text).Says (hintFor text Os.names) := by
  rw [Says, message_unknownOs]
  exact infix_told _ text _

theorem hintFor_eq {α : Type} (text : Bytes) (names : List (String × α)) :
    hintFor text names = hint (Text.lower text) (spellings names) := rfl

/-- What stands behind the text is about architectures. -/
theorem archEnding (text : Bytes) :
    ArchEnding ((hintFor text Arch.names).toList ++ ':' :: " unsupported target".toList) := by
  refine ⟨_, _, rfl, by decide, ?_⟩
  rw [hintFor_eq]
  rcases toList_hint (Text.lower text) (spellings Arch.names) with ⟨-, silent⟩ | asks
  · exact .inl (by rw [silent]; rfl)
  · exact .inr asks

end TargetError

/-- **A text that is none of the names of a table and near one of them**, without regard to case. -/
structure Misspelt {α : Type} (names : List (String × α)) (text : Bytes) : Prop where
  unnamed : Text.lower text ∉ spellings names
  near : ∃ name ∈ spellings names, editDistance (Text.lower text) name ≤ 3

section Misspelt

variable {α : Type} {names : List (String × α)} {text front back : Bytes}

/-- **What is misspelt gets a hint** from the names that it is compared with. -/
theorem Misspelt.exists_question (misspelt : Misspelt names text) :
    ∃ best others, (∀ name ∈ best :: others, name ∈ spellings names)
      ∧ (TargetError.hintFor text names).toList = ' ' :: '(' :: question best others := by
  obtain ⟨name, listed, near⟩ := misspelt.near
  have different : Text.lower text ≠ name := fun same => misspelt.unnamed (same ▸ listed)
  rw [TargetError.hintFor_eq]
  rcases toList_hint (Text.lower text) (spellings names) with ⟨farAway, -⟩ | asks
  · exact absurd ⟨editDistance_pos different, near⟩ (farAway name listed)
  · exact asks

theorem Misspelt.hintFor_ne (misspelt : Misspelt names text) : TargetError.hintFor text names ≠ "" := by
  obtain ⟨best, others, -, asks⟩ := misspelt.exists_question
  intro empty
  rw [empty] at asks
  cases asks

theorem Arch.parse?_eq_error (unnamed : Text.lower text ∉ spellings Arch.names) :
    Arch.parse? text = .error (.unknownArch text) := by
  cases found : lookupName Arch.names text with
  | none => rw [Arch.parse?, found]
  | some arch =>
    exact absurd (lower_mem_spellings.mpr ⟨arch, (lookupName_eq_some_iff (by decide)).mp found⟩) unnamed

theorem Os.parse?_eq_error (unnamed : Text.lower text ∉ spellings Os.names) :
    Os.parse? text = .error (.unknownOs text) := by
  cases found : lookupName Os.names text with
  | none => rw [Os.parse?, found]
  | some os =>
    exact absurd (lower_mem_spellings.mpr ⟨os, (lookupName_eq_some_iff (by decide)).mp found⟩) unnamed

/-- No architecture's name goes on behind another one with a dash. -/
theorem lower_append_not_mem (named : Text.lower front ∈ spellings Arch.names) (back : Bytes) :
    Text.lower (front ++ dash :: back) ∉ spellings Arch.names := by
  have apart : ∀ arch ∈ spellings Arch.names, ∀ other ∈ spellings Arch.names,
      ¬ (arch ++ [dash]) <+: other := by decide
  intro listed
  refine apart _ named _ listed ⟨Text.lower back, ?_⟩
  rw [Text.lower_append_dash]
  exact (List.append_cons _ _ _).symm

/-- An architecture's name and a misspelt operating system are a short text. -/
theorem length_chars_lt (named : Text.lower front ∈ spellings Arch.names)
    (misspelt : Misspelt Os.names back) : (Utf8.chars (front ++ dash :: back)).length < 20 := by
  obtain ⟨name, listed, near⟩ := misspelt.near
  have frontShort := (Arch.plainWord _ named).length_le
  have nameShort := (Os.plainWord name listed).length_le
  have backShort := length_le_editDistance (Text.lower back) name
  have bound := Text.length_chars_le (front ++ dash :: back)
  rw [Text.lower_append_dash, List.length_append, List.length_cons] at bound
  omega

/-- **The hint for a misspelt operating system is not given** when the whole text is told as an
architecture. -/
theorem not_says_os_hint (named : Text.lower front ∈ spellings Arch.names)
    (misspelt : Misspelt Os.names back) :
    ¬ (TargetError.unknownArch (front ++ dash :: back)).Says (TargetError.hintFor back Os.names) := by
  obtain ⟨best, others, listed, asks⟩ := misspelt.exists_question
  rw [TargetError.Says, asks, TargetError.message_unknownArch, TargetError.toList_told]
  exact question_not_infix listed (by decide) (length_chars_lt named misspelt)
    (TargetError.archEnding (front ++ dash :: back))

namespace Platform

theorem parse?_of_os {os : Os} (clear : dash ∉ back) (reads : Os.parse? back = .ok os) :
    Platform.parse? (front ++ dash :: back) = (Arch.parse? front).map (⟨·, os⟩) := by
  rw [Platform.parse?, splitLastDash_eq_some_iff.mpr ⟨rfl, clear⟩]
  dsimp only
  rw [reads]

theorem parse?_of_not_os {error : TargetError} (clear : dash ∉ back)
    (fails : Os.parse? back = .error error) :
    Platform.parse? (front ++ dash :: back)
      = (Arch.parse? (front ++ dash :: back)).map (⟨·, .linux⟩) := by
  rw [Platform.parse?, splitLastDash_eq_some_iff.mpr ⟨rfl, clear⟩]
  dsimp only
  rw [fails]

/-- **What is said about a part that is misspelt**, with a dash between the two and none in the second. A
misspelt operating system behind an architecture has a hint of its own, which names operating systems,
but the whole text is told as an architecture, and what is said never has that hint in it. A misspelt
architecture before an operating system is told as it is by itself, with its hint. -/
theorem misspelt_told (front back : Bytes) (clear : dash ∉ back) :
    (Text.lower front ∈ spellings Arch.names → Misspelt Os.names back →
      Os.parse? back = .error (.unknownOs back)
        ∧ (TargetError.unknownOs back).Says (TargetError.hintFor back Os.names)
        ∧ Platform.parse? (front ++ dash :: back) = .error (.unknownArch (front ++ dash :: back))
        ∧ ¬ (TargetError.unknownArch (front ++ dash :: back)).Says (TargetError.hintFor back Os.names))
      ∧ (Misspelt Arch.names front → Text.lower back ∈ spellings Os.names →
        Arch.parse? front = .error (.unknownArch front)
          ∧ (TargetError.unknownArch front).Says (TargetError.hintFor front Arch.names)
          ∧ TargetError.hintFor front Arch.names ≠ ""
          ∧ Platform.parse? (front ++ dash :: back) = .error (.unknownArch front)) := by
  refine ⟨fun named misspelt => ?_, fun misspelt named => ?_⟩
  · have osFails := Os.parse?_eq_error misspelt.unnamed
    refine ⟨osFails, TargetError.unknownOs_says back, ?_, not_says_os_hint named misspelt⟩
    rw [parse?_of_not_os clear osFails, Arch.parse?_eq_error (lower_append_not_mem named back)]
    rfl
  · obtain ⟨os, named⟩ := lower_mem_spellings.mp named
    have archFails := Arch.parse?_eq_error misspelt.unnamed
    refine ⟨archFails, TargetError.unknownArch_says front, misspelt.hintFor_ne, ?_⟩
    rw [parse?_of_os clear (Os.parse?_eq_ok_iff.mpr named), archFails]
    rfl

/-- An architecture with a dash of its own, and capital letters that are no ASCII. -/
theorem misspelt_told_dashes :
    let text := Utf8.ofString
    Platform.parse? (text "X86-64" ++ dash :: text "LİNÜX")
        = .error (.unknownArch (text "X86-64" ++ dash :: text "LİNÜX"))
      ∧ ¬ (TargetError.unknownArch (text "X86-64" ++ dash :: text "LİNÜX")).Says
        (TargetError.hintFor (text "LİNÜX") Os.names)
      ∧ Platform.parse? (text "AMD46" ++ dash :: text "LİNUX") = .error (.unknownArch (text "AMD46"))
      ∧ (TargetError.unknownArch (text "AMD46")).Says (TargetError.hintFor (text "AMD46") Arch.names) := by
  intro text
  have misspeltOs : Misspelt Os.names (text "LİNÜX") :=
    ⟨by decide +kernel, text "linux", by decide, by decide +kernel⟩
  have misspeltArch : Misspelt Arch.names (text "AMD46") :=
    ⟨by decide +kernel, text "amd64", by decide, by decide +kernel⟩
  obtain ⟨-, -, whole, silent⟩ :=
    (misspelt_told (text "X86-64") (text "LİNÜX") (by decide)).1 (by decide +kernel) misspeltOs
  obtain ⟨-, hinted, -, alone⟩ :=
    (misspelt_told (text "AMD46") (text "LİNUX") (by decide)).2 misspeltArch (by decide +kernel)
  exact ⟨whole, silent, alone, hinted⟩

/-- **A misspelt operating system that gets no hint**, although there is one for it. -/
theorem misspelt_os_not_hinted :
    let text := Utf8.ofString
    Text.lower (text "x86_64") ∈ spellings Arch.names ∧ dash ∉ text "linus"
      ∧ Misspelt Os.names (text "linus")
      ∧ TargetError.hintFor (text "linus") Os.names = " (did you mean linux?)"
      ∧ ∃ error, Platform.parse? (text "x86_64" ++ dash :: text "linus") = .error error
        ∧ error.fault.message = "unsupported architecture: x86_64-linus: unsupported target"
        ∧ ¬ error.Says (TargetError.hintFor (text "linus") Os.names) := by
  intro text
  have misspelt : Misspelt Os.names (text "linus") :=
    ⟨by decide +kernel, text "linux", by decide, by decide +kernel⟩
  have asks : TargetError.hintFor (text "linus") Os.names = " (did you mean linux?)" := by
    decide +kernel
  refine ⟨by decide +kernel, by decide, misspelt, asks, .unknownArch (text "x86_64-linus"),
    by decide +kernel, by decide +kernel, ?_⟩
  rw [asks]
  decide +kernel

end Platform

end Misspelt

end StaticElf
