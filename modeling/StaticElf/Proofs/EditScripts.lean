/-
**The edit distance is the length of a shortest script.**

A script is a list of edits, each of which inserts, deletes or replaces one byte at some place. The table
of distances is filled from the beginnings of two texts, so its recursion takes the texts apart at their
ends: it is stated here on reversed texts, where an end is the head of a list.

* `ByteEdit`, `runScript?` — what an edit and a script make of a text; `Reaches` counts the edits between
  two texts.
* `endDistance` — the recursion of the table, and `rowFrom` its rows; `editDistance_eq` says that filling
  rows computes it.
* `endDistance_le_of_edit` — one edit moves it by one at most, so no script is shorter.
* `reaches_endDistance` — a script of that length.
* `length_le_editDistance` — a text near another is not much longer.
* `editDistance_shortest` — the least length of a script, and so a metric on byte strings.
-/

import Mathlib.Order.Bounds.Defs
import StaticElf.EditDistance

namespace StaticElf

/-! ### Edits and scripts -/

/-- What happens at one place of a text. -/
inductive ByteChange where
  | insert (byte : UInt8)
  | delete
  | replace (byte : UInt8)
  deriving DecidableEq, Repr

/-- What a change makes of the text from its place on. Where nothing is left, nothing can be deleted or
replaced. -/
def ByteChange.result? : ByteChange → Bytes → Option Bytes
  | insert byte, text => some (byte :: text)
  | delete, _ :: text => some text
  | replace byte, _ :: text => some (byte :: text)
  | _, [] => none

/-- A change of a single byte, and how many bytes stand before it. -/
structure ByteEdit where
  place : Nat
  change : ByteChange
  deriving DecidableEq, Repr

/-- What an edit makes of a text that has its place. -/
def ByteEdit.result? (edit : ByteEdit) (text : Bytes) : Option Bytes :=
  if edit.place ≤ text.length then
    (edit.change.result? (text.drop edit.place)).map (text.take edit.place ++ ·)
  else none

/-- What edits make of a text, one after the other. -/
def runScript? (script : List ByteEdit) (text : Bytes) : Option Bytes :=
  script.foldlM (fun text edit => edit.result? text) text

/-- **So many edits turn one text into the other.** -/
def Reaches (count : Nat) (source target : Bytes) : Prop :=
  ∃ script, runScript? script source = some target ∧ script.length = count

namespace ByteChange

variable {change : ByteChange} {text result : Bytes}

/-- A change does not look at the end of a text. -/
theorem result?_append (applied : change.result? text = some result) (more : Bytes) :
    change.result? (text ++ more) = some (result ++ more) := by
  cases text with
  | nil =>
    cases change with
    | insert byte =>
      cases applied
      rfl
    | delete => cases applied
    | replace byte => cases applied
  | cons first rest => cases change <;> cases applied <;> rfl

/-- What a change did can be taken back by another. -/
theorem exists_undo (applied : change.result? text = some result) :
    ∃ undo : ByteChange, undo.result? result = some text := by
  cases change with
  | insert byte =>
    cases applied
    exact ⟨delete, rfl⟩
  | delete =>
    cases text with
    | nil => cases applied
    | cons first rest =>
      cases applied
      exact ⟨insert first, rfl⟩
  | replace byte =>
    cases text with
    | nil => cases applied
    | cons first rest =>
      cases applied
      exact ⟨replace first, rfl⟩

end ByteChange

namespace ByteEdit

variable {edit : ByteEdit} {text result : Bytes}

/-- An edit leaves what stands before its place, and changes the text from there on. -/
theorem result?_eq_some_iff :
    edit.result? text = some result
      ↔ ∃ front back changed, text = front ++ back ∧ edit.place = front.length
        ∧ edit.change.result? back = some changed ∧ result = front ++ changed := by
  constructor
  · intro applied
    rw [ByteEdit.result?] at applied
    split at applied
    · next inside =>
      obtain ⟨changed, found, rfl⟩ := Option.map_eq_some_iff.mp applied
      refine ⟨text.take edit.place, text.drop edit.place, changed, ?_, ?_, found, rfl⟩
      · rw [List.take_append_drop]
      · rw [List.length_take, Nat.min_eq_left inside]
    · cases applied
  · rintro ⟨front, back, changed, rfl, place, found, rfl⟩
    rw [ByteEdit.result?, if_pos (by rw [place, List.length_append]; omega), place, List.drop_left,
      List.take_left, found]
    rfl

theorem result?_append (applied : edit.result? text = some result) (more : Bytes) :
    edit.result? (text ++ more) = some (result ++ more) := by
  obtain ⟨front, back, changed, rfl, place, found, rfl⟩ := result?_eq_some_iff.mp applied
  exact result?_eq_some_iff.mpr ⟨front, back ++ more, changed ++ more, List.append_assoc .., place,
    ByteChange.result?_append found more, List.append_assoc ..⟩

theorem exists_undo (applied : edit.result? text = some result) :
    ∃ undo : ByteEdit, undo.result? result = some text := by
  obtain ⟨front, back, changed, rfl, -, found, rfl⟩ := result?_eq_some_iff.mp applied
  obtain ⟨undo, undone⟩ := ByteChange.exists_undo found
  exact ⟨⟨front.length, undo⟩, result?_eq_some_iff.mpr ⟨front, changed, back, rfl, rfl, undone, rfl⟩⟩

end ByteEdit

theorem runScript?_cons (edit : ByteEdit) (script : List ByteEdit) (text : Bytes) :
    runScript? (edit :: script) text = edit.result? text >>= runScript? script :=
  List.foldlM_cons

theorem runScript?_append (script later : List ByteEdit) (text : Bytes) :
    runScript? (script ++ later) text = runScript? script text >>= runScript? later :=
  List.foldlM_append

/-- The first edit of a script, and what the others make of its result. -/
theorem runScript?_cons_eq_some {edit : ByteEdit} {script : List ByteEdit} {text result : Bytes} :
    runScript? (edit :: script) text = some result
      ↔ ∃ middle, edit.result? text = some middle ∧ runScript? script middle = some result := by
  rw [runScript?_cons]
  exact Option.bind_eq_some_iff

namespace Reaches

variable {count more : Nat} {source middle target : Bytes}

theorem refl (text : Bytes) : Reaches 0 text text := ⟨[], rfl, rfl⟩

theorem of_edit (edit : ByteEdit) (applied : edit.result? source = some target) :
    Reaches 1 source target :=
  ⟨[edit], runScript?_cons_eq_some.mpr ⟨target, applied, rfl⟩, rfl⟩

theorem trans (first : Reaches count source middle) (second : Reaches more middle target) :
    Reaches (count + more) source target := by
  obtain ⟨script, applied, rfl⟩ := first
  obtain ⟨later, applied', rfl⟩ := second
  refine ⟨script ++ later, ?_, List.length_append⟩
  rw [runScript?_append, applied]
  exact applied'

theorem symm (reaches : Reaches count source target) : Reaches count target source := by
  obtain ⟨script, applied, rfl⟩ := reaches
  induction script generalizing source with
  | nil =>
    cases applied
    exact refl target
  | cons edit script ih =>
    obtain ⟨middle, here, later⟩ := runScript?_cons_eq_some.mp applied
    obtain ⟨undo, undone⟩ := ByteEdit.exists_undo here
    exact (ih later).trans (of_edit undo undone)

/-- What stands behind both texts needs no edit. -/
theorem append (reaches : Reaches count source target) (behind : Bytes) :
    Reaches count (source ++ behind) (target ++ behind) := by
  obtain ⟨script, applied, rfl⟩ := reaches
  refine ⟨script, ?_, rfl⟩
  induction script generalizing source with
  | nil =>
    cases applied
    rfl
  | cons edit script ih =>
    obtain ⟨middle, here, later⟩ := runScript?_cons_eq_some.mp applied
    exact runScript?_cons_eq_some.mpr ⟨middle ++ behind, ByteEdit.result?_append here behind, ih later⟩

theorem min (first : Reaches count source target) (second : Reaches more source target) :
    Reaches (min count more) source target := by
  rcases Nat.le_total count more with fewer | fewer
  · rwa [Nat.min_eq_left fewer]
  · rwa [Nat.min_eq_right fewer]

theorem eq_of_zero (reaches : Reaches 0 source target) : source = target := by
  obtain ⟨script, applied, short⟩ := reaches
  cases List.eq_nil_of_length_eq_zero short
  exact Option.some.inj applied

/-- One byte more at the end of the target is one insertion more. -/
theorem concat_target (reaches : Reaches count source target) (byte : UInt8) :
    Reaches (count + 1) source (target ++ [byte]) := by
  refine reaches.trans (of_edit ⟨target.length, .insert byte⟩ ?_)
  exact ByteEdit.result?_eq_some_iff.mpr ⟨target, [], [byte], (List.append_nil _).symm, rfl, rfl, rfl⟩

/-- One byte more at the end of the source is one deletion more. -/
theorem concat_source (reaches : Reaches count source target) (byte : UInt8) :
    Reaches (count + 1) (source ++ [byte]) target :=
  (reaches.symm.concat_target byte).symm

/-- One byte more at the end of both is one replacement more, unless it is the same byte. -/
theorem concat_both (reaches : Reaches count source target) (byte other : UInt8) :
    Reaches (count + if byte = other then 0 else 1) (source ++ [byte]) (target ++ [other]) := by
  refine (reaches.append [byte]).trans ?_
  split
  · next same =>
    rw [same]
    exact refl _
  · refine of_edit ⟨target.length, .replace other⟩ ?_
    exact ByteEdit.result?_eq_some_iff.mpr ⟨target, [byte], [other], rfl, rfl, rfl, rfl⟩

end Reaches

/-! ### The table -/

/-- **The recursion of the table**, on texts that are read from their ends. -/
def endDistance : Bytes → Bytes → Nat
  | [], target => target.length
  | byte :: source, [] => (byte :: source).length
  | byte :: source, other :: target =>
    min (min (endDistance source (other :: target) + 1) (endDistance (byte :: source) target + 1))
      (endDistance source target + if byte = other then 0 else 1)
  termination_by source target => source.length + target.length

@[simp] theorem endDistance_nil_left (target : Bytes) : endDistance [] target = target.length := by
  rw [endDistance]

@[simp] theorem endDistance_nil_right (source : Bytes) : endDistance source [] = source.length := by
  cases source with
  | nil => rw [endDistance]
  | cons byte source => rw [endDistance]

theorem endDistance_cons (byte other : UInt8) (source target : Bytes) :
    endDistance (byte :: source) (other :: target)
      = min (min (endDistance source (other :: target) + 1) (endDistance (byte :: source) target + 1))
        (endDistance source target + if byte = other then 0 else 1) := by
  rw [endDistance]

/-- The row of a text for the beginnings of another from `front` on, where `others` are the bytes behind
it. Both `source` and `front` are reversed. -/
def rowFrom (source front : Bytes) : Bytes → List Nat
  | [] => [endDistance source front]
  | other :: others => endDistance source front :: rowFrom source (other :: front) others

theorem rowFrom_eq_cons (source front others : Bytes) :
    rowFrom source front others = endDistance source front :: (rowFrom source front others).tail := by
  cases others <;> rfl

/-- **The entries of a row follow from the row above.** -/
theorem rowEntries_rowFrom (byte : UInt8) (source front others : Bytes) (done : List Nat) :
    rowEntries byte others (rowFrom source front others) (endDistance (byte :: source) front) done
      = done.reverse ++ (rowFrom (byte :: source) front others).tail := by
  induction others generalizing front done with
  | nil => simp [rowEntries, rowFrom]
  | cons other others ih =>
    have entry := endDistance_cons byte other source front
    have later := ih (other :: front) (endDistance (byte :: source) (other :: front) :: done)
    rw [rowFrom_eq_cons source (other :: front) others] at later
    rw [rowFrom, rowFrom_eq_cons source (other :: front) others, rowEntries, ← entry, later,
      List.reverse_cons, List.append_assoc, List.singleton_append, ← rowFrom_eq_cons]
    rfl

theorem nextRow_rowFrom (target source : Bytes) (byte : UInt8) :
    nextRow target (rowFrom source [] target) byte = rowFrom (byte :: source) [] target := by
  have left : (rowFrom source [] target).headD 0 + 1 = endDistance (byte :: source) [] := by
    rw [rowFrom_eq_cons, List.headD_cons, endDistance_nil_right, endDistance_nil_right,
      List.length_cons]
  rw [nextRow, left, rowEntries_rowFrom]
  exact (rowFrom_eq_cons _ _ _).symm

theorem rowFrom_nil_left (front others : Bytes) :
    rowFrom [] front others = List.range' front.length (others.length + 1) := by
  induction others generalizing front with
  | nil => simp [rowFrom]
  | cons other others ih => simp [rowFrom, ih, List.range'_succ]

/-- **The rows of the table**, one after the other. -/
theorem distanceRow_eq (source target : Bytes) :
    distanceRow source target = rowFrom source.reverse [] target := by
  have start : firstRow target = rowFrom [] [] target := by
    rw [rowFrom_nil_left, firstRow, List.range_eq_range']
    rfl
  have each (done : Bytes) :
      source.foldl (nextRow target) (rowFrom done [] target)
        = rowFrom (source.reverse ++ done) [] target := by
    induction source generalizing done with
    | nil => rfl
    | cons byte source ih =>
      rw [List.foldl_cons, nextRow_rowFrom, ih, List.reverse_cons, List.append_assoc,
        List.singleton_append]
  rw [distanceRow, start, each, List.append_nil]

theorem getLastD_rowFrom (source front others : Bytes) (fallback : Nat) :
    (rowFrom source front others).getLastD fallback = endDistance source (others.reverse ++ front) := by
  induction others generalizing front fallback with
  | nil => rfl
  | cons other others ih =>
    rw [rowFrom, List.getLastD_cons, ih, List.reverse_cons, List.append_assoc, List.singleton_append]

/-- **Filling the table computes its recursion.** -/
theorem editDistance_eq (source target : Bytes) :
    editDistance source target = endDistance source.reverse target.reverse := by
  rw [editDistance, distanceRow_eq, getLastD_rowFrom, List.append_nil]

/-! ### No script is shorter -/

theorem endDistance_self (text : Bytes) : endDistance text text = 0 := by
  induction text with
  | nil => rw [endDistance_nil_left, List.length_nil]
  | cons byte text ih =>
    rw [endDistance_cons, ih, if_pos rfl]
    omega

theorem endDistance_cons_left_le (byte : UInt8) (source target : Bytes) :
    endDistance (byte :: source) target ≤ endDistance source target + 1 := by
  cases target with
  | nil => simp
  | cons other target =>
    rw [endDistance_cons]
    omega

theorem endDistance_cons_right_le (other : UInt8) (source target : Bytes) :
    endDistance source (other :: target) ≤ endDistance source target + 1 := by
  cases source with
  | nil => simp
  | cons byte source =>
    rw [endDistance_cons]
    omega

theorem endDistance_le_cons_right (other : UInt8) (source target : Bytes) :
    endDistance source target ≤ endDistance source (other :: target) + 1 := by
  induction source with
  | nil =>
    rw [endDistance_nil_left, endDistance_nil_left, List.length_cons]
    omega
  | cons byte source ih =>
    -- The end of the source may be deleted here, and the source without it is one edit nearer at most
    have shorter := endDistance_cons_left_le byte source target
    rw [endDistance_cons]
    omega

theorem endDistance_replace_le (other another : UInt8) (source target : Bytes) :
    endDistance source (another :: target) ≤ endDistance source (other :: target) + 1 := by
  induction source with
  | nil => simp
  | cons byte source ih =>
    rw [endDistance_cons, endDistance_cons]
    split <;> split <;> omega

/-- Texts that are one edit apart for every source stay so with the same byte behind both. -/
theorem endDistance_cons_congr {before after : Bytes}
    (near : ∀ source, endDistance source after ≤ endDistance source before + 1) (byte : UInt8)
    (source : Bytes) : endDistance source (byte :: after) ≤ endDistance source (byte :: before) + 1 := by
  induction source with
  | nil => simpa using near []
  | cons first source ih =>
    have here := near (first :: source)
    have diagonal := near source
    rw [endDistance_cons, endDistance_cons]
    omega

theorem endDistance_append_congr {before after : Bytes}
    (near : ∀ source, endDistance source after ≤ endDistance source before + 1) (behind : Bytes)
    (source : Bytes) :
    endDistance source (behind ++ after) ≤ endDistance source (behind ++ before) + 1 := by
  induction behind generalizing source with
  | nil => exact near source
  | cons byte behind ih => exact endDistance_cons_congr ih byte source

/-- **One edit moves the distance by one at most.** -/
theorem endDistance_le_of_edit {edit : ByteEdit} {text result : Bytes}
    (applied : edit.result? text = some result) (source : Bytes) :
    endDistance source result.reverse ≤ endDistance source text.reverse + 1 := by
  obtain ⟨front, back, changed, rfl, -, found, rfl⟩ := ByteEdit.result?_eq_some_iff.mp applied
  rw [List.reverse_append, List.reverse_append]
  cases change : edit.change with
  | insert byte =>
    rw [change] at found
    cases found
    rw [List.reverse_cons, List.append_assoc]
    exact endDistance_append_congr (fun source => endDistance_cons_right_le byte source _) _ source
  | delete =>
    rw [change] at found
    cases back with
    | nil => cases found
    | cons byte back =>
      cases found
      rw [List.reverse_cons, List.append_assoc]
      exact endDistance_append_congr (fun source => endDistance_le_cons_right byte source _) _ source
  | replace other =>
    rw [change] at found
    cases back with
    | nil => cases found
    | cons byte back =>
      cases found
      rw [List.reverse_cons, List.reverse_cons, List.append_assoc, List.append_assoc]
      exact endDistance_append_congr (fun source => endDistance_replace_le byte other source _) _ source

/-- **A script moves the distance by its length at most.** -/
theorem endDistance_le_of_reaches {count : Nat} {text result : Bytes}
    (reaches : Reaches count text result) (source : Bytes) :
    endDistance source result.reverse ≤ endDistance source text.reverse + count := by
  obtain ⟨script, applied, rfl⟩ := reaches
  induction script generalizing text with
  | nil =>
    cases applied
    exact Nat.le_refl _
  | cons edit script ih =>
    obtain ⟨middle, here, later⟩ := runScript?_cons_eq_some.mp applied
    have first := endDistance_le_of_edit here source
    have rest := ih later
    rw [List.length_cons]
    omega

/-! ### A script that long -/

theorem reaches_reverse (text : Bytes) : Reaches text.length [] text.reverse := by
  induction text with
  | nil => exact .refl []
  | cons byte text ih =>
    rw [List.reverse_cons]
    exact ih.concat_target byte

/-- **The recursion counts the edits of a script.** -/
theorem reaches_endDistance (source target : Bytes) :
    Reaches (endDistance source target) source.reverse target.reverse := by
  fun_induction endDistance source target with
  | case1 target => exact reaches_reverse target
  | case2 byte source => exact (reaches_reverse (byte :: source)).symm
  | case3 byte source other target above left diagonal =>
    rw [List.reverse_cons] at above left
    rw [List.reverse_cons, List.reverse_cons]
    exact ((above.concat_source byte).min (left.concat_target other)).min
      (diagonal.concat_both byte other)

/-- **The edit distance is the least length of a script.** -/
theorem isLeast_editDistance (source target : Bytes) :
    IsLeast {count | Reaches count source target} (editDistance source target) := by
  rw [editDistance_eq]
  constructor
  · have script := reaches_endDistance source.reverse target.reverse
    rwa [List.reverse_reverse, List.reverse_reverse] at script
  · intro count reaches
    have bound := endDistance_le_of_reaches reaches source.reverse
    rwa [endDistance_self, Nat.zero_add] at bound

theorem ByteChange.length_le {change : ByteChange} {text result : Bytes}
    (applied : change.result? text = some result) : result.length ≤ text.length + 1 := by
  cases change with
  | insert byte =>
    cases applied
    exact Nat.le_refl _
  | delete =>
    cases text with
    | nil => cases applied
    | cons byte text =>
      cases applied
      exact Nat.le_add_right _ 2
  | replace byte =>
    cases text with
    | nil => cases applied
    | cons old text =>
      cases applied
      exact Nat.le_add_right _ 1

/-- One edit makes a text longer by one byte at most. -/
theorem ByteEdit.length_le {edit : ByteEdit} {text result : Bytes}
    (applied : edit.result? text = some result) : result.length ≤ text.length + 1 := by
  obtain ⟨front, back, changed, rfl, -, found, rfl⟩ := result?_eq_some_iff.mp applied
  rw [List.length_append, List.length_append, Nat.add_assoc]
  exact Nat.add_le_add_left (ByteChange.length_le found) _

/-- A script makes a text longer by its length at most. -/
theorem Reaches.length_le {count : Nat} {source target : Bytes}
    (reaches : Reaches count source target) : target.length ≤ source.length + count := by
  obtain ⟨script, applied, rfl⟩ := reaches
  induction script generalizing source with
  | nil =>
    cases applied
    exact Nat.le_refl _
  | cons edit script ih =>
    obtain ⟨middle, here, later⟩ := runScript?_cons_eq_some.mp applied
    have first := ByteEdit.length_le here
    have rest := ih later
    rw [List.length_cons]
    omega

/-- **A text near another is not much longer.** -/
theorem length_le_editDistance (source target : Bytes) :
    source.length ≤ target.length + editDistance source target :=
  (Reaches.symm (isLeast_editDistance source target).1).length_le

/-- Different texts have a distance. -/
theorem editDistance_pos {source target : Bytes} (different : source ≠ target) :
    1 ≤ editDistance source target := by
  rw [Nat.one_le_iff_ne_zero]
  intro zero
  have script := (isLeast_editDistance source target).1
  rw [zero] at script
  exact different (Reaches.eq_of_zero script)

/-- **The edit distance is a true distance.** Some script of single-byte insertions, deletions and
replacements turns the source into the target in so many edits, and none does in fewer. So it is zero for
equal texts alone, the same in both directions, and no longer than the way over a third text. -/
theorem editDistance_shortest (source target : Bytes) :
    IsLeast {count | ∃ script, runScript? script source = some target ∧ script.length = count}
        (editDistance source target)
      ∧ (editDistance source target = 0 ↔ source = target)
      ∧ editDistance source target = editDistance target source
      ∧ ∀ middle,
        editDistance source target ≤ editDistance source middle + editDistance middle target := by
  have shortest := isLeast_editDistance
  refine ⟨shortest source target, ⟨fun zero => ?_, fun same => ?_⟩, ?_, fun middle => ?_⟩
  · have script := (shortest source target).1
    rw [zero] at script
    exact Reaches.eq_of_zero script
  · rw [same]
    exact Nat.le_zero.mp ((shortest target target).2 (Reaches.refl target))
  · exact Nat.le_antisymm ((shortest source target).2 (Reaches.symm (shortest target source).1))
      ((shortest target source).2 (Reaches.symm (shortest source target).1))
  · exact (shortest source target).2
      (Reaches.trans (shortest source middle).1 (shortest middle target).1)

example : editDistance [0x61, 0x62, 0x63] [0x62, 0x63, 0x64] = 2 := by decide

end StaticElf
