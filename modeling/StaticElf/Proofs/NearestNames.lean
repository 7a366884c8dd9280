/-
**Which names are suggested.**

Suggestions come from a table that lists its names in no order of its own, and they are sorted by a sort
that need not be stable. What is suggested is settled all the same: no two names are equally good, so
there is one ranking of the names that are near enough, and its beginning is what is suggested.

* `Precedes` — the order of names: the nearer first, of equally near ones the first in byte order.
* `Ranking` — the names that are near enough, in that order; `Ranking.unique` says that there is one.
* `NearestNames` — the best so many of them; `Ranking.nearestNames` and `Ranking.eq_take` say that these
  are the beginning of the ranking.
* `ranking_of_sorted` — every way to sort the suggestions gives the ranking.
* `similarNames_nearest` — what is suggested.
-/

import Mathlib.Data.Finset.Card
import StaticElf.Suggestion

namespace StaticElf

/-! ### The order of names -/

/-- The byte order is the lexicographic order of the bytes. -/
theorem byteBefore_iff_lt {left right : Bytes} : byteBefore left right = true ↔ left < right := by
  induction left generalizing right with
  | nil =>
    cases right with
    | nil => simp [byteBefore]
    | cons other others => simp [byteBefore]
  | cons byte rest ih =>
    cases right with
    | nil => simp [byteBefore]
    | cons other others =>
      rw [byteBefore, List.cons_lt_cons_iff, ← ih, UInt8.lt_iff_toNat_lt]
      simp

/-- A name near enough to be suggested for another, from which it differs. -/
def Eligible (name candidate : Bytes) : Prop :=
  1 ≤ editDistance name candidate ∧ editDistance name candidate ≤ 3

instance (name candidate : Bytes) : Decidable (Eligible name candidate) :=
  inferInstanceAs (Decidable (_ ∧ _))

/-- **The order of suggestions** for a name. -/
def Precedes (name left right : Bytes) : Prop :=
  editDistance name left < editDistance name right
    ∨ editDistance name left = editDistance name right ∧ left < right

instance (name left right : Bytes) : Decidable (Precedes name left right) :=
  inferInstanceAs (Decidable (_ ∨ _))

namespace Precedes

variable {name left middle right : Bytes}

theorem irrefl (name candidate : Bytes) : ¬ Precedes name candidate candidate := by
  rintro (less | ⟨-, less⟩)
  · exact Nat.lt_irrefl _ less
  · exact List.lt_irrefl candidate less

theorem trans (first : Precedes name left middle) (second : Precedes name middle right) :
    Precedes name left right := by
  rcases first with nearer | ⟨same, less⟩
  · rcases second with nearer' | ⟨same', -⟩
    · exact .inl (Nat.lt_trans nearer nearer')
    · exact .inl (same' ▸ nearer)
  · rcases second with nearer' | ⟨same', less'⟩
    · exact .inl (same ▸ nearer')
    · exact .inr ⟨same.trans same', List.lt_trans less less'⟩

theorem asymm (first : Precedes name left right) : ¬ Precedes name right left :=
  fun second => irrefl name left (first.trans second)

theorem ne (precedes : Precedes name left right) : left ≠ right := by
  rintro rfl
  exact irrefl name left precedes

end Precedes

/-! ### Rankings -/

/-- **The names that are near enough, in their order.** -/
structure Ranking (name : Bytes) (names : Finset Bytes) (ranked : List Bytes) : Prop where
  increasing : ranked.Pairwise (Precedes name)
  mem_iff : ∀ candidate, candidate ∈ ranked ↔ candidate ∈ names ∧ Eligible name candidate

/-- **The best of the names that are near enough**, at most `limit` of them: they are in order, none that
is left out is better than one of them, and there are fewer only if there are no more. -/
structure NearestNames (name : Bytes) (names : Finset Bytes) (limit : Nat) (chosen : List Bytes) :
    Prop where
  increasing : chosen.Pairwise (Precedes name)
  eligible : ∀ candidate ∈ chosen, candidate ∈ names ∧ Eligible name candidate
  length_eq : chosen.length = min limit (names.filter (Eligible name)).card
  leftOut : ∀ candidate ∈ names, Eligible name candidate → candidate ∉ chosen →
    ∀ best ∈ chosen, Precedes name best candidate

section Rankings

variable {name : Bytes} {names : Finset Bytes} {ranked chosen : List Bytes} {limit : Nat}

theorem nodup_of_precedes (increasing : ranked.Pairwise (Precedes name)) : ranked.Nodup :=
  increasing.imp Precedes.ne

/-- Names that are in order are determined by which they are. -/
theorem eq_of_precedes (increasing : ranked.Pairwise (Precedes name))
    (increasing' : chosen.Pairwise (Precedes name))
    (same : ∀ candidate, candidate ∈ ranked ↔ candidate ∈ chosen) : ranked = chosen := by
  refine List.Perm.eq_of_pairwise (fun _ _ _ _ first second => absurd second first.asymm)
    increasing increasing' ?_
  exact (List.perm_ext_iff_of_nodup (nodup_of_precedes increasing)
    (nodup_of_precedes increasing')).mpr same

namespace Ranking

/-- **There is one ranking.** -/
theorem unique (ranking : Ranking name names ranked) (ranking' : Ranking name names chosen) :
    ranked = chosen :=
  eq_of_precedes ranking.increasing ranking'.increasing fun candidate =>
    (ranking.mem_iff candidate).trans (ranking'.mem_iff candidate).symm

theorem length_eq (ranking : Ranking name names ranked) :
    ranked.length = (names.filter (Eligible name)).card := by
  have members : ranked.toFinset = names.filter (Eligible name) := by
    ext candidate
    rw [List.mem_toFinset, Finset.mem_filter, ranking.mem_iff]
  rw [← members, List.toFinset_card_of_nodup (nodup_of_precedes ranking.increasing)]

/-- **The beginning of the ranking holds the best names.** -/
theorem nearestNames (ranking : Ranking name names ranked) (limit : Nat) :
    NearestNames name names limit (ranked.take limit) := by
  have split := ranking.increasing
  rw [← List.take_append_drop limit ranked, List.pairwise_append] at split
  obtain ⟨increasing, -, across⟩ := split
  refine ⟨increasing, fun candidate taken => ?_, ?_, fun candidate listed near leftOut best taken => ?_⟩
  · exact (ranking.mem_iff candidate).mp (List.mem_of_mem_take taken)
  · rw [List.length_take, ranking.length_eq]
  · have member := (ranking.mem_iff candidate).mpr ⟨listed, near⟩
    rw [← List.take_append_drop limit ranked, List.mem_append] at member
    exact across best taken candidate (member.resolve_left leftOut)

/-- **The best names are the beginning of the ranking.** -/
theorem eq_take (ranking : Ranking name names ranked)
    (nearest : NearestNames name names limit chosen) : chosen = ranked.take limit := by
  -- What is chosen, with the rest of the ranking behind it, is the whole ranking
  have whole : chosen ++ ranked.filter (· ∉ chosen) = ranked := by
    refine eq_of_precedes ?_ ranking.increasing fun candidate => ?_
    · refine List.pairwise_append.mpr ⟨nearest.increasing, ranking.increasing.filter _, ?_⟩
      intro best taken candidate member
      obtain ⟨listed, leftOut⟩ := List.mem_filter.mp member
      obtain ⟨known, near⟩ := (ranking.mem_iff candidate).mp listed
      exact nearest.leftOut candidate known near (by simpa using leftOut) best taken
    · rw [List.mem_append, List.mem_filter]
      by_cases taken : candidate ∈ chosen
      · have listed := (ranking.mem_iff candidate).mpr (nearest.eligible candidate taken)
        simp [taken, listed]
      · simp [taken]
  have length := nearest.length_eq
  rw [← ranking.length_eq] at length
  calc chosen = (chosen ++ ranked.filter (· ∉ chosen)).take chosen.length := by
        rw [List.take_left]
    _ = ranked.take chosen.length := by rw [whole]
    _ = ranked.take limit := by rw [length, ← List.take_eq_take_min]

end Ranking

end Rankings

/-! ### Sorting the suggestions -/

namespace Suggestion

variable {left middle right : Suggestion}

/-- What may come first: the nearer one, or an equally near one that is not behind in byte order. -/
theorem before_iff :
    left.before right = true
      ↔ left.distance < right.distance
        ∨ left.distance = right.distance ∧ ¬ right.name < left.name := by
  rw [before, ← byteBefore_iff_lt]
  simp

theorem before_trans (first : left.before middle = true) (second : middle.before right = true) :
    left.before right = true := by
  rw [before_iff] at first second ⊢
  rcases first with nearer | ⟨same, notBehind⟩
  · exact .inl (by omega)
  · rcases second with nearer' | ⟨same', notBehind'⟩
    · exact .inl (by omega)
    · exact .inr ⟨same.trans same', List.le_trans notBehind notBehind'⟩

theorem before_total (left right : Suggestion) :
    (left.before right || right.before left) = true := by
  rw [Bool.or_eq_true, before_iff, before_iff]
  rcases Nat.lt_trichotomy left.distance right.distance with nearer | same | nearer
  · exact .inl (.inl nearer)
  · rcases List.le_total left.name right.name with notBehind | notBehind
    · exact .inl (.inr ⟨same, notBehind⟩)
    · exact .inr (.inr ⟨same.symm, notBehind⟩)
  · exact .inr (.inl nearer)

theorem before_antisymm (first : left.before right = true) (second : right.before left = true) :
    left = right := by
  rw [before_iff] at first second
  have same : left.distance = right.distance := by omega
  have notBehind : left.name ≤ right.name := by
    rcases first with nearer | ⟨-, notBehind⟩
    · omega
    · exact notBehind
  have notBehind' : right.name ≤ left.name := by
    rcases second with nearer | ⟨-, notBehind⟩
    · omega
    · exact notBehind
  exact Suggestion.mk.injEq .. ▸ ⟨List.le_antisymm notBehind notBehind', same⟩

end Suggestion

section EraseReps

variable {α : Type} [DecidableEq α]

theorem eraseReps_loop (item : α) (items done : List α) :
    List.eraseRepsBy.loop (· == ·) item items done
      = done.reverse ++ List.eraseReps (item :: items) := by
  induction items generalizing item done with
  | nil => simp [List.eraseReps, List.eraseRepsBy, List.eraseRepsBy.loop]
  | cons other items ih =>
    rw [List.eraseReps, List.eraseRepsBy, List.eraseRepsBy.loop, List.eraseRepsBy.loop]
    split
    · rw [ih, ih]
      simp
    · rw [ih, ih]
      simp

theorem eraseReps_cons_cons (item other : α) (items : List α) :
    (item :: other :: items).eraseReps
      = if item = other then (item :: items).eraseReps else item :: (other :: items).eraseReps := by
  rw [List.eraseReps, List.eraseRepsBy, List.eraseRepsBy.loop]
  by_cases same : item = other
  · simp [same, eraseReps_loop]
  · simp [same, eraseReps_loop, beq_eq_false_iff_ne.mpr same]

@[simp] theorem mem_eraseReps {item : α} {items : List α} : item ∈ items.eraseReps ↔ item ∈ items := by
  cases items with
  | nil => exact Iff.rfl
  | cons first rest =>
    induction rest generalizing first with
    | nil => exact Iff.rfl
    | cons second rest ih =>
      rw [eraseReps_cons_cons]
      split
      · next same => simp [ih, same]
      · rw [List.mem_cons, ih, ← List.mem_cons]

/-- **In a sorted list, equal members follow each other**, so that what is left is strictly sorted. -/
theorem pairwise_eraseReps {le : α → α → Prop} (antisymm : ∀ a b, le a b → le b a → a = b)
    {items : List α} (sorted : items.Pairwise le) :
    items.eraseReps.Pairwise fun a b => le a b ∧ a ≠ b := by
  cases items with
  | nil => exact .nil
  | cons first rest =>
    induction rest generalizing first with
    | nil => exact List.pairwise_singleton _ _
    | cons second rest ih =>
      obtain ⟨least, later⟩ := List.pairwise_cons.mp sorted
      rw [eraseReps_cons_cons]
      split
      · exact ih first (sorted.sublist (by simp))
      · next different =>
        refine List.pairwise_cons.mpr ⟨fun item member => ?_, ih second later⟩
        have listed := mem_eraseReps.mp member
        refine ⟨least item listed, ?_⟩
        rintro rfl
        rcases List.mem_cons.mp listed with same | behind
        · exact different same
        · exact different (antisymm first second (least second List.mem_cons_self)
            ((List.pairwise_cons.mp later).1 first behind))

end EraseReps

section Sorting

variable {name : Bytes} {names : List Bytes}

theorem mem_suggestions {suggestion : Suggestion} :
    suggestion ∈ suggestions name names
      ↔ suggestion.name ∈ names ∧ Eligible name suggestion.name
        ∧ suggestion.distance = editDistance name suggestion.name := by
  rw [suggestions, List.mem_filter, List.mem_map, Bool.and_eq_true, decide_eq_true_eq,
    decide_eq_true_eq]
  constructor
  · rintro ⟨⟨candidate, listed, rfl⟩, near⟩
    exact ⟨listed, near, rfl⟩
  · rintro ⟨listed, near, distance⟩
    refine ⟨⟨suggestion.name, listed, ?_⟩, ?_⟩
    · rw [← distance]
    · rw [distance]
      exact near

/-- Of two suggestions one precedes the other. -/
theorem precedes_of_before {left right : Suggestion} (listed : left ∈ suggestions name names)
    (listed' : right ∈ suggestions name names) (before : left.before right = true)
    (different : left ≠ right) : Precedes name left.name right.name := by
  obtain ⟨-, -, distance⟩ := mem_suggestions.mp listed
  obtain ⟨-, -, distance'⟩ := mem_suggestions.mp listed'
  rcases Suggestion.before_iff.mp before with nearer | ⟨same, notBehind⟩
  · exact .inl (distance ▸ distance' ▸ nearer)
  · refine .inr ⟨distance ▸ distance' ▸ same, ?_⟩
    rcases List.le_iff_lt_or_eq.mp notBehind with less | sameName
    · exact less
    · exact absurd (Suggestion.mk.injEq .. ▸ ⟨sameName, same⟩) different

/-- **Sorted suggestions without repetition are the ranking.** -/
theorem ranking_of_sorted {sorted : List Suggestion}
    (members : ∀ suggestion, suggestion ∈ sorted ↔ suggestion ∈ suggestions name names)
    (increasing : sorted.Pairwise fun left right => left.before right = true ∧ left ≠ right) :
    Ranking name names.toFinset (sorted.map (·.name)) := by
  constructor
  · refine List.pairwise_map.mpr (increasing.imp_of_mem fun listed listed' strict => ?_)
    exact precedes_of_before ((members _).mp listed) ((members _).mp listed') strict.1 strict.2
  · intro candidate
    rw [List.mem_map, List.mem_toFinset]
    constructor
    · rintro ⟨suggestion, listed, rfl⟩
      obtain ⟨known, near, -⟩ := mem_suggestions.mp ((members _).mp listed)
      exact ⟨known, near⟩
    · rintro ⟨known, near⟩
      exact ⟨⟨candidate, editDistance name candidate⟩,
        (members _).mpr (mem_suggestions.mpr ⟨known, near, rfl⟩), rfl⟩

/-- The names that are suggested when there is no limit. -/
def rankedNames (name : Bytes) (names : List Bytes) : List Bytes :=
  ((suggestions name names).mergeSort Suggestion.before).eraseReps.map (·.name)

theorem similarNames_eq (name : Bytes) (names : List Bytes) (limit : Nat) :
    similarNames name names limit = (rankedNames name names).take limit :=
  List.map_take

theorem ranking_rankedNames (name : Bytes) (names : List Bytes) :
    Ranking name names.toFinset (rankedNames name names) := by
  refine ranking_of_sorted (fun suggestion => ?_) ?_
  · rw [mem_eraseReps, List.mem_mergeSort]
  · refine pairwise_eraseReps (fun _ _ => Suggestion.before_antisymm) ?_
    exact @List.pairwise_mergeSort _ Suggestion.before (fun _ _ _ => Suggestion.before_trans)
      Suggestion.before_total _

/-- Names without repetition give suggestions without repetition. -/
theorem nodup_suggestions (distinct : names.Nodup) : (suggestions name names).Nodup := by
  refine List.Nodup.filter _ (distinct.map fun first second same => ?_)
  exact (Suggestion.mk.injEq .. ▸ same : _ ∧ _).1

/-- **Any sort will do**: however the suggestions for distinct names are sorted, the ranking results. -/
theorem ranking_of_perm (distinct : names.Nodup) {sorted : List Suggestion}
    (perm : sorted.Perm (suggestions name names))
    (increasing : sorted.Pairwise fun left right => left.before right = true) :
    Ranking name names.toFinset (sorted.map (·.name)) := by
  refine ranking_of_sorted (fun suggestion => perm.mem_iff) ?_
  exact increasing.and (perm.nodup_iff.mpr (nodup_suggestions distinct))

end Sorting

/-! ### What is suggested -/

/-- **What is suggested does not depend on the order of the names or on the sort.** The suggestions are the
best of the names that are near enough, at most as many as the limit says, and no other list is. Any list
of the same names gives the same suggestions, and so does any way to sort those for distinct names. -/
theorem similarNames_nearest (name : Bytes) (names : List Bytes) (limit : Nat) :
    let chosen := similarNames name names limit
    NearestNames name names.toFinset limit chosen
      ∧ (∀ other, NearestNames name names.toFinset limit other → other = chosen)
      ∧ (∀ others : List Bytes, others.toFinset = names.toFinset →
        similarNames name others limit = chosen)
      ∧ ∀ sorted : List Suggestion, names.Nodup → sorted.Perm (suggestions name names) →
        sorted.Pairwise (fun left right => left.before right = true) →
        (sorted.take limit).map (·.name) = chosen := by
  intro chosen
  have ranking := ranking_rankedNames name names
  have beginning : chosen = (rankedNames name names).take limit := similarNames_eq name names limit
  rw [beginning]
  refine ⟨ranking.nearestNames limit, fun other nearest => ranking.eq_take nearest,
    fun others same => ?_, fun sorted distinct perm increasing => ?_⟩
  · have ranking' := ranking_rankedNames name others
    rw [same] at ranking'
    rw [similarNames_eq, ranking'.unique ranking]
  · rw [List.map_take, (ranking_of_perm distinct perm increasing).unique ranking]

/-- Three equally near names and the name itself: two are asked for, and then more than there are. -/
theorem similarNames_nearest_tie :
    let text := Utf8.ofString
    let names := ["abf", "abd", "abc", "abe"].map text
    similarNames (text "abc") names 2 = [text "abd", text "abe"]
      ∧ similarNames (text "abc") names.reverse 2 = [text "abd", text "abe"]
      ∧ similarNames (text "abc") names 7
        = [text "abd", text "abe", text "abf"] := by
  intro text names
  obtain ⟨-, unique, anyOrder, -⟩ := similarNames_nearest (text "abc") names 2
  have two : similarNames (text "abc") names 2 = [text "abd", text "abe"] :=
    (unique _ ⟨by decide, by decide, by decide, by decide⟩).symm
  obtain ⟨-, unique', -⟩ := similarNames_nearest (text "abc") names 7
  have all := unique' [text "abd", text "abe", text "abf"]
    ⟨by decide, by decide, by decide, by decide⟩
  exact ⟨two, (anyOrder names.reverse List.toFinset_reverse).trans two, all.symm⟩

end StaticElf
