/-
**What is asked, one thing after the other.**

A check asks one thing after the other and stops at the first that is not so. What it asks is a list of
demands, in the order of the check; what it answers is then no matter of how it is computed.

* `Demand` — one thing that is asked, with the failure that tells that it is not so.
* `Demand.Refuses` — the failure of the first demand that is not met; `Demand.Refuses.unique` says that
  there is only one.
* `Demand.inOrder`, `Demand.refuses_inOrder` — the demands of the members of a list, of which the first
  bad member decides.
* `Settles` — an outcome that answers demands: a success if all are met, and else that failure.
* `Settles.guard`, `Settles.bind`, `Settles.forM`, `Settles.fold` — the demands of steps that are put
  together.
-/

import Mathlib.Tactic.Tauto
import StaticElf.Proofs.Outcome

namespace StaticElf

/-- One thing that is asked, and the failure that tells that it is not so. -/
structure Demand (ε : Type) where
  met : Prop
  error : ε

variable {ε ε' α β : Type}

namespace Demand

/-- The same demand, with its failure told differently. -/
def mapError (change : ε → ε') (demand : Demand ε) : Demand ε' :=
  ⟨demand.met, change demand.error⟩

/-- **The first demand that is not met** has this failure. -/
def Refuses (demands : List (Demand ε)) (error : ε) : Prop :=
  ∃ before demand behind, demands = before ++ demand :: behind
    ∧ (∀ earlier ∈ before, earlier.met) ∧ ¬ demand.met ∧ demand.error = error

variable {demand : Demand ε} {demands later : List (Demand ε)} {error error' : ε}

theorem not_refuses_nil : ¬ Refuses [] error := by
  rintro ⟨before, demand, behind, split, -⟩
  exact absurd split.symm (by simp)

theorem refuses_cons :
    Refuses (demand :: demands) error
      ↔ ¬ demand.met ∧ demand.error = error ∨ demand.met ∧ Refuses demands error := by
  constructor
  · rintro ⟨before, unmet, behind, split, earlier, failed, told⟩
    cases before with
    | nil =>
      cases split
      exact .inl ⟨failed, told⟩
    | cons first before =>
      cases split
      obtain ⟨here, others⟩ := List.forall_mem_cons.mp earlier
      exact .inr ⟨here, before, unmet, behind, rfl, others, failed, told⟩
  · rintro (⟨failed, told⟩ | ⟨here, before, unmet, behind, rfl, earlier, failed, told⟩)
    · exact ⟨[], demand, demands, rfl, nofun, failed, told⟩
    · exact ⟨demand :: before, unmet, behind, rfl, List.forall_mem_cons.mpr ⟨here, earlier⟩, failed,
        told⟩

theorem refuses_singleton : Refuses [demand] error ↔ ¬ demand.met ∧ demand.error = error := by
  rw [refuses_cons, or_iff_left fun later => not_refuses_nil later.2]

/-- Later demands count once all before them are met. -/
theorem refuses_append :
    Refuses (demands ++ later) error
      ↔ Refuses demands error ∨ (∀ demand ∈ demands, demand.met) ∧ Refuses later error := by
  induction demands with
  | nil => simp [not_refuses_nil]
  | cons demand demands ih =>
    rw [List.cons_append, refuses_cons, refuses_cons, ih, List.forall_mem_cons]
    tauto

/-- The demands of the members of a list, one member after the other. Those of a member may depend on
its place. -/
def inOrder (demandsOf : α → Nat → List (Demand ε)) : List α → List (Demand ε)
  | [] => []
  | item :: items => demandsOf item 0 ++ inOrder (fun later index => demandsOf later (index + 1)) items

theorem forall_mem_inOrder {demandsOf : α → Nat → List (Demand ε)} {items : List α} :
    (∀ demand ∈ inOrder demandsOf items, demand.met)
      ↔ ∀ index item, items[index]? = some item → ∀ demand ∈ demandsOf item index, demand.met := by
  induction items generalizing demandsOf with
  | nil => exact ⟨fun _ => nofun, fun _ => nofun⟩
  | cons first items ih =>
    rw [inOrder, List.forall_mem_append, ih]
    constructor
    · rintro ⟨here, later⟩ index item listed
      cases index with
      | zero =>
        obtain rfl : first = item := Option.some.inj listed
        exact here
      | succ index => exact later index item listed
    · intro each
      exact ⟨each 0 first rfl, fun index item listed => each (index + 1) item listed⟩

/-- **The first member that does not meet its demands decides.** -/
theorem refuses_inOrder {demandsOf : α → Nat → List (Demand ε)} {items : List α} :
    Refuses (inOrder demandsOf items) error
      ↔ ∃ index item, items[index]? = some item
        ∧ (∀ earlier < index, ∀ other, items[earlier]? = some other →
          ∀ demand ∈ demandsOf other earlier, demand.met)
        ∧ Refuses (demandsOf item index) error := by
  induction items generalizing demandsOf with
  | nil => exact ⟨fun refuses => absurd refuses not_refuses_nil, nofun⟩
  | cons first items ih =>
    rw [inOrder, refuses_append, ih]
    constructor
    · rintro (here | ⟨met, index, item, listed, before, refuses⟩)
      · exact ⟨0, first, rfl, nofun, here⟩
      · refine ⟨index + 1, item, listed, fun earlier less other found => ?_, refuses⟩
        cases earlier with
        | zero =>
          obtain rfl : first = other := Option.some.inj found
          exact met
        | succ earlier => exact before earlier (Nat.lt_of_succ_lt_succ less) other found
    · rintro ⟨index, item, listed, before, refuses⟩
      cases index with
      | zero =>
        obtain rfl : first = item := Option.some.inj listed
        exact .inl refuses
      | succ index =>
        refine .inr ⟨before 0 (Nat.succ_pos index) first rfl, index, item, listed, ?_, refuses⟩
        exact fun earlier less => before (earlier + 1) (Nat.succ_lt_succ less)

/-- Demands that are all met refuse nothing. -/
theorem Refuses.not_met (refuses : Refuses demands error) : ¬ ∀ demand ∈ demands, demand.met := by
  obtain ⟨before, demand, behind, rfl, -, failed, -⟩ := refuses
  exact fun met => failed (met demand (by simp))

/-- What is told is the failure of one of the demands. -/
theorem Refuses.exists_mem (refuses : Refuses demands error) :
    ∃ demand ∈ demands, demand.error = error := by
  obtain ⟨before, demand, behind, rfl, -, -, told⟩ := refuses
  exact ⟨demand, by simp, told⟩

/-- **Demands have at most one failure.** -/
theorem Refuses.unique (refuses : Refuses demands error) (refuses' : Refuses demands error') :
    error = error' := by
  induction demands with
  | nil => exact absurd refuses not_refuses_nil
  | cons demand demands ih =>
    rcases refuses_cons.mp refuses with ⟨failed, rfl⟩ | ⟨met, rest⟩
    · rcases refuses_cons.mp refuses' with ⟨-, told⟩ | ⟨met, -⟩
      · exact told
      · exact absurd met failed
    · rcases refuses_cons.mp refuses' with ⟨failed, -⟩ | ⟨-, rest'⟩
      · exact absurd met failed
      · exact ih rest rest'

theorem Refuses.mapError (refuses : Refuses demands error) (change : ε → ε') :
    Refuses (demands.map (Demand.mapError change)) (change error) := by
  obtain ⟨before, demand, behind, rfl, earlier, failed, rfl⟩ := refuses
  refine ⟨before.map (Demand.mapError change), demand.mapError change,
    behind.map (Demand.mapError change), by simp, ?_, failed, rfl⟩
  intro told member
  obtain ⟨first, listed, rfl⟩ := List.mem_map.mp member
  exact earlier first listed

/-- A failure that is told differently comes from the same demand. -/
theorem refuses_map_mapError {change : ε → ε'} {told : ε'} :
    Refuses (demands.map (Demand.mapError change)) told
      ↔ ∃ error, Refuses demands error ∧ change error = told := by
  constructor
  · intro refuses
    induction demands with
    | nil => exact absurd refuses not_refuses_nil
    | cons demand demands ih =>
      rcases refuses_cons.mp refuses with ⟨failed, rfl⟩ | ⟨met, rest⟩
      · exact ⟨demand.error, refuses_cons.mpr (.inl ⟨failed, rfl⟩), rfl⟩
      · obtain ⟨error, later, rfl⟩ := ih rest
        exact ⟨error, refuses_cons.mpr (.inr ⟨met, later⟩), rfl⟩
  · rintro ⟨error, refuses, rfl⟩
    exact refuses.mapError change

end Demand

/-! ### Outcomes -/

/-- **An outcome that settles demands**: it is a success if all of them are met, and else the failure
of the first that is not. -/
def Settles (demands : List (Demand ε)) : Except ε α → Prop
  | .ok _ => ∀ demand ∈ demands, demand.met
  | .error error => Demand.Refuses demands error

namespace Settles

variable {demands later : List (Demand ε)} {outcome : Except ε α}

theorem exists_ok_iff (settles : Settles demands outcome) :
    (∃ value, outcome = .ok value) ↔ ∀ demand ∈ demands, demand.met := by
  cases outcome with
  | ok value => exact ⟨fun _ => settles, fun _ => ⟨value, rfl⟩⟩
  | error error => exact ⟨nofun, fun met => absurd met (Demand.Refuses.not_met settles)⟩

theorem eq_ok_iff {outcome : Except ε Unit} (settles : Settles demands outcome) :
    outcome = .ok () ↔ ∀ demand ∈ demands, demand.met := by
  rw [← settles.exists_ok_iff]
  exact ⟨fun same => ⟨(), same⟩, fun ⟨_, same⟩ => same⟩

theorem eq_error_iff (settles : Settles demands outcome) {error : ε} :
    outcome = .error error ↔ Demand.Refuses demands error := by
  cases outcome with
  | ok value => exact ⟨nofun, fun refuses => absurd settles refuses.not_met⟩
  | error told =>
    refine ⟨fun same => Except.error.inj same ▸ settles, fun refuses => ?_⟩
    rw [Demand.Refuses.unique settles refuses]

theorem ok (value : α) : Settles ([] : List (Demand ε)) (.ok value) := nofun

/-- Demands that are met may stand in front. -/
theorem behind (met : ∀ demand ∈ demands, demand.met) (settles : Settles later outcome) :
    Settles (demands ++ later) outcome := by
  cases outcome with
  | ok value => exact List.forall_mem_append.mpr ⟨met, settles⟩
  | error error => exact Demand.refuses_append.mpr (.inr ⟨met, settles⟩)

/-- A guard asks one thing before the step behind it. -/
theorem guard {condition met : Prop} [Decidable condition] {error : ε} {step : Except ε α}
    (stops : condition ↔ ¬ met) (rest : met → Settles demands step) :
    Settles (⟨met, error⟩ :: demands) (if condition then .error error else step) := by
  by_cases holds : condition
  · rw [if_pos holds]
    exact Demand.refuses_cons.mpr (.inl ⟨stops.mp holds, rfl⟩)
  · rw [if_neg holds]
    have here : met := not_not.mp (mt stops.mpr holds)
    exact behind (List.forall_mem_singleton.mpr here) (rest here)

/-- A sequence of steps asks what its first step asks, and then what the second does. -/
theorem bind {step : Except ε α} {next : α → Except ε β} (first : Settles demands step)
    (second : ∀ value, step = .ok value → Settles later (next value)) :
    Settles (demands ++ later) (step >>= next) := by
  cases step with
  | error error => exact Demand.refuses_append.mpr (.inl first)
  | ok value => exact behind first (second value rfl)

/-- Steps for the members of a list ask what each of them does, in order. -/
theorem forM {demandsOf : α → List (Demand ε)} {step : α → Except ε Unit} {items : List α}
    (each : ∀ item ∈ items, Settles (demandsOf item) (step item)) :
    Settles (items.flatMap demandsOf) (items.forM step) := by
  induction items with
  | nil => exact ok ()
  | cons item items ih =>
    obtain ⟨here, others⟩ := List.forall_mem_cons.mp each
    exact bind here fun _ _ => ih others

theorem map (settles : Settles demands outcome) (change : α → β) :
    Settles demands (outcome.map change) := by
  cases outcome with
  | ok value => exact settles
  | error error => exact settles

theorem mapError (settles : Settles demands outcome) (change : ε → ε') :
    Settles (demands.map (Demand.mapError change)) (outcome.mapError change) := by
  cases outcome with
  | error error => exact Demand.Refuses.mapError settles change
  | ok value =>
    intro told member
    obtain ⟨demand, listed, rfl⟩ := List.mem_map.mp member
    exact settles demand listed

/-- **Steps over a list ask what each of them does**, in the state that the steps before it reach. -/
theorem fold {σ : Type} {step : σ → α → Traced ε σ} {demandsOf : α → Nat → List (Demand ε)}
    (holds : List α → σ → Prop) {items : List α}
    (each : ∀ done item rest state, items = done ++ item :: rest → holds done state →
      Settles (demandsOf item done.length) (step state item).result)
    (keeps : ∀ done state item next, holds done state → (step state item).result = .ok next →
      holds (done ++ [item]) next)
    {state : σ} (start : holds [] state) :
    Settles (Demand.inOrder demandsOf items)
      ((Traced.fold step state items).result.mapError Prod.fst) := by
  induction items generalizing holds demandsOf state with
  | nil => exact ok state
  | cons item rest ih =>
    rw [Demand.inOrder, Traced.fold_cons, Traced.result_bind, Traced.result_mapError]
    have settles := each [] item rest state rfl start
    cases outcome : (step state item).result with
    | error error =>
      rw [outcome] at settles
      exact Demand.refuses_append.mpr (.inl settles)
    | ok next =>
      rw [outcome] at settles
      -- What is left of the list, behind the member whose step succeeded
      refine behind settles (ih (fun done => holds (item :: done)) ?_ ?_ ?_)
      · intro done later behind state split
        exact each (item :: done) later behind state (congrArg (item :: ·) split)
      · exact fun done => keeps (item :: done)
      · exact keeps [] state item next start outcome

end Settles

end StaticElf
