/-
**Steps that may fail, taken apart.**

* `except_bind_eq_ok`, `except_then_eq_ok` — a sequence of steps succeeds when each of them does.
* `except_guard_eq_ok` — a guard lets the steps behind it through.
* `except_forM_eq_ok`, `except_forM_eq_error` — a step for each member of a list succeeds when all of
  them do, and fails as one of them; `except_exists_mapM` says the first for steps that give something.
* `except_mapError_eq_ok` — a step whose failure is told differently succeeds as before.
* `except_bind_eq_error`, `except_mapError_eq_error` — where a failure comes from.
* `toOption_bind` — a sequence of steps without the reasons of its failures.
* `Traced.result_bind` — a sequence of steps without their traces.
* `Traced.fold_invariant` — what each step over a list keeps holds after all of them.
* `Traced.fold_eq_error` — steps over a list fail at the first that does, in the state it was taken in.
-/

import StaticElf.Trace

namespace StaticElf

variable {ε α β : Type}

/-- A sequence of steps succeeds when each of them does. -/
theorem except_bind_eq_ok {step : Except ε α} {next : α → Except ε β} {value : β} :
    step >>= next = .ok value ↔ ∃ middle, step = .ok middle ∧ next middle = .ok value := by
  cases step with
  | error error => simp [bind, Except.bind]
  | ok middle => simp [bind, Except.bind]

@[simp] theorem ok_bind (value : α) (next : α → Except ε β) :
    Except.ok value >>= next = next value := rfl

/-- The same for a first step that gives nothing to the second. -/
theorem except_then_eq_ok {step : Except ε Unit} {next : Except ε α} {value : α} :
    (step >>= fun _ => next) = .ok value ↔ step = .ok () ∧ next = .ok value := by
  cases step with
  | error error => simp [bind, Except.bind]
  | ok done => simp [bind, Except.bind]

/-- A guard in front of a step lets it through. -/
theorem except_guard_eq_ok {condition : Prop} [Decidable condition] {error : ε} {step : Except ε α}
    {value : α} :
    (if condition then .error error else step) = .ok value ↔ ¬ condition ∧ step = .ok value := by
  by_cases holds : condition
  · simp [holds]
  · simp [holds]

/-- A step for each member of a list. -/
theorem except_forM_eq_ok {step : α → Except ε Unit} {items : List α} :
    items.forM step = .ok () ↔ ∀ item ∈ items, step item = .ok () := by
  induction items with
  | nil => exact ⟨fun _ => nofun, fun _ => rfl⟩
  | cons item rest ih =>
    show (step item >>= fun _ => rest.forM step) = .ok () ↔ _
    rw [except_then_eq_ok, ih, List.forall_mem_cons]

/-- Steps that give something for each member of a list succeed when all of them do. -/
theorem except_exists_mapM {step : α → Except ε β} {items : List α}
    (each : ∀ item ∈ items, ∃ value, step item = .ok value) :
    ∃ values, items.mapM step = .ok values := by
  induction items with
  | nil => exact ⟨[], rfl⟩
  | cons item rest ih =>
    obtain ⟨value, here⟩ := each item List.mem_cons_self
    obtain ⟨values, later⟩ := ih fun other member => each other (List.mem_cons_of_mem item member)
    refine ⟨value :: values, ?_⟩
    rw [List.mapM_cons, here, later]
    rfl

/-- A step whose result is changed succeeds as before. -/
theorem except_map_eq_ok {step : Except ε α} {change : α → β} {value : β} :
    step.map change = .ok value ↔ ∃ result, step = .ok result ∧ change result = value := by
  cases step with
  | error error => simp [Except.map]
  | ok result => simp [Except.map]

theorem except_map_bind {γ : Type} (step : Except ε α) (next : α → Except ε β) (change : β → γ) :
    (step >>= next).map change = step >>= fun value => (next value).map change := by
  cases step <;> rfl

/-- A failure that is told differently is still one. -/
theorem except_mapError_eq_ok {ε' : Type} {step : Except ε α} {change : ε → ε'} {value : α} :
    step.mapError change = .ok value ↔ step = .ok value := by
  cases step with
  | error error => exact ⟨nofun, nofun⟩
  | ok result =>
    exact ⟨fun same => congrArg Except.ok (Except.ok.inj same),
      fun same => congrArg Except.ok (Except.ok.inj same)⟩

/-- A sequence of steps fails when its first step does, or the one behind it. -/
theorem except_bind_eq_error {step : Except ε α} {next : α → Except ε β} {error : ε} :
    step >>= next = .error error
      ↔ step = .error error ∨ ∃ middle, step = .ok middle ∧ next middle = .error error := by
  cases step with
  | error first => simp [bind, Except.bind]
  | ok middle => simp [bind, Except.bind]

/-- Steps for the members of a list fail as one of them does. -/
theorem except_forM_eq_error {step : α → Except ε Unit} {items : List α} {error : ε}
    (fails : items.forM step = .error error) : ∃ item ∈ items, step item = .error error := by
  induction items with
  | nil => cases fails
  | cons item rest ih =>
    have split : (step item >>= fun _ => rest.forM step) = .error error := fails
    rcases except_bind_eq_error.mp split with here | ⟨_, -, later⟩
    · exact ⟨item, List.mem_cons_self, here⟩
    · obtain ⟨failing, member, failed⟩ := ih later
      exact ⟨failing, List.mem_cons_of_mem _ member, failed⟩

/-- A failure that is told differently was there before. -/
theorem except_mapError_eq_error {ε' : Type} {step : Except ε α} {change : ε → ε'} {error : ε'} :
    step.mapError change = .error error ↔ ∃ first, step = .error first ∧ change first = error := by
  cases step with
  | error first => simp
  | ok result => simp

theorem toOption_bind (step : Except ε α) (next : α → Except ε β) :
    (step >>= next).toOption = step.toOption >>= fun value => (next value).toOption := by
  cases step <;> rfl

namespace Traced

/-- The results of traced steps follow each other as plain results do. -/
theorem result_bind (step : Traced ε α) (next : α → Traced ε β) :
    (step >>= next).result = step.result >>= fun value => (next value).result := by
  cases outcome : step.result with
  | error error =>
    rw [bind_of_error next outcome]
    rfl
  | ok value =>
    rw [bind_of_ok next outcome]
    rfl

@[simp] theorem result_ofExcept (result : Except ε α) : (ofExcept result).result = result := rfl

/-- **Steps over a list that all succeed**: what each step keeps, with one item more behind it,
holds of the last state and the whole list. -/
theorem fold_invariant {σ : Type} {step : σ → α → Traced ε σ} (holds : List α → σ → Prop)
    (keeps : ∀ done state item next, holds done state → (step state item).result = .ok next →
      holds (done ++ [item]) next)
    {items done : List α} {state final : σ} (start : holds done state)
    (succeeds : (fold step state items).result = .ok final) : holds (done ++ items) final := by
  induction items generalizing done state with
  | nil =>
    cases succeeds
    rwa [List.append_nil]
  | cons item rest ih =>
    rw [fold_cons, result_bind] at succeeds
    obtain ⟨next, taken, later⟩ := except_bind_eq_ok.mp succeeds
    rw [List.append_cons]
    exact ih (keeps done state item next start (except_mapError_eq_ok.mp taken)) later

/-- **Steps over a list that fail**: those before the first that fails succeed, and it fails in the
state that they reach. -/
theorem fold_eq_error {σ : Type} {step : σ → α → Traced ε σ} {items : List α} {state left : σ}
    {error : ε} (fails : (fold step state items).result = .error (error, left)) :
    ∃ done item rest, items = done ++ item :: rest ∧ (fold step state done).result = .ok left
      ∧ (step left item).result = .error error := by
  induction items generalizing state with
  | nil => cases fails
  | cons item rest ih =>
    rw [fold_cons, result_bind] at fails
    rcases except_bind_eq_error.mp fails with here | ⟨next, taken, later⟩
    · obtain ⟨first, failed, same⟩ := except_mapError_eq_error.mp here
      cases same
      exact ⟨[], item, rest, rfl, rfl, failed⟩
    · obtain ⟨done, failing, behind, rfl, reached, failed⟩ := ih later
      refine ⟨item :: done, failing, behind, rfl, ?_, failed⟩
      rw [fold_cons, result_bind]
      exact except_bind_eq_ok.mpr ⟨next, taken, reached⟩

end Traced

end StaticElf
