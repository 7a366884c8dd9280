/-
**One builder for many builds.**

A build renews the segments before it writes to them, so what earlier builds left in a builder does
not matter to it. Only the addresses of the last build that succeeded stay.

* `build_eq_of_layout` — what a build gives depends on the layout of its builder alone.
* `build_ne_committed` — no build writes to a complete segment.
* `kept_of_build_error`, `layout_build` — what a build leaves as it was in its builder.
* `buildEach`, `after`, `lastBuilt?` — builds one after the other on one builder: what they give, the
  builder they leave, and the last program that was built.
* `buildEach_forgets` — all of this for a sequence of builds.
-/

import StaticElf.Proofs.Building

namespace StaticElf

namespace Traced

variable {ε ε' ε'' α β : Type}

/-- Failures of a sequence of steps are told differently where they happen. -/
theorem mapError_bind (change : ε → ε') (step : Traced ε α) (next : α → Traced ε β) :
    (step >>= next).mapError change
      = step.mapError change >>= fun value => (next value).mapError change := by
  cases outcome : step.result with
  | error error =>
    have told : (step.mapError change).result = .error (change error) := by
      rw [result_mapError, outcome, mapError_error]
    rw [bind_of_error next outcome, bind_of_error _ told]
    rfl
  | ok value =>
    have told : (step.mapError change).result = .ok value := by
      rw [result_mapError, outcome, mapError_ok]
    rw [bind_of_ok next outcome, bind_of_ok _ told]
    rfl

theorem mapError_mapError (first : ε → ε') (second : ε' → ε'') (step : Traced ε α) :
    (step.mapError first).mapError second = step.mapError (second ∘ first) := by
  cases outcome : step.result with
  | error error => simp [mapError, outcome]
  | ok value => simp [mapError, outcome]

theorem ofExcept_mapError (change : ε → ε') (result : Except ε α) :
    ofExcept (result.mapError change) = (ofExcept result).mapError change := rfl

end Traced

/-! ### The two passes -/

/-- The first pass does not write to a complete segment: where it fails, the symbols before are in
one that can still be written. -/
theorem storeSymbols_ne_committed {verbose : Bool} {base : UInt64} {symbols : List (Option Bytes)}
    {stored : Stored} (failure : CommittedWrite) :
    (storeSymbols verbose base { name := "data" } symbols).result
      ≠ .error (.committed failure, stored) := by
  intro fails
  obtain ⟨done, symbol, rest, -, reached, failed⟩ := Traced.fold_eq_error fails
  have holds : stored.Holds base done := storeSymbols_holds reached
  rcases storeSymbol_eq_error holds.writable failed with ⟨-, other⟩ | ⟨_, -, -, other⟩
  all_goals cases other

/-- Nor does the second. -/
theorem encodeSlots_ne_committed {verbose : Bool} {lookup : SymbolLookup} {slots : List Slot}
    {encoded : Encoded} (failure : CommittedWrite) :
    (encodeSlots verbose lookup { name := "code" } slots).result
      ≠ .error (.committed failure, encoded) := by
  intro fails
  obtain ⟨done, slot, rest, -, reached, failed⟩ := Traced.fold_eq_error fails
  have holds : encoded.Holds lookup done := encodeSlots_holds reached
  obtain ⟨reason, -, other⟩ := encodeSlot_eq_error holds.writable failed
  cases other

namespace Builder

/-! ### One build -/

/-- A run, without what it leaves where it fails, depends on the layout alone. -/
theorem mapError_run (verbose : Bool) (builder : Builder) (program : Program) :
    (builder.run verbose program).mapError Prod.fst
      = (run verbose { layout := builder.layout } program).mapError Prod.fst := by
  unfold run
  simp only [Traced.ofExcept_mapError, Traced.mapError_bind, Traced.mapError_mapError,
    apply_ite (Traced.mapError Prod.fst)]
  -- Both sides now name the builder only in what a failure drops and in its layout
  rfl

/-- What a build gives, by its run. -/
theorem build_fst (verbose : Bool) (builder : Builder) (program : Program) :
    (builder.build verbose (some program)).1
      = ⟨((builder.run verbose program).mapError Prod.fst).result.map Prod.fst,
          ((builder.run verbose program).mapError Prod.fst).trace⟩ := by
  simp only [build, Traced.mapError]
  cases (builder.run verbose program).result with
  | error failed => rfl
  | ok done => rfl

/-- **What a build gives depends on the layout of its builder alone**, its trace included. -/
theorem build_eq_of_layout (verbose : Bool) (builder : Builder) (program : Option Program) :
    (builder.build verbose program).1 = (build verbose { layout := builder.layout } program).1 := by
  cases program with
  | none => rfl
  | some program => rw [build_fst, build_fst, mapError_run]

/-- A build that fails is a run that does. -/
theorem run_of_build_error {verbose : Bool} {builder : Builder} {program : Program}
    {error : BuildError} (fails : (builder.build verbose (some program)).1.result = .error error) :
    (builder.run verbose program).result
      = .error (error, (builder.build verbose (some program)).2) := by
  simp only [build] at fails ⊢
  split at fails
  · cases fails
  · next reason left outcome =>
    cases fails
    simp only [outcome]

/-- **A build that fails leaves the layout and the addresses as they were.** -/
theorem kept_of_build_error {verbose : Bool} {builder : Builder} {program : Option Program}
    {error : BuildError} (fails : (builder.build verbose program).1.result = .error error) :
    (builder.build verbose program).2.layout = builder.layout
      ∧ (builder.build verbose program).2.addresses = builder.addresses := by
  cases program with
  | none => exact ⟨rfl, rfl⟩
  | some program =>
    rcases run_eq_error (run_of_build_error fails) with
      ⟨_, -, -, left⟩ | ⟨_, -, left⟩ | ⟨_, -, _, left, -⟩
    all_goals
      rw [left]
      exact ⟨rfl, rfl⟩

theorem layout_build (verbose : Bool) (builder : Builder) (program : Option Program) :
    (builder.build verbose program).2.layout = builder.layout := by
  cases outcome : (builder.build verbose program).1.result with
  | error error => exact (kept_of_build_error outcome).1
  | ok assembly =>
    cases program with
    | none => rfl
    | some program =>
      obtain ⟨_, _, -, -, -, -, -, layout, -⟩ := run_eq_ok (run_of_build outcome)
      exact layout

/-- **No build writes to a complete segment**, whatever its builder was used for before. -/
theorem build_ne_committed (verbose : Bool) (builder : Builder) (program : Option Program)
    (failure : CommittedWrite) :
    (builder.build verbose program).1.result ≠ .error (.committed failure) := by
  intro fails
  cases program with
  | none => cases fails
  | some program =>
    rcases run_eq_error (run_of_build_error fails) with
      ⟨_, -, other, -⟩ | ⟨_, storing, -⟩ | ⟨_, -, _, -, encoding | ⟨-, -, other⟩⟩
    · cases other
    · exact storeSymbols_ne_committed failure storing
    · exact encodeSlots_ne_committed failure encoding
    · cases other

/-! ### One build after the other -/

/-- What builds give, one after the other on one builder. Each is verbose or not. -/
def buildEach : Builder → List (Bool × Option Program) → List (Traced BuildError Assembly)
  | _, [] => []
  | builder, (verbose, program) :: rest =>
    let (outcome, next) := builder.build verbose program
    outcome :: next.buildEach rest

/-- The builder after these builds. -/
def after : Builder → List (Bool × Option Program) → Builder
  | builder, [] => builder
  | builder, (verbose, program) :: rest => (builder.build verbose program).2.after rest

/-- The program of the last of these builds that succeeds. -/
def lastBuilt? : Builder → List (Bool × Option Program) → Option Program
  | _, [] => none
  | builder, (verbose, program) :: rest =>
    let (outcome, next) := builder.build verbose program
    (next.lastBuilt? rest).or (if outcome.result.toBool then program else none)

theorem buildEach_eq_map (builder : Builder) (builds : List (Bool × Option Program)) :
    builder.buildEach builds = builds.map fun (verbose, program) =>
      (build verbose { layout := builder.layout } program).1 := by
  induction builds generalizing builder with
  | nil => rfl
  | cons first rest ih =>
    obtain ⟨verbose, program⟩ := first
    show (builder.build verbose program).1 :: (builder.build verbose program).2.buildEach rest = _
    rw [ih, layout_build, build_eq_of_layout, List.map_cons]

/-- **After builds a builder has the addresses of the last that succeeded**, or those from before. -/
theorem addresses_after (builder : Builder) (builds : List (Bool × Option Program)) :
    (builder.after builds).addresses
      = ((builder.lastBuilt? builds).map (·.addressTable builder.layout.dataAddress)).getD
          builder.addresses := by
  induction builds generalizing builder with
  | nil => rfl
  | cons first rest ih =>
    obtain ⟨verbose, program⟩ := first
    rw [after, ih, layout_build, lastBuilt?]
    dsimp only
    cases (builder.build verbose program).2.lastBuilt? rest with
    | some later => rfl
    | none =>
      cases outcome : (builder.build verbose program).1.result with
      | error error => exact (kept_of_build_error outcome).2
      | ok assembly =>
        cases program with
        | none => cases outcome
        | some program => exact addresses_of_build outcome

/-- **A builder carries no history.** On a new builder, each of a sequence of builds gives what it
gives on a new builder of the same layout; none writes to a complete segment; and after any number of
them the addresses are those of the last that succeeded, if there was one. -/
theorem buildEach_forgets (layout : Layout) (builds : List (Bool × Option Program)) :
    buildEach { layout } builds
        = builds.map (fun (verbose, program) => (build verbose { layout } program).1)
      ∧ (∀ outcome ∈ buildEach { layout } builds, ∀ failure,
          outcome.result ≠ .error (.committed failure))
      ∧ ∀ count, (after { layout } (builds.take count)).addresses
          = ((lastBuilt? { layout } (builds.take count)).map
              (·.addressTable layout.dataAddress)).getD [] := by
  have same := buildEach_eq_map { layout } builds
  refine ⟨same, ?_, fun count => addresses_after { layout } (builds.take count)⟩
  rw [same]
  intro outcome member failure
  obtain ⟨⟨verbose, program⟩, -, rfl⟩ := List.mem_map.mp member
  exact build_ne_committed verbose { layout } program failure

/-- Two builds that succeed, and between them one that fails at its second symbol, one that fails at
its second operation, and one without a program. -/
def interrupted : List (Bool × Option Program) := [
  (false, some { symbols := [some [1, 2, 3], some [4]] }),
  (true, some { symbols := [some [5], none] }),
  (false, some { symbols := [some [6, 7]], slots := [.op (.syscall .exit), .empty] }),
  (false, none),
  (true, some { symbols := [some [8, 9], some []], slots := [.op (.loadSymbol ⟨6⟩ ⟨1⟩)] })]

theorem buildEach_forgets_interrupted :
    ((buildEach {} interrupted).map fun outcome => outcome.result.toBool)
        = [true, false, false, false, true]
      ∧ (after {} (interrupted.take 4)).addresses = [0x402000, 0x402003]
      ∧ (after {} (interrupted.take 5)).addresses = [0x402000, 0x402002] := by
  obtain ⟨outcomes, -, addresses⟩ := buildEach_forgets .standard interrupted
  exact ⟨by rw [outcomes]; rfl, by rw [addresses 4]; rfl, by rw [addresses 5]; rfl⟩

end Builder

end StaticElf
