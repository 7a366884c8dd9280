/-
**Which calls an emission makes.**

All checks of an emission come before its first call. Then its seven calls are made in order, up to
the first that fails. The emission fails exactly when a call does, and tells its reason.

* `Output.watched` — an output that keeps its calls and their answers, and is otherwise as it was.
* `Performed` — steps in order up to the first that fails; `performed_performSteps` says that this is
  what is done.
* `Emission`, `emitEach` — emissions one after the other on one output, each with its calls.
* `Emission.Orderly`, `emitWatched_cases` — what can be said of every emission, and what it can do.
* `orderly_emitEach` — every emission of a sequence is orderly, whatever the output answers.
-/

import StaticElf.Proofs.Emission

namespace StaticElf.Elf

/-! ### Watching an output -/

/-- A call and its answer. -/
structure Answered where
  call : Call
  answer : Except String Unit

/-- **An output that is watched.** It does what it did, and keeps each call with its answer. -/
def Output.watched {σ : Type} (output : Output (StateM σ)) :
    Output (StateM (σ × List Answered)) where
  perform call := fun (state, seen) =>
    let (answer, next) := (output.perform call).run state
    (answer, next, seen ++ [⟨call, answer⟩])

/-- **Steps in order up to the first that fails**, with the calls made and the result. -/
inductive Performed : List Step → List Answered → Except EmitError Unit → Prop
  | all : Performed [] [] (.ok ())
  | failed (step : Step) (rest : List Step) (reason : String) :
      Performed (step :: rest) [⟨step.call, .error reason⟩] (.error (.call step.purpose reason))
  | next (step : Step) {rest : List Step} {made : List Answered} {result : Except EmitError Unit}
      (later : Performed rest made result) :
      Performed (step :: rest) (⟨step.call, .ok ()⟩ :: made) result

/-- **A watched output sees the steps in order up to the first that fails**, and the result and the
state are those of the output itself. -/
theorem performed_performSteps {σ : Type} (verbose : Bool) (output : Output (StateM σ))
    (steps : List Step) (state : σ) (seen : List Answered) :
    ∃ made, (performSteps verbose output.watched steps).run (state, seen)
        = (((performSteps verbose output steps).run state).1,
            ((performSteps verbose output steps).run state).2, seen ++ made)
      ∧ Performed steps made ((performSteps verbose output steps).run state).1.result := by
  induction steps generalizing state seen with
  | nil => exact ⟨[], by rw [List.append_nil]; rfl, .all⟩
  | cons step rest ih =>
    rw [run_performSteps_cons, run_performSteps_cons]
    have watched : (output.watched.perform step.call).run (state, seen)
        = (((output.perform step.call).run state).1, ((output.perform step.call).run state).2,
            seen ++ [⟨step.call, ((output.perform step.call).run state).1⟩]) := rfl
    rw [watched]
    rcases (output.perform step.call).run state with ⟨reason | done, next⟩
    · exact ⟨_, rfl, .failed step rest reason⟩
    · obtain ⟨made, same, performed⟩ := ih next (seen ++ [⟨step.call, .ok ()⟩])
      refine ⟨⟨step.call, .ok ()⟩ :: made, ?_, .next step performed⟩
      dsimp only
      rw [same, List.append_assoc]
      rfl

namespace Performed

variable {steps : List Step} {made : List Answered} {result : Except EmitError Unit}

theorem calls_prefix (performed : Performed steps made result) :
    made.map Answered.call <+: steps.map Step.call := by
  induction performed with
  | all => exact List.prefix_rfl
  | failed step rest reason => exact ⟨rest.map Step.call, rfl⟩
  | next step later ih => exact (List.prefix_cons_inj _).mpr ih

theorem made_ne_nil (performed : Performed steps made result) (planned : steps ≠ []) : made ≠ [] := by
  cases performed with
  | all => exact absurd rfl planned
  | failed step rest reason => exact List.cons_ne_nil _ _
  | next step later => exact List.cons_ne_nil _ _

/-- Only the last call can have failed. -/
theorem answer_dropLast (performed : Performed steps made result) :
    ∀ answered ∈ made.dropLast, answered.answer = .ok () := by
  induction performed with
  | all => exact fun _ member => nomatch member
  | failed step rest reason => exact fun _ member => nomatch member
  | @next step rest made result later ih =>
    cases made with
    | nil => exact fun _ member => nomatch member
    | cons first others =>
      rw [List.dropLast_cons_cons]
      exact List.forall_mem_cons.mpr ⟨rfl, ih⟩

/-- **Success is that all calls were made and succeeded.** -/
theorem result_eq_ok_iff (performed : Performed steps made result) :
    result = .ok () ↔ made = steps.map fun step => ⟨step.call, .ok ()⟩ := by
  induction performed with
  | all => exact ⟨fun _ => rfl, fun _ => rfl⟩
  | failed step rest reason =>
    refine ⟨nofun, fun same => ?_⟩
    cases (List.cons.inj same).1
  | next step later ih =>
    rw [ih, List.map_cons, List.cons.injEq]
    exact ⟨fun same => ⟨rfl, same⟩, fun same => same.2⟩

/-- Where no call failed, all were made. -/
theorem result_eq_ok_of_answers (performed : Performed steps made result)
    (answers : ∀ answered ∈ made, answered.answer = .ok ()) : result = .ok () := by
  induction performed with
  | all => rfl
  | failed step rest reason => cases answers _ List.mem_cons_self
  | next step later ih => exact ih fun answered member => answers answered (.tail _ member)

/-- **A failure is that of the last call.** -/
theorem getLast?_of_error (performed : Performed steps made result) {error : EmitError}
    (fails : result = .error error) :
    ∃ call purpose reason, made.getLast? = some ⟨call, .error reason⟩
      ∧ error = .call purpose reason := by
  induction performed with
  | all => cases fails
  | failed step rest reason =>
    cases fails
    exact ⟨step.call, step.purpose, reason, rfl, rfl⟩
  | next step later ih =>
    obtain ⟨call, purpose, reason, last, told⟩ := ih fails
    refine ⟨call, purpose, reason, ?_, told⟩
    rw [List.getLast?_cons, last]
    rfl

end Performed

/-! ### Emissions on one output -/

/-- What one emission did: the output before and after it, its calls with their answers, and its
result. -/
structure Emission (σ : Type) where
  verbose : Bool
  assembly : Option Assembly
  before : σ
  after : σ
  calls : List Answered
  result : Except EmitError Unit

section Emissions

variable {σ : Type} (output : Option (Output (StateM σ)))

/-- One emission, watched. -/
def emitWatched (verbose : Bool) (assembly : Option Assembly) (state : σ) : Emission σ :=
  let run := (emit verbose (output.map Output.watched) assembly).run (state, [])
  { verbose, assembly
    before := state
    after := run.2.1
    calls := run.2.2
    result := run.1.result }

/-- **Emissions one after the other**, whether they succeed or not. -/
def emitEach : List (Bool × Option Assembly) → σ → List (Emission σ)
  | [], _ => []
  | (verbose, assembly) :: rest, state =>
    let emission := emitWatched output verbose assembly state
    emission :: emitEach rest emission.after

end Emissions

/-- The calls that write an assembly: to the start, away with the old content, the headers, and each
segment at its offset. -/
def plannedCalls : Option Assembly → List Call
  | none => []
  | some assembly =>
    [.seek 0, .truncate 0, .write (headerBytes assembly),
      .seek assembly.codeAt.offset.toInt64, .write assembly.code,
      .seek assembly.dataAt.offset.toInt64, .write assembly.data]

/-- The offset that a call seeks to. -/
def Call.seekOffset? : Call → Option Int
  | .seek offset => some offset.toInt
  | _ => none

/-- **All checks come first, and the calls stop at the first that fails.** -/
structure Emission.Orderly {σ : Type} (output : Option (Output (StateM σ)))
    (emission : Emission σ) : Prop where
  /-- Watching has changed nothing. -/
  unwatched : ((emit emission.verbose output emission.assembly).run emission.before).1.result
      = emission.result
    ∧ ((emit emission.verbose output emission.assembly).run emission.before).2 = emission.after
  /-- No call is made exactly when the assembly is refused or there is no output. -/
  calls_eq_nil_iff : emission.calls = []
    ↔ (∃ error, checkGiven emission.assembly = .error error) ∨ output.isNone
  /-- What refuses the assembly is what is told. -/
  refused : ∀ error, checkGiven emission.assembly = .error error →
    emission.result = .error (.assembly error)
  noOutput : checkGiven emission.assembly = .ok () → output.isNone →
    emission.result = .error .noOutput
  /-- The calls are made in order. -/
  inOrder : emission.calls.map Answered.call <+: plannedCalls emission.assembly
  /-- Behind a call that fails no other is made. -/
  stops : ∀ answered ∈ emission.calls.dropLast, answered.answer = .ok ()
  /-- Where some call is made and none fails, all are made. -/
  complete : emission.calls ≠ [] → (∀ answered ∈ emission.calls, answered.answer = .ok ()) →
    emission.calls.map Answered.call = plannedCalls emission.assembly
  /-- The offsets that are sought are the start of the file and those of the segments. -/
  offsets : ∀ assembly, emission.assembly = some assembly → assembly.Sized →
    (emission.calls.map Answered.call).filterMap Call.seekOffset?
      <+: [0, (assembly.codeAt.offset.toNat : Int), (assembly.dataAt.offset.toNat : Int)]
  /-- Success is that all calls were made and succeeded. -/
  succeeds_iff : emission.result = .ok ()
    ↔ emission.assembly.isSome
      ∧ emission.calls = (plannedCalls emission.assembly).map fun call => ⟨call, .ok ()⟩
  /-- A failure behind the first call is one of the output, and its cause is that of the last call. -/
  failed : ∀ error, emission.result = .error error → emission.calls ≠ [] →
    error.fault.category = some .io
      ∧ ∃ call reason, emission.calls.getLast? = some ⟨call, .error reason⟩
        ∧ error.fault.cause = some (.plain reason)
  /-- Any other failure leaves the output as it was. -/
  untouched : ∀ error, emission.result = .error error → error.fault.category ≠ some .io →
    emission.calls = [] ∧ emission.after = emission.before

section Cases

variable {σ : Type}

/-- An emission of an assembly that is refused ends with the refusal. -/
theorem run_emit_refused (verbose : Bool) (output : Option (Output (StateM σ))) {assembly : Assembly}
    {error : AssemblyError} (refused : check assembly = .error error) (state : σ) :
    (emit verbose output (some assembly)).run state
      = (⟨.error (.assembly error), (headers verbose assembly).trace⟩, state) := by
  unfold emit
  simp only [result_headers_error verbose refused]
  rfl

/-- An emission without an output ends behind the checks. -/
theorem run_emit_noOutput (verbose : Bool) {assembly : Assembly} (accepted : check assembly = .ok ())
    (state : σ) :
    (emit verbose (none : Option (Output (StateM σ))) (some assembly)).run state
      = (⟨.error .noOutput, (headers verbose assembly).trace⟩, state) := by
  unfold emit
  simp only [result_headers verbose accepted]
  rfl

/-- **What one emission can do.** It is refused, it has no output, or it performs its steps. -/
theorem emitWatched_cases (output : Option (Output (StateM σ))) (verbose : Bool)
    (assembly : Option Assembly) (state : σ) :
    let emission := emitWatched output verbose assembly state
    let plain := (emit verbose output assembly).run state
    plain.1.result = emission.result ∧ plain.2 = emission.after
      ∧ ((∃ error, checkGiven assembly = .error error ∧ emission.calls = []
            ∧ emission.after = state ∧ emission.result = .error (.assembly error))
        ∨ (checkGiven assembly = .ok () ∧ output = none ∧ emission.calls = []
            ∧ emission.after = state ∧ emission.result = .error .noOutput)
        ∨ ∃ given, assembly = some given ∧ check given = .ok () ∧ output.isSome
            ∧ Performed (steps given (headerBytes given)) emission.calls emission.result) := by
  intro emission plain
  cases assembly with
  | none => exact ⟨rfl, rfl, .inl ⟨.noAssembly, rfl, rfl, rfl, rfl⟩⟩
  | some given =>
    cases checked : check given with
    | error error =>
      have watched := run_emit_refused verbose (output.map Output.watched) checked (state, [])
      simp only [plain, emission, emitWatched, watched, run_emit_refused verbose output checked]
      exact ⟨trivial, trivial, .inl ⟨error, checked, trivial, trivial, rfl⟩⟩
    | ok done =>
      cases output with
      | none =>
        have watched := run_emit_noOutput verbose checked (state, ([] : List Answered))
        simp only [plain, emission, emitWatched, Option.map_none, watched,
          run_emit_noOutput verbose checked]
        exact ⟨trivial, trivial, .inr (.inl ⟨checked, trivial, trivial, trivial, trivial⟩)⟩
      | some output =>
        obtain ⟨made, same, performed⟩ := performed_performSteps verbose output
          (steps given (headerBytes given)) state []
        simp only [plain, emission, emitWatched, Option.map_some, run_emit verbose _ checked, same]
        exact ⟨trivial, trivial, .inr (.inr ⟨given, rfl, checked, rfl, performed⟩)⟩

/-- An emission that ends before its first call is orderly. -/
theorem Emission.orderly_of_untouched {output : Option (Output (StateM σ))} {emission : Emission σ}
    (unwatched : ((emit emission.verbose output emission.assembly).run emission.before).1.result
        = emission.result
      ∧ ((emit emission.verbose output emission.assembly).run emission.before).2 = emission.after)
    (none : emission.calls = []) (left : emission.after = emission.before)
    (ends : (∃ error, checkGiven emission.assembly = .error error
        ∧ emission.result = .error (.assembly error))
      ∨ (checkGiven emission.assembly = .ok () ∧ output.isNone
        ∧ emission.result = .error .noOutput)) : emission.Orderly output := by
  have fails : emission.result ≠ .ok () := by
    rcases ends with ⟨error, -, told⟩ | ⟨-, -, told⟩ <;> rw [told] <;> nofun
  refine ⟨unwatched, ⟨fun _ => ?_, fun _ => none⟩, fun error refused => ?_, fun accepted absent => ?_,
    ?_, ?_, fun made => absurd none made, ?_, ⟨fun succeeds => absurd succeeds fails, ?_⟩,
    fun _ _ made => absurd none made, fun _ _ _ => ⟨none, left⟩⟩
  · rcases ends with ⟨error, refused, -⟩ | ⟨-, absent, -⟩
    · exact .inl ⟨error, refused⟩
    · exact .inr absent
  · rcases ends with ⟨first, same, told⟩ | ⟨accepted, -, -⟩
    · rw [same] at refused
      cases refused
      exact told
    · rw [accepted] at refused
      cases refused
  · rcases ends with ⟨error, refused, -⟩ | ⟨-, -, told⟩
    · rw [refused] at accepted
      cases accepted
    · exact told
  · rw [none]
    exact List.nil_prefix
  · rw [none]
    exact fun _ member => nomatch member
  · intro assembly _ _
    rw [none]
    exact List.nil_prefix
  · rintro ⟨given, planned⟩
    obtain ⟨assembly, same⟩ := Option.isSome_iff_exists.mp given
    rw [none, same] at planned
    cases planned

/-- **The offsets of the planned calls** are those of the segments: no conversion wraps. -/
theorem Admissible.seekOffsets {assembly : Assembly} (admissible : Admissible assembly) :
    (plannedCalls (some assembly)).filterMap Call.seekOffset?
      = [0, (assembly.codeAt.offset.toNat : Int), (assembly.dataAt.offset.toNat : Int)] := by
  obtain ⟨code, data⟩ := admissible.offset_lt
  rw [← toInt_toInt64 code, ← toInt_toInt64 data]
  rfl

/-- An emission that performs its steps is orderly. -/
theorem Emission.orderly_of_performed {output : Option (Output (StateM σ))} {emission : Emission σ}
    (unwatched : ((emit emission.verbose output emission.assembly).run emission.before).1.result
        = emission.result
      ∧ ((emit emission.verbose output emission.assembly).run emission.before).2 = emission.after)
    {assembly : Assembly} (given : emission.assembly = some assembly)
    (accepted : check assembly = .ok ()) (present : output.isSome)
    (performed : Performed (steps assembly (headerBytes assembly)) emission.calls emission.result) :
    emission.Orderly output := by
  have made : emission.calls ≠ [] := performed.made_ne_nil (List.cons_ne_nil _ _)
  have passes : checkGiven emission.assembly = .ok () := by
    rw [given]
    exact accepted
  have inOrder : emission.calls.map Answered.call <+: plannedCalls emission.assembly := by
    rw [given]
    exact performed.calls_prefix
  have succeeds : emission.result = .ok ()
      ↔ emission.calls = (plannedCalls emission.assembly).map fun call => ⟨call, .ok ()⟩ := by
    rw [given]
    exact performed.result_eq_ok_iff
  have failure (error : EmitError) (fails : emission.result = .error error) :
      error.fault.category = some .io
        ∧ ∃ call reason, emission.calls.getLast? = some ⟨call, .error reason⟩
          ∧ error.fault.cause = some (.plain reason) := by
    obtain ⟨call, purpose, reason, last, rfl⟩ := performed.getLast?_of_error fails
    exact ⟨rfl, call, reason, last, rfl⟩
  refine ⟨unwatched, ⟨fun none => absurd none made, ?_⟩, fun error refused => ?_, fun _ absent => ?_,
    inOrder, performed.answer_dropLast, fun _ answers => ?_, ?_, ?_,
    fun error fails _ => failure error fails, fun error fails other => ?_⟩
  · rintro (⟨error, refused⟩ | absent)
    · rw [passes] at refused
      cases refused
    · rw [Option.isNone_iff_eq_none.mp absent] at present
      cases present
  · rw [passes] at refused
    cases refused
  · rw [Option.isNone_iff_eq_none.mp absent] at present
    cases present
  · rw [succeeds.mp (performed.result_eq_ok_of_answers answers), List.map_map]
    exact List.map_id _
  · intro same isSame sized
    rw [given] at isSame inOrder
    cases isSame
    rw [← ((check_eq_ok_iff sized).mp accepted).seekOffsets]
    exact inOrder.filterMap _
  · refine succeeds.trans ⟨fun all => ⟨?_, all⟩, And.right⟩
    rw [given]
    rfl
  · exact absurd (failure error fails).1 other

end Cases

/-- **Emissions check everything first and stop at the first failure.** On one output, whatever it
answers to each call, each of any number of emissions of any assemblies is orderly. -/
theorem orderly_emitEach {σ : Type} (output : Option (Output (StateM σ)))
    (emissions : List (Bool × Option Assembly)) (state : σ) :
    ∀ emission ∈ emitEach output emissions state, emission.Orderly output := by
  induction emissions generalizing state with
  | nil => exact fun _ member => nomatch member
  | cons first rest ih =>
    obtain ⟨verbose, assembly⟩ := first
    refine List.forall_mem_cons.mpr ⟨?_, ih _⟩
    obtain ⟨result, after, ends⟩ := emitWatched_cases output verbose assembly state
    rcases ends with ⟨error, refused, none, left, told⟩ | ⟨accepted, absent, none, left, told⟩
      | ⟨given, same, accepted, present, performed⟩
    · exact Emission.orderly_of_untouched ⟨result, after⟩ none left (.inl ⟨error, refused, told⟩)
    · refine Emission.orderly_of_untouched ⟨result, after⟩ none left (.inr ⟨accepted, ?_, told⟩)
      exact Option.isNone_iff_eq_none.mpr absent
    · exact Emission.orderly_of_performed ⟨result, after⟩ same accepted present performed

/-- Emissions of nothing, of an assembly in the headers, and twice of one that is accepted. -/
def retried : List (Bool × Option Assembly) :=
  [(false, none), (true, some {}), (false, some dataFirst), (false, some dataFirst)]

/-- An output whose fifth call fails. -/
def failsFifth : Recorder := { failAt := some (4, "no space left on device") }

theorem orderly_emitEach_failsFifth :
    ∃ empty refused failed succeeded,
      emitEach (some Recorder.output) retried failsFifth = [empty, refused, failed, succeeded]
        ∧ empty.result = .error (.assembly .noAssembly) ∧ refused.calls = []
        ∧ failed.result = .error (.call "writing the code segment" "no space left on device")
        ∧ failed.calls.length = 5
        ∧ failed.calls.map Answered.call <+: plannedCalls (some dataFirst)
        ∧ succeeded.calls = (plannedCalls (some dataFirst)).map fun call => ⟨call, .ok ()⟩ := by
  have orderly := orderly_emitEach (some Recorder.output) retried failsFifth
  have accepted : check dataFirst = .ok () := rfl
  -- The headers are not computed: an accepted assembly performs its steps with any.
  simp only [retried, emitEach, emitWatched, Option.map_some, run_emit _ _ accepted,
    List.forall_mem_cons] at orderly ⊢
  obtain ⟨-, -, failed, succeeded, -⟩ := orderly
  exact ⟨_, _, _, _, rfl, rfl, rfl, rfl, rfl, failed.inOrder, (succeeded.succeeds_iff.mp rfl).2⟩

end StaticElf.Elf
