/-
**Verbose mode changes nothing but the trace.**

A step without its trace is the same step done quietly. This is shown once for each step, from the
single notes up to whole builds and emissions; two runs that differ only in how verbose they are then
agree in all but their traces, since both are the same without them.

* `Traced.silenced` — a step without its trace, and how this goes with putting steps together.
* `Builder.build_quiet`, `Elf.emit_quiet` — a quiet build or emission is a verbose one without its
  trace.
* `Builder.buildEach_quietly`, `Builder.after_quietly`, `Elf.emitEach_quietly` — the same for any number
  of them, one after the other, some verbose and others not.
-/

import StaticElf.Proofs.Calls
import StaticElf.Proofs.RepeatedBuilds

namespace StaticElf

namespace Traced

variable {ε ε' α β : Type}

/-- **A step without its trace.** -/
def silenced (step : Traced ε α) : Traced ε α := ⟨step.result, []⟩

@[simp] theorem result_silenced (step : Traced ε α) : step.silenced.result = step.result := rfl

@[simp] theorem trace_silenced (step : Traced ε α) : step.silenced.trace = [] := rfl

@[simp] theorem silenced_pure (value : α) :
    (pure value : Traced ε α).silenced = pure value := rfl

@[simp] theorem silenced_fail (error : ε) : (fail error : Traced ε α).silenced = fail error := rfl

@[simp] theorem silenced_ofExcept (result : Except ε α) :
    (ofExcept result).silenced = ofExcept result := rfl

@[simp] theorem silenced_note (verbose : Bool) (event : Event) :
    (note verbose event : Traced ε Unit).silenced = note false event := rfl

@[simp] theorem silenced_mapError (change : ε → ε') (step : Traced ε α) :
    (step.mapError change).silenced = step.silenced.mapError change := rfl

@[simp] theorem silenced_bind (step : Traced ε α) (next : α → Traced ε β) :
    (step >>= next).silenced = step.silenced >>= fun value => (next value).silenced := by
  cases outcome : step.result with
  | error error =>
    rw [bind_of_error next outcome, bind_of_error _ ((result_silenced step).trans outcome)]
    rfl
  | ok value =>
    rw [bind_of_ok next outcome, bind_of_ok _ ((result_silenced step).trans outcome)]
    rfl

/-- **Steps over a list without their traces** are steps without theirs over the list. -/
theorem silenced_fold {σ : Type} (step : σ → α → Traced ε σ) (start : σ) (items : List α) :
    (fold step start items).silenced
      = fold (fun state item => (step state item).silenced) start items := by
  induction items generalizing start with
  | nil => rfl
  | cons item rest ih => simp only [fold_cons, silenced_bind, silenced_mapError, ih]

end Traced

/-- Something to be done quietly. -/
def quietly {α : Type} (item : Bool × α) : Bool × α := (false, item.2)

/-! ### Builds -/

@[simp] theorem SegmentBuffer.silenced_commit {ε : Type} (verbose : Bool) (buffer : SegmentBuffer) :
    (buffer.commit verbose : Traced ε SegmentBuffer).silenced = buffer.commit false := rfl

theorem silenced_storeSymbol (verbose : Bool) (base : UInt64) (stored : Stored)
    (symbol : Option Bytes) :
    (storeSymbol verbose base stored symbol).silenced = storeSymbol false base stored symbol := by
  unfold storeSymbol
  cases symbol with
  | none => rfl
  | some bytes => simp [apply_ite Traced.silenced]

@[simp] theorem silenced_storeSymbols (verbose : Bool) (base : UInt64) (data : SegmentBuffer)
    (symbols : List (Option Bytes)) :
    (storeSymbols verbose base data symbols).silenced = storeSymbols false base data symbols := by
  simp only [storeSymbols, Traced.silenced_fold, silenced_storeSymbol]

theorem silenced_encodeSlot (verbose : Bool) (lookup : SymbolLookup) (encoded : Encoded)
    (slot : Slot) :
    (encodeSlot verbose lookup encoded slot).silenced = encodeSlot false lookup encoded slot := by
  have quiet : (slot.encodeTraced verbose lookup).silenced = slot.encodeTraced false lookup := by
    unfold Slot.encodeTraced
    cases slot <;> simp
  simp [encodeSlot, quiet]

@[simp] theorem silenced_encodeSlots (verbose : Bool) (lookup : SymbolLookup) (code : SegmentBuffer)
    (slots : List Slot) :
    (encodeSlots verbose lookup code slots).silenced = encodeSlots false lookup code slots := by
  simp only [encodeSlots, Traced.silenced_fold, silenced_encodeSlot]

namespace Builder

theorem silenced_run (verbose : Bool) (builder : Builder) (program : Program) :
    (builder.run verbose program).silenced = builder.run false program := by
  simp [run, apply_ite Traced.silenced]

/-- **A quiet build is a verbose one without its trace**, and leaves the same builder. -/
theorem build_quiet (verbose : Bool) (builder : Builder) (program : Option Program) :
    builder.build false program
      = ((builder.build verbose program).1.silenced, (builder.build verbose program).2) := by
  cases program with
  | none => rfl
  | some program =>
    simp only [build, ← silenced_run verbose builder program, Traced.result_silenced,
      Traced.trace_silenced]
    cases (builder.run verbose program).result with
    | error failed => rfl
    | ok done => rfl

/-- **Quiet builds one after the other are verbose ones without their traces.** -/
theorem buildEach_quietly (builder : Builder) (builds : List (Bool × Option Program)) :
    builder.buildEach (builds.map quietly) = (builder.buildEach builds).map Traced.silenced := by
  induction builds generalizing builder with
  | nil => rfl
  | cons first rest ih =>
    obtain ⟨verbose, program⟩ := first
    show (builder.build false program).1
        :: (builder.build false program).2.buildEach (rest.map quietly) = _
    rw [build_quiet verbose, ih]
    rfl

/-- They leave the same builder. -/
theorem after_quietly (builder : Builder) (builds : List (Bool × Option Program)) :
    builder.after (builds.map quietly) = builder.after builds := by
  induction builds generalizing builder with
  | nil => rfl
  | cons first rest ih =>
    obtain ⟨verbose, program⟩ := first
    show (builder.build false program).2.after (rest.map quietly) = _
    rw [build_quiet verbose, ih]
    rfl

end Builder

/-! ### Emissions -/

namespace Elf

namespace HeaderBuffer

variable (buffer : HeaderBuffer) (event : Event) (bytes : Bytes)

@[simp] theorem verbose_note : (buffer.note event).verbose = buffer.verbose := by
  unfold note
  split <;> rfl

@[simp] theorem verbose_putBytes : (buffer.putBytes bytes).verbose = buffer.verbose :=
  verbose_note _ _

theorem trace_note :
    (buffer.note event).trace = buffer.trace ++ if buffer.verbose then [event] else [] := by
  unfold note
  split
  · rfl
  · exact (List.append_nil _).symm

theorem trace_putBytes :
    (buffer.putBytes bytes).trace
      = buffer.trace ++ if buffer.verbose then [.headerBytes bytes] else [] :=
  trace_note _ _

end HeaderBuffer

@[simp] theorem FileHeader.verbose_encode (header : FileHeader) (buffer : HeaderBuffer) :
    (header.encode buffer).verbose = buffer.verbose := by
  simp [FileHeader.encode, HeaderBuffer.put8, HeaderBuffer.putRepeated, HeaderBuffer.put16,
    HeaderBuffer.put32, HeaderBuffer.put64]

@[simp] theorem ProgHeader.verbose_encode (header : ProgHeader) (buffer : HeaderBuffer) :
    (header.encode buffer).verbose = buffer.verbose := by
  simp [ProgHeader.encode, HeaderBuffer.put32, HeaderBuffer.put64]

theorem trace_headerBuffer_quiet (assembly : Assembly) : (headerBuffer false assembly).trace = [] := by
  simp [headerBuffer, segments, FileHeader.encode, ProgHeader.encode, HeaderBuffer.put8,
    HeaderBuffer.putRepeated, HeaderBuffer.put16, HeaderBuffer.put32, HeaderBuffer.put64,
    HeaderBuffer.trace_note, HeaderBuffer.trace_putBytes]

theorem silenced_headers (verbose : Bool) (assembly : Assembly) :
    (headers verbose assembly).silenced = headers false assembly := by
  have shown : (⟨.ok (), (headerBuffer verbose assembly).trace⟩ : Traced AssemblyError Unit).silenced
      = ⟨.ok (), (headerBuffer false assembly).trace⟩ := by
    rw [trace_headerBuffer_quiet]
    rfl
  simp [headers, content_headerBuffer, shown]

section Emit

variable {m : Type → Type} [Monad m] [LawfulMonad m]

/-- Steps make the same calls, verbose or not. -/
theorem performSteps_quiet (verbose : Bool) (output : Output m) (steps : List Step) :
    performSteps false output steps = Traced.silenced <$> performSteps verbose output steps := by
  induction steps with
  | nil => simp [performSteps]
  | cons step rest ih =>
    simp only [performSteps, ih, map_bind]
    refine bind_congr fun answer => ?_
    cases answer with
    | error reason =>
      dsimp only
      rw [map_pure]
      rfl
    | ok done =>
      dsimp only
      rw [bind_map_left, map_bind]
      refine bind_congr fun later => ?_
      rw [map_pure]
      rfl

/-- **A quiet emission is a verbose one without its trace.** -/
theorem emit_quiet (verbose : Bool) (output : Option (Output m)) (assembly : Option Assembly) :
    emit false output assembly = Traced.silenced <$> emit verbose output assembly := by
  cases assembly with
  | none =>
    rw [emit, emit, map_pure]
    rfl
  | some assembly =>
    simp only [emit, ← silenced_headers verbose assembly, Traced.result_silenced,
      Traced.trace_silenced]
    cases (headers verbose assembly).result with
    | error error =>
      dsimp only
      rw [map_pure]
      rfl
    | ok bytes =>
      cases output with
      | none =>
        dsimp only
        rw [map_pure]
        rfl
      | some output =>
        dsimp only
        rw [performSteps_quiet verbose, bind_map_left, map_bind]
        refine bind_congr fun written => ?_
        rw [map_pure]
        rfl

end Emit

section Emissions

variable {σ : Type} (output : Option (Output (StateM σ)))

theorem emitWatched_quiet (verbose : Bool) (assembly : Option Assembly) (state : σ) :
    emitWatched output false assembly state
      = { emitWatched output verbose assembly state with verbose := false } := by
  unfold emitWatched
  rw [emit_quiet verbose, StateT.run_map]
  rfl

/-- **Quiet emissions one after the other make the same calls**, with the same answers and results, on
any output and however it fails. -/
theorem emitEach_quietly (emissions : List (Bool × Option Assembly)) (state : σ) :
    emitEach output (emissions.map quietly) state
      = (emitEach output emissions state).map fun emission =>
          { emission with verbose := false } := by
  induction emissions generalizing state with
  | nil => rfl
  | cons first rest ih =>
    obtain ⟨verbose, assembly⟩ := first
    show emitWatched output false assembly state
        :: emitEach output (rest.map quietly) (emitWatched output false assembly state).after = _
    rw [emitWatched_quiet output verbose, ih]
    rfl

end Emissions

end Elf

end StaticElf
