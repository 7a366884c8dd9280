/-
**What a verbose build traces.**

The two passes of a build show what they do as they do it. The code that is shown is at any time what
stands in the code segment, so that the trace of a build that ends early has the code of just the
operations before.

* `Traced.Shows` — the code that the trace of a step shows, and how it goes with putting steps together.
* `Traced.shows_fold` — steps over a list show what they add, up to the first that fails.
* `shows_encodeSlots` — the second pass shows what it puts in the code segment.
* `Builder.Faithful`, `Builder.faithful_build` — the trace of every verbose build has the code of the
  places that were encoded, however the build ends.
-/

import StaticElf.Proofs.TraceText
import StaticElf.Proofs.WellFormed

namespace StaticElf

open Text

/-! ### The code that a step shows -/

namespace Traced

variable {ε ε' α β : Type}

/-- **What a step of a build shows**: its trace is one of a build, with this code. -/
structure Shows (step : Traced ε α) (code : Bytes) : Prop where
  ofBuild : ∀ event ∈ step.trace, event.OfBuild
  code : step.trace.flatMap Event.code = code

theorem shows_of_trace_eq_nil {step : Traced ε α} (quiet : step.trace = []) : step.Shows [] := by
  refine ⟨?_, ?_⟩
  · simp [quiet]
  · simp [quiet]

theorem shows_note {verbose : Bool} {event : Event} (ofBuild : event.OfBuild)
    (noCode : event.code = []) : (note verbose event : Traced ε Unit).Shows [] := by
  cases verbose with
  | false => exact shows_of_trace_eq_nil rfl
  | true =>
    refine ⟨?_, ?_⟩
    · simpa [note] using ofBuild
    · simpa [note] using noCode

theorem Shows.mapError {step : Traced ε α} {code : Bytes} (shows : step.Shows code)
    (change : ε → ε') : (step.mapError change).Shows code :=
  ⟨shows.ofBuild, shows.code⟩

theorem Shows.of_append_nil {step : Traced ε α} {code : Bytes} (shows : step.Shows (code ++ [])) :
    step.Shows code := by
  rwa [List.append_nil] at shows

theorem Shows.bind_ok {step : Traced ε α} {next : α → Traced ε β} {value : α} {code more : Bytes}
    (shows : step.Shows code) (succeeds : step.result = .ok value) (later : (next value).Shows more) :
    (step >>= next).Shows (code ++ more) := by
  rw [bind_of_ok next succeeds]
  refine ⟨?_, ?_⟩
  · rw [List.forall_mem_append]
    exact ⟨shows.ofBuild, later.ofBuild⟩
  · rw [List.flatMap_append, shows.code, later.code]

theorem Shows.bind_error {step : Traced ε α} {next : α → Traced ε β} {error : ε} {code : Bytes}
    (shows : step.Shows code) (fails : step.result = .error error) : (step >>= next).Shows code := by
  rw [bind_of_error next fails]
  exact ⟨shows.ofBuild, shows.code⟩

theorem Shows.mapError_bind_ok {step : Traced ε α} {change : ε → ε'} {next : α → Traced ε' β}
    {value : α} {code more : Bytes} (shows : step.Shows code) (succeeds : step.result = .ok value)
    (later : (next value).Shows more) : (step.mapError change >>= next).Shows (code ++ more) := by
  refine (shows.mapError change).bind_ok ?_ later
  rw [result_mapError, succeeds, mapError_ok]

theorem Shows.mapError_bind_error {step : Traced ε α} {change : ε → ε'} {next : α → Traced ε' β}
    {error : ε} {code : Bytes} (shows : step.Shows code) (fails : step.result = .error error) :
    (step.mapError change >>= next).Shows code := by
  have told : (step.mapError change).result = .error (change error) := by
    rw [result_mapError, fails, mapError_error]
  exact (shows.mapError change).bind_error told

/-- Steps that show no code. -/
theorem Shows.bind {step : Traced ε α} {next : α → Traced ε β} (shows : step.Shows [])
    (later : ∀ value, (next value).Shows []) : (step >>= next).Shows [] := by
  cases outcome : step.result with
  | error error => exact shows.bind_error outcome
  | ok value => exact shows.bind_ok outcome (later value)

/-- The state that steps over a list come to, also if one of them fails. -/
def reached {σ : Type} (steps : Traced (ε × σ) σ) : σ :=
  match steps.result with
  | .ok last => last
  | .error (_, left) => left

/-- **Steps over a list show what they add.** On states of a kind, if each step that succeeds stays there
and adds the code that it shows, and each that fails shows none, then all of them show what they have
added up to the state that they come to. -/
theorem shows_fold {σ : Type} {step : σ → α → Traced ε σ} (kind : σ → Prop) (content : σ → Bytes)
    (adds : ∀ state item next, kind state → (step state item).result = .ok next →
      kind next ∧ ∃ code, (step state item).Shows code ∧ content next = content state ++ code)
    (fails : ∀ state item error, kind state → (step state item).result = .error error →
      (step state item).Shows [])
    (start : σ) (here : kind start) (items : List α) :
    ∃ code, (fold step start items).Shows code
      ∧ content (fold step start items).reached = content start ++ code := by
  induction items generalizing start with
  | nil => exact ⟨[], shows_of_trace_eq_nil rfl, (List.append_nil _).symm⟩
  | cons item rest ih =>
    rw [fold_cons]
    cases outcome : (step start item).result with
    | error error =>
      refine ⟨[], (fails start item error here outcome).mapError_bind_error outcome, ?_⟩
      have failed : ((step start item).mapError (·, start)).result = .error (error, start) := by
        rw [result_mapError, outcome, mapError_error]
      rw [bind_of_error _ failed]
      exact (List.append_nil _).symm
    | ok next =>
      obtain ⟨there, first, shows, added⟩ := adds start item next here outcome
      obtain ⟨others, later, holds⟩ := ih next there
      refine ⟨first ++ others, shows.mapError_bind_ok outcome later, ?_⟩
      have taken : ((step start item).mapError (·, start)).result = .ok next := by
        rw [result_mapError, outcome, mapError_ok]
      rw [bind_of_ok _ taken, ← List.append_assoc, ← added, ← holds]
      rfl

end Traced

/-! ### The two passes -/

theorem shows_storeSymbols (verbose : Bool) (base : UInt64) (data : SegmentBuffer)
    (symbols : List (Option Bytes)) : (storeSymbols verbose base data symbols).Shows [] := by
  have step (stored : Stored) (symbol : Option Bytes) :
      (storeSymbol verbose base stored symbol).Shows [] := by
    unfold storeSymbol
    cases symbol with
    | none => exact Traced.shows_of_trace_eq_nil rfl
    | some bytes =>
      dsimp only
      split
      · exact Traced.shows_of_trace_eq_nil rfl
      · refine (Traced.shows_of_trace_eq_nil rfl).bind fun data => ?_
        refine (Traced.shows_note ?_ rfl).bind fun _ => Traced.shows_of_trace_eq_nil rfl
        exact trivial
  obtain ⟨code, shows, holds⟩ := Traced.shows_fold (fun _ => True) (fun _ => [])
    (fun stored symbol next _ _ => ⟨trivial, [], step stored symbol, rfl⟩)
    (fun stored symbol error _ _ => step stored symbol) { data } trivial symbols
  cases holds
  exact shows

theorem shows_commit {ε : Type} (verbose : Bool) {buffer : SegmentBuffer} (plain : Plain buffer.name) :
    (buffer.commit verbose : Traced ε SegmentBuffer).Shows [] := by
  refine (Traced.shows_note ?_ rfl).bind fun _ => Traced.shows_of_trace_eq_nil rfl
  exact plain

/-- What stands at a place of the list shows its code, if it has one. -/
theorem Slot.shows_encodeTraced {lookup : SymbolLookup} {slot : Slot} {code : Bytes}
    (encodes : slot.encode? lookup = .ok code) : (slot.encodeTraced true lookup).Shows code := by
  cases slot with
  | op operation =>
    have trace : ((Slot.op operation).encodeTraced true lookup).trace
        = [.encoded operation code] := by
      unfold Slot.encodeTraced
      rw [encodes]
      rfl
    refine ⟨?_, ?_⟩
    · rw [trace, List.forall_mem_singleton]
      exact trivial
    · rw [trace]
      exact List.append_nil code
  | reference operation => cases encodes
  | emptyReference form => cases encodes
  | empty => cases encodes

theorem Slot.shows_encodeTraced_error {lookup : SymbolLookup} {slot : Slot} {error : EncodingError}
    (fails : slot.encode? lookup = .error error) : (slot.encodeTraced true lookup).Shows [] := by
  refine Traced.shows_of_trace_eq_nil ?_
  unfold Slot.encodeTraced
  rw [fails]
  rfl

/-- **The second pass shows what it puts in the code segment**, also if it fails. -/
theorem shows_encodeSlots (lookup : SymbolLookup) (slots : List Slot) :
    (encodeSlots true lookup { name := "code" } slots).Shows
      (encodeSlots true lookup { name := "code" } slots).reached.code.content := by
  have adds (encoded : Encoded) (slot : Slot) (next : Encoded) (_ : encoded.code.committed = false)
      (succeeds : (encodeSlot true lookup encoded slot).result = .ok next) :
      next.code.committed = false ∧ ∃ code, (encodeSlot true lookup encoded slot).Shows code
        ∧ next.code.content = encoded.code.content ++ code := by
    obtain ⟨code, encodes, written, -⟩ := encodeSlot_eq_ok succeeds
    refine ⟨SegmentBuffer.committed_write? written, code, ?_, SegmentBuffer.content_write? written⟩
    have taken := (slot.result_encodeTraced true lookup).trans encodes
    refine .of_append_nil ((Slot.shows_encodeTraced encodes).mapError_bind_ok taken ?_)
    exact (Traced.shows_of_trace_eq_nil rfl).bind fun _ => Traced.shows_of_trace_eq_nil rfl
  have fails (encoded : Encoded) (slot : Slot) (error : BuildError)
      (writable : encoded.code.committed = false)
      (failed : (encodeSlot true lookup encoded slot).result = .error error) :
      (encodeSlot true lookup encoded slot).Shows [] := by
    obtain ⟨reason, refused, -⟩ := encodeSlot_eq_error writable failed
    have stopped := (slot.result_encodeTraced true lookup).trans refused
    exact (Slot.shows_encodeTraced_error refused).mapError_bind_error stopped
  obtain ⟨code, shows, holds⟩ := Traced.shows_fold
    (fun encoded : Encoded => encoded.code.committed = false)
    (fun encoded => encoded.code.content) adds fails { code := { name := "code" } } rfl slots
  rw [encodeSlots, holds]
  exact shows

theorem name_write? {buffer after : SegmentBuffer} {bytes : Bytes}
    (written : buffer.write? bytes = .ok after) : after.name = buffer.name := by
  unfold SegmentBuffer.write? at written
  split at written
  · cases written
  · cases written
    rfl

theorem count_of_storeSymbols {verbose : Bool} {base : UInt64} {symbols : List (Option Bytes)}
    {stored : Stored}
    (succeeds : (storeSymbols verbose base { name := "data" } symbols).result = .ok stored) :
    stored.data.name = "data" ∧ stored.count = symbols.length := by
  let counted (symbols : List (Option Bytes)) (stored : Stored) : Prop :=
    stored.data.name = "data" ∧ stored.count = symbols.length
  have start : counted [] { data := { name := "data" } } := ⟨rfl, rfl⟩
  refine Traced.fold_invariant counted ?_ start succeeds
  rintro done stored symbol next ⟨named, count⟩ taken
  obtain ⟨bytes, data, -, -, written, rfl⟩ := storeSymbol_eq_ok taken
  refine ⟨(name_write? written).trans named, ?_⟩
  rw [List.length_append, List.length_singleton, ← count]

theorem count_of_encodeSlots {verbose : Bool} {lookup : SymbolLookup} {slots : List Slot}
    {encoded : Encoded}
    (succeeds : (encodeSlots verbose lookup { name := "code" } slots).result = .ok encoded) :
    encoded.code.name = "code" ∧ encoded.count = slots.length := by
  let counted (slots : List Slot) (encoded : Encoded) : Prop :=
    encoded.code.name = "code" ∧ encoded.count = slots.length
  have start : counted [] { code := { name := "code" } } := ⟨rfl, rfl⟩
  refine Traced.fold_invariant counted ?_ start succeeds
  rintro done encoded slot next ⟨named, count⟩ taken
  obtain ⟨_, -, written, one⟩ := encodeSlot_eq_ok taken
  refine ⟨(name_write? written).trans named, ?_⟩
  rw [one, count, List.length_append, List.length_singleton]

/-! ### One build -/

namespace Builder

variable {builder : Builder} {program : Program}

theorem shows_run_refused {reason : LayoutError} (refused : builder.layout.check = .error reason) :
    (builder.run true program).Shows [] := by
  have checking : (Traced.ofExcept builder.layout.check).Shows [] := Traced.shows_of_trace_eq_nil rfl
  exact checking.mapError_bind_error refused

theorem shows_run_stopped {failed : BuildError × Stored}
    (storing : (storeSymbols true builder.layout.dataAddress { name := "data" }
      program.symbols).result = .error failed) : (builder.run true program).Shows [] := by
  refine (Traced.shows_of_trace_eq_nil rfl).bind fun _ => ?_
  exact (shows_storeSymbols _ _ _ _).mapError_bind_error storing

/-- **A build that comes to its second pass shows what that puts in the code segment.** -/
theorem shows_run {stored : Stored} (accepted : builder.layout.check = .ok ())
    (storing : (storeSymbols true builder.layout.dataAddress { name := "data" }
      program.symbols).result = .ok stored) :
    (builder.run true program).Shows (encodeSlots true (SymbolTable.address? stored.addresses.reverse)
      { name := "code" } program.slots).reached.code.content := by
  have checking : (Traced.ofExcept builder.layout.check).Shows [] := Traced.shows_of_trace_eq_nil rfl
  refine checking.mapError_bind_ok accepted ?_
  refine (shows_storeSymbols _ _ _ _).mapError_bind_ok storing ?_
  refine (shows_commit true ?_).bind_ok rfl ?_
  · rw [(count_of_storeSymbols storing).1]
    decide
  have encoding := shows_encodeSlots (SymbolTable.address? stored.addresses.reverse) program.slots
  cases outcome : (encodeSlots true (SymbolTable.address? stored.addresses.reverse)
      { name := "code" } program.slots).result with
  | error failed => exact encoding.mapError_bind_error outcome
  | ok encoded =>
    refine .of_append_nil (encoding.mapError_bind_ok outcome ?_)
    dsimp only
    split
    · exact Traced.shows_of_trace_eq_nil rfl
    · refine (shows_commit true ?_).bind fun _ => ?_
      · rw [(count_of_encodeSlots outcome).1]
        decide
      · refine (Traced.shows_note ?_ rfl).bind fun _ => Traced.shows_of_trace_eq_nil rfl
        exact trivial

theorem shows_build {code : Bytes} (shows : (builder.run true program).Shows code) :
    (builder.build true (some program)).1.Shows code := by
  rw [build_fst]
  exact ⟨shows.ofBuild, shows.code⟩

/-- How many places of the list a build has encoded, by how it ends: all of them if it succeeds or the
code is too large, those before the one that has no code, and none if it ends earlier. -/
def encodedCount (program : Program) : Except BuildError Assembly → Nat
  | .ok _ | .error (.codeTooLarge ..) => program.slots.length
  | .error (.slot index ..) => index
  | .error _ => 0

/-- **A faithful trace of a build**: on the lines of operations it has the code of the places that were
encoded, in their order. Where a place has no code, these are all before the first such place. -/
structure Faithful (layout : Layout) (program : Program) (outcome : Traced BuildError Assembly) :
    Prop where
  code : ∃ code, bytesOn? isInstruction (traceText outcome.trace).toList = some code
    ∧ encodeAll? (program.symbolAddress? layout.dataAddress)
        (program.slots.take (encodedCount program outcome.result)) = .ok code
  stopped : ∀ index slot error, outcome.result = .error (.slot index slot error) →
    program.slots[index]? = some slot
      ∧ slot.encode? (program.symbolAddress? layout.dataAddress) = .error error

theorem faithful_of_shows {layout : Layout} {outcome : Traced BuildError Assembly} {code : Bytes}
    {result : Except BuildError Assembly} (shows : outcome.Shows code)
    (ends : outcome.result = result)
    (encodes : encodeAll? (program.symbolAddress? layout.dataAddress)
      (program.slots.take (encodedCount program result)) = .ok code)
    (stopped : ∀ index slot error, result = .error (.slot index slot error) →
      program.slots[index]? = some slot
        ∧ slot.encode? (program.symbolAddress? layout.dataAddress) = .error error) :
    Faithful layout program outcome := by
  refine ⟨⟨code, ?_, ?_⟩, ?_⟩
  · rw [bytesOn?_traceText shows.ofBuild, shows.code]
  · rw [ends]
    exact encodes
  · rw [ends]
    exact stopped

/-- A build that ends in its first pass. -/
theorem faithful_of_stored {layout : Layout} {outcome : Traced BuildError Assembly}
    (shows : outcome.Shows []) {error : BuildError} {stored : Stored}
    (storing : (storeSymbols true layout.dataAddress { name := "data" } program.symbols).result
      = .error (error, stored))
    (ends : outcome.result = .error error) : Faithful layout program outcome := by
  obtain ⟨done, symbol, rest, -, reached, failed⟩ := Traced.fold_eq_error storing
  have holds : stored.Holds layout.dataAddress done := storeSymbols_holds reached
  rcases storeSymbol_eq_error holds.writable failed with ⟨-, rfl⟩ | ⟨_, -, -, rfl⟩
  all_goals
    refine faithful_of_shows shows ends rfl ?_
    intro index slot error other
    cases other

/-- A build that ends in its second pass or behind it. -/
theorem faithful_of_encoded {layout : Layout} {outcome : Traced BuildError Assembly}
    (shows : outcome.Shows (encodeSlots true (program.symbolAddress? layout.dataAddress)
      { name := "code" } program.slots).reached.code.content)
    {data : SegmentBuffer}
    (ends : outcome.result = (encodeSlots true (program.symbolAddress? layout.dataAddress)
        { name := "code" } program.slots).result.mapError Prod.fst >>= fun encoded =>
      if encoded.code.content.length > layout.codeCapacity.toNat then
        .error (.codeTooLarge encoded.code.content.length layout.codeCapacity)
      else .ok (assembly layout encoded.code data)) : Faithful layout program outcome := by
  cases encoding : (encodeSlots true (program.symbolAddress? layout.dataAddress)
      { name := "code" } program.slots).result with
  | ok encoded =>
    rw [encoding] at ends
    have whole : encodeAll? (program.symbolAddress? layout.dataAddress)
        (program.slots.take program.slots.length) = .ok encoded.code.content := by
      rw [List.take_length]
      exact (encodeSlots_holds encoding).content
    rw [Traced.reached, encoding] at shows
    change outcome.result = ite _ _ _ at ends
    split at ends
    · refine faithful_of_shows shows ends whole ?_
      intro index slot error other
      cases other
    · refine faithful_of_shows shows ends whole ?_
      intro index slot error other
      cases other
  | error failed =>
    obtain ⟨error, encoded⟩ := failed
    rw [encoding] at ends
    rw [Traced.reached, encoding] at shows
    obtain ⟨done, slot, rest, split, reached, failing⟩ := Traced.fold_eq_error encoding
    have holds : encoded.Holds _ done := encodeSlots_holds reached
    obtain ⟨reason, refused, rfl⟩ := encodeSlot_eq_error holds.writable failing
    have count : encoded.count = done.length := (count_of_encodeSlots reached).2
    refine faithful_of_shows shows ends ?_ ?_
    · show encodeAll? _ (program.slots.take encoded.count) = _
      rw [count, split, List.take_left]
      exact holds.content
    · intro index item error same
      cases same
      rw [count, split, List.getElem?_append_right le_rfl, Nat.sub_self]
      exact ⟨rfl, refused⟩

/-- **The trace of a verbose build is faithful**, however the build ends. -/
theorem faithful_build (builder : Builder) (program : Program) :
    Faithful builder.layout program (builder.build true (some program)).1 := by
  have ends := result_build true builder program
  cases checked : builder.layout.check with
  | error reason =>
    rw [checked] at ends
    refine faithful_of_shows (shows_build (shows_run_refused checked)) ends rfl ?_
    intro index slot error other
    cases other
  | ok done =>
    rw [checked] at ends
    cases storing : (storeSymbols true builder.layout.dataAddress { name := "data" }
        program.symbols).result with
    | error failed =>
      obtain ⟨error, stored⟩ := failed
      rw [storing] at ends
      exact faithful_of_stored (shows_build (shows_run_stopped storing)) storing ends
    | ok stored =>
      have lookup : SymbolTable.address? stored.addresses.reverse
          = program.symbolAddress? builder.layout.dataAddress := by
        rw [(storeSymbols_holds storing).addresses]
        exact program.address?_addressTable builder.layout.dataAddress
      have shows := shows_build (shows_run checked storing)
      rw [storing] at ends
      simp only [Traced.mapError_ok, ok_bind, lookup] at ends shows
      exact faithful_of_encoded shows ends

end Builder

end StaticElf
