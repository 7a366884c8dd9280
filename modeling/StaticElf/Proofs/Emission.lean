/-
**What an emission leaves in a file.**

An emission goes back to the start, cuts the file to nothing and writes headers, code and data, each
at its place. The check of the assembly keeps the three apart, so that no write hides another, and
what was in the file before does not show.

* `Output.WritesTo` — an output whose successful calls do to a file what they do to an open file.
* `view_performSteps` — steps that succeed do to the file what their calls do to an open file.
* `FileOf` — what the file of an assembly holds, place by place; `fileOf_written` proves it of what
  the calls leave, for any order of the segments and any old content.
* `fileOf_view_emit` — an emission that succeeds leaves the file of the assembly.
* `emit_openFile` — on an open file an accepted assembly is always written.
* `FaultyFile` — a file whose calls may fail and then leave anything behind; `fileOf_emit` says what
  a successful emission leaves there after any history.
-/

import StaticElf.Proofs.Admission
import StaticElf.Proofs.Files
import StaticElf.Proofs.Headers
import StaticElf.Theory.Words

namespace StaticElf

namespace OpenFile

/-- What calls leave of an open file, one after the other. -/
def after (opened : OpenFile) (calls : List Elf.Call) : OpenFile :=
  calls.foldl (fun opened call => (opened.perform call).2) opened

@[simp] theorem after_cons (opened : OpenFile) (call : Elf.Call) (calls : List Elf.Call) :
    opened.after (call :: calls) = (opened.perform call).2.after calls := rfl

/-- A seek to a place that a signed number can hold goes there. -/
theorem perform_seek (opened : OpenFile) {place : UInt64} (small : place.toNat < 2 ^ 63) :
    opened.perform (.seek place.toInt64) = (.ok (), { opened with position := place.toNat }) := by
  obtain ⟨notNegative, same⟩ := toNatClampNeg_toInt64 small
  rw [perform, if_neg notNegative, same]

end OpenFile

namespace Elf

/-! ### Outputs that write a file -/

/-- **An output that writes a file.** In its state an open file can be seen, and a call that
succeeds does to it what it does to an open file. What a call that fails leaves behind is not said.
-/
def Output.WritesTo {σ : Type} (output : Output (StateM σ)) (view : σ → OpenFile) : Prop :=
  ∀ call state next, (output.perform call).run state = (.ok (), next) →
    (view state).perform call = (.ok (), view next)

section Steps

variable {σ : Type} {output : Output (StateM σ)} {view : σ → OpenFile}

/-- Performing steps is performing the first and, if it succeeds, the others. -/
theorem run_performSteps_cons (verbose : Bool) (output : Output (StateM σ)) (step : Step)
    (rest : List Step) (state : σ) :
    (performSteps verbose output (step :: rest)).run state =
      match (output.perform step.call).run state with
      | (.error reason, next) =>
        (⟨.error (.call step.purpose reason), step.trace verbose⟩, next)
      | (.ok (), next) =>
        let later := (performSteps verbose output rest).run next
        (⟨later.1.result, step.trace verbose ++ later.1.trace⟩, later.2) := by
  rw [performSteps, StateT.run_bind]
  generalize (output.perform step.call).run state = answer
  obtain ⟨outcome, next⟩ := answer
  cases outcome with
  | error reason => rfl
  | ok done => rfl

/-- **Steps that all succeed** do to the file what their calls do to an open file. -/
theorem view_performSteps (writes : output.WritesTo view) (verbose : Bool) (steps : List Step)
    (state : σ)
    (succeeds : ((performSteps verbose output steps).run state).1.result = .ok ()) :
    view ((performSteps verbose output steps).run state).2
      = (view state).after (steps.map Step.call) := by
  induction steps generalizing state with
  | nil => rfl
  | cons step rest ih =>
    rw [run_performSteps_cons] at succeeds ⊢
    rcases answer : (output.perform step.call).run state with ⟨reason | done, next⟩
    · -- A call that fails ends the steps with its own failure.
      rw [answer] at succeeds
      cases succeeds
    · rw [answer] at succeeds
      have performed := writes step.call state next answer
      rw [List.map_cons, OpenFile.after_cons, performed]
      exact ih next succeeds

/-- **Steps succeed** from a state of a kind on which each call succeeds and stays. -/
theorem result_performSteps (kind : σ → Prop) (verbose : Bool) (steps : List Step)
    (stays : ∀ step ∈ steps, ∀ state, kind state →
      ∃ next, (output.perform step.call).run state = (.ok (), next) ∧ kind next)
    (state : σ) (here : kind state) :
    ((performSteps verbose output steps).run state).1.result = .ok () := by
  induction steps generalizing state with
  | nil => rfl
  | cons step rest ih =>
    obtain ⟨next, answer, there⟩ := stays step List.mem_cons_self state here
    rw [run_performSteps_cons, answer]
    exact ih (fun step member => stays step (List.mem_cons_of_mem _ member)) next there

/-- An emission of an accepted assembly is the performance of its steps. -/
theorem run_emit (verbose : Bool) (output : Output (StateM σ)) {assembly : Assembly}
    (accepted : check assembly = .ok ()) (state : σ) :
    (emit verbose (some output) (some assembly)).run state =
      let steps := (performSteps verbose output (steps assembly (headerBytes assembly))).run state
      (⟨steps.1.result, (headers verbose assembly).trace ++ steps.1.trace⟩, steps.2) := by
  unfold emit
  simp only [result_headers verbose accepted]
  rfl

/-- What is emitted was accepted. -/
theorem check_of_emit {verbose : Bool} {assembly : Assembly} {state : σ}
    (succeeds : ((emit verbose (some output) (some assembly)).run state).1.result = .ok ()) :
    check assembly = .ok () := by
  cases checked : check assembly with
  | ok done => rfl
  | error error =>
    unfold emit at succeeds
    simp only [result_headers_error verbose checked] at succeeds
    cases succeeds

end Steps

/-! ### The seven calls on a file -/

/-- The seven calls of an emission. -/
theorem map_call_steps (assembly : Assembly) (heading : Bytes) :
    (steps assembly heading).map Step.call =
      [.seek 0, .truncate 0, .write heading,
        .seek assembly.codeAt.offset.toInt64, .write assembly.code,
        .seek assembly.dataAt.offset.toInt64, .write assembly.data] := rfl

theorem Admissible.offset_lt {assembly : Assembly} (admissible : Admissible assembly) :
    assembly.codeAt.offset.toNat < 2 ^ 63 ∧ assembly.dataAt.offset.toNat < 2 ^ 63 := by
  have code : assembly.codeAt.offset.toNat + assembly.code.length ≤ _ := admissible.code.endsInFile
  have data : assembly.dataAt.offset.toNat + assembly.data.length ≤ _ := admissible.data.endsInFile
  omega

/-- The file after all calls of an emission. -/
def written (assembly : Assembly) (file : ByteFile) : ByteFile :=
  (((file.truncate 0).write 0 (headerBytes assembly)).write
    assembly.codeAt.offset.toNat assembly.code).write assembly.dataAt.offset.toNat assembly.data

theorem file_after_steps {assembly : Assembly} (admissible : Admissible assembly)
    (opened : OpenFile) :
    (opened.after ((steps assembly (headerBytes assembly)).map Step.call)).file
      = written assembly opened.file := by
  obtain ⟨codeSmall, dataSmall⟩ := admissible.offset_lt
  rw [map_call_steps]
  simp only [OpenFile.after_cons, OpenFile.perform_seek _ codeSmall,
    OpenFile.perform_seek _ dataSmall]
  rfl

/-! ### The content of the file -/

/-- Where the bytes of a segment end in the file, if it has any. -/
def Segment.fileEnd (segment : Segment) : Nat :=
  if segment.payload = [] then 0 else segment.place.offset.toNat + segment.payload.length

/-- A place of the file that belongs to a segment. -/
def Segment.Covers (segment : Segment) (place : Nat) : Prop :=
  segment.place.offset.toNat ≤ place
    ∧ place < segment.place.offset.toNat + segment.payload.length

instance (segment : Segment) (place : Nat) : Decidable (segment.Covers place) :=
  inferInstanceAs (Decidable (_ ∧ _))

/-- The byte of a segment at a place of the file that belongs to it. -/
def Segment.byteAt (segment : Segment) (place : Nat) : UInt8 :=
  segment.payload.getD (place - segment.place.offset.toNat) 0

/-- **What the file of an assembly holds.** It is as long as headers and segments need; the headers
are at its start, each segment at its place, and all else is zero. -/
structure FileOf (assembly : Assembly) (file : ByteFile) : Prop where
  size : file.size
    = max 176 (max (codeSegment assembly).fileEnd (dataSegment assembly).fileEnd)
  header : ∀ place < 176, file.byteAt place = (headerBytes assembly).getD place 0
  code : ∀ place, (codeSegment assembly).Covers place →
    file.byteAt place = (codeSegment assembly).byteAt place
  data : ∀ place, (dataSegment assembly).Covers place →
    file.byteAt place = (dataSegment assembly).byteAt place
  zero : ∀ place, 176 ≤ place → ¬ (codeSegment assembly).Covers place →
    ¬ (dataSegment assembly).Covers place → file.byteAt place = 0

theorem size_written (assembly : Assembly) (file : ByteFile) :
    (written assembly file).size
      = max 176 (max (codeSegment assembly).fileEnd (dataSegment assembly).fileEnd) := by
  have notEmpty : headerBytes assembly ≠ [] := by
    intro empty
    have length := length_headerBytes assembly
    rw [empty] at length
    cases length
  unfold written
  rw [ByteFile.size_write, ByteFile.size_write, ByteFile.size_write, if_neg notEmpty,
    ByteFile.size_truncate, length_headerBytes]
  unfold Segment.fileEnd codeSegment dataSegment
  by_cases code : assembly.code = [] <;> by_cases data : assembly.data = [] <;> simp [code, data]

/-- The last write that covers a place decides what is there. -/
theorem byteAt_written (assembly : Assembly) (file : ByteFile) (place : Nat) :
    (written assembly file).byteAt place =
      if (dataSegment assembly).Covers place then (dataSegment assembly).byteAt place
      else if (codeSegment assembly).Covers place then (codeSegment assembly).byteAt place
      else if place < 176 then (headerBytes assembly).getD place 0
      else 0 := by
  have cut := file.sound_truncate 0
  have headed := cut.write 0 (headerBytes assembly)
  have coded := headed.write assembly.codeAt.offset.toNat assembly.code
  unfold written
  rw [coded.byteAt_write, headed.byteAt_write, cut.byteAt_write,
    ByteFile.byteAt_of_size_le (Nat.zero_le place), length_headerBytes]
  simp only [Nat.zero_le, true_and, Nat.zero_add, Nat.sub_zero]
  rfl

/-- **What an emission writes is the file of the assembly.** -/
theorem fileOf_written {assembly : Assembly} (admissible : Admissible assembly)
    (file : ByteFile) : FileOf assembly (written assembly file) := by
  have codeBehind : 176 ≤ assembly.codeAt.offset.toNat := admissible.code.behindHeaders
  have dataBehind : 176 ≤ assembly.dataAt.offset.toNat := admissible.data.behindHeaders
  -- No place is covered twice: not by both segments, and not by headers and a segment.
  have apart (place : Nat) (code : (codeSegment assembly).Covers place)
      (data : (dataSegment assembly).Covers place) : False := by
    obtain ⟨codeFrom, codeTo⟩ : assembly.codeAt.offset.toNat ≤ place
      ∧ place < assembly.codeAt.offset.toNat + assembly.code.length := code
    obtain ⟨dataFrom, dataTo⟩ : assembly.dataAt.offset.toNat ≤ place
      ∧ place < assembly.dataAt.offset.toNat + assembly.data.length := data
    have files := admissible.filesApart
    unfold RangesApart at files
    omega
  refine ⟨size_written assembly file, ?_, ?_, ?_, ?_⟩
  · intro place inHeaders
    have notData : ¬ (dataSegment assembly).Covers place := fun covered => by
      have : assembly.dataAt.offset.toNat ≤ place := covered.1
      omega
    have notCode : ¬ (codeSegment assembly).Covers place := fun covered => by
      have : assembly.codeAt.offset.toNat ≤ place := covered.1
      omega
    rw [byteAt_written, if_neg notData, if_neg notCode, if_pos inHeaders]
  · intro place covered
    rw [byteAt_written, if_neg (apart place covered), if_pos covered]
  · intro place covered
    rw [byteAt_written, if_pos covered]
  · intro place behind notCode notData
    rw [byteAt_written, if_neg notData, if_neg notCode, if_neg (Nat.not_lt.mpr behind)]

/-- **An emission that succeeds leaves the file of the assembly**, on any output that writes a file.
-/
theorem fileOf_view_emit {σ : Type} {output : Output (StateM σ)} {view : σ → OpenFile}
    (writes : output.WritesTo view) (verbose : Bool) {assembly : Assembly}
    (accepted : check assembly = .ok ()) (sized : assembly.Sized) (state : σ)
    (succeeds : ((emit verbose (some output) (some assembly)).run state).1.result = .ok ()) :
    FileOf assembly (view ((emit verbose (some output) (some assembly)).run state).2).file := by
  have admissible := (check_eq_ok_iff sized).mp accepted
  rw [run_emit verbose output accepted] at succeeds ⊢
  rw [view_performSteps writes verbose _ state succeeds, file_after_steps admissible]
  exact fileOf_written admissible _

/-! ### Open files -/

/-- **Every call of an emission can be made on an open file.** -/
theorem perform_steps {assembly : Assembly} (admissible : Admissible assembly) {step : Step}
    (member : step ∈ steps assembly (headerBytes assembly)) (opened : OpenFile) :
    (opened.perform step.call).1 = .ok () := by
  obtain ⟨codeSmall, dataSmall⟩ := admissible.offset_lt
  have called := List.mem_map_of_mem (f := Step.call) member
  rw [map_call_steps] at called
  simp only [List.mem_cons, List.not_mem_nil, or_false] at called
  rcases called with call | call | call | call | call | call | call
  · rw [call]; rfl
  · rw [call]; rfl
  · rw [call]; rfl
  · rw [call, OpenFile.perform_seek _ codeSmall]
  · rw [call]; rfl
  · rw [call, OpenFile.perform_seek _ dataSmall]
  · rw [call]; rfl

theorem writesTo_openFile : OpenFile.output.WritesTo id :=
  fun _ _ _ performed => performed

/-- **On an open file an accepted assembly is always written.** -/
theorem emit_openFile (verbose : Bool) {assembly : Assembly} (accepted : check assembly = .ok ())
    (sized : assembly.Sized) (before : OpenFile) :
    ((emit verbose (some OpenFile.output) (some assembly)).run before).1.result = .ok ()
      ∧ FileOf assembly
        ((emit verbose (some OpenFile.output) (some assembly)).run before).2.file := by
  have admissible := (check_eq_ok_iff sized).mp accepted
  have succeeds :
      ((emit verbose (some OpenFile.output) (some assembly)).run before).1.result = .ok () := by
    rw [run_emit verbose _ accepted]
    refine result_performSteps (fun _ => True) verbose _ ?_ before trivial
    intro step member opened _
    exact ⟨_, Prod.ext (perform_steps admissible member opened) rfl, trivial⟩
  exact ⟨succeeds, fileOf_view_emit writesTo_openFile verbose accepted sized before succeeds⟩

/-! ### Files whose calls fail -/

/-- How a call fails: the reason it gives, and what it leaves of the open file, which may be
anything, such as a part of what was to be written. -/
structure CallFault where
  reason : String
  left : OpenFile

/-- **A file whose calls may fail**: an open file, and for each call to come whether and how it
fails. The calls after those succeed as on an open file. -/
structure FaultyFile where
  opened : OpenFile
  faults : List (Option CallFault) := []

namespace FaultyFile

def perform (call : Call) (state : FaultyFile) : Except String Unit × FaultyFile :=
  match state.faults with
  | some fault :: faults => (.error fault.reason, { opened := fault.left, faults })
  | none :: faults =>
    let answer := state.opened.perform call
    (answer.1, { opened := answer.2, faults })
  | [] =>
    let answer := state.opened.perform call
    (answer.1, { opened := answer.2 })

def output : Output (StateM FaultyFile) where
  perform call := fun state => state.perform call

theorem writesTo_opened : output.WritesTo FaultyFile.opened := by
  intro call ⟨opened, faults⟩ next performed
  match faults with
  | some fault :: faults => cases congrArg Prod.fst performed
  | none :: faults | [] =>
    have succeeded : (opened.perform call).1 = .ok () := congrArg Prod.fst performed
    have left : ((output.perform call).run _).2 = next := congrArg Prod.snd performed
    subst left
    exact Prod.ext succeeded rfl

/-- A file on which no call to come fails. -/
def Reliable (state : FaultyFile) : Prop := ∀ fault ∈ state.faults, fault = none

theorem Reliable.perform {state : FaultyFile} (reliable : state.Reliable) {call : Call}
    (possible : (state.opened.perform call).1 = .ok ()) :
    ∃ next, (output.perform call).run state = (.ok (), next) ∧ next.Reliable := by
  obtain ⟨opened, faults⟩ := state
  match faults with
  | some fault :: faults => cases reliable _ List.mem_cons_self
  | none :: faults =>
    refine ⟨_, Prod.ext possible rfl, fun fault member => ?_⟩
    exact reliable fault (List.mem_cons_of_mem _ member)
  | [] => exact ⟨_, Prod.ext possible rfl, fun _ member => nomatch member⟩

/-- What emissions leave, one after the other, whether they succeed or not. -/
def emitAll (state : FaultyFile) (emissions : List (Bool × Option Assembly)) : FaultyFile :=
  emissions.foldl
    (fun state (verbose, assembly) => ((emit verbose (some output) assembly).run state).2) state

end FaultyFile

/-- **A successful emission determines the whole file**, whatever the file held and wherever its
position was, after any emissions before, some of which may have failed midway. An emission of an
accepted assembly succeeds if no call fails. -/
theorem fileOf_emit (verbose : Bool) (history : List (Bool × Option Assembly)) (before : FaultyFile)
    {assembly : Assembly} (accepted : check assembly = .ok ()) (sized : assembly.Sized) :
    let state := before.emitAll history
    let emission := (emit verbose (some FaultyFile.output) (some assembly)).run state
    (headers verbose assembly).result = .ok (headerBytes assembly)
      ∧ (emission.1.result = .ok () → FileOf assembly emission.2.opened.file)
      ∧ (state.Reliable → emission.1.result = .ok ()) := by
  intro state emission
  have admissible := (check_eq_ok_iff sized).mp accepted
  refine ⟨result_headers verbose accepted, fun succeeds => ?_, fun reliable => ?_⟩
  · exact fileOf_view_emit FaultyFile.writesTo_opened verbose accepted sized state succeeds
  · show (((emit verbose (some FaultyFile.output) (some assembly)).run state).1).result = .ok ()
    rw [run_emit verbose _ accepted]
    refine result_performSteps FaultyFile.Reliable verbose _ ?_ state reliable
    intro step member state reliable
    exact reliable.perform (perform_steps admissible member state.opened)

/-- An assembly with its data in front of its code in the file, and a gap between. -/
def dataFirst : Assembly where
  code := [0x0f, 0x05]
  data := [0x68, 0x69]
  codeAt := { offset := 0xc0, virtualAddress := 0x4000c0, memorySize := 2 }
  dataAt := { offset := 0xb0, virtualAddress := 0x6000b0, memorySize := 4 }

/-- A long old file on which the fifth call fails and leaves next to nothing of it. -/
def failsMidway : FaultyFile where
  opened := { file := ByteFile.ofBytes (List.replicate 300 0xff), position := 77 }
  faults := [none, none, none, none,
    some ⟨"no space left on device", { file := ByteFile.ofBytes [0x7f, 0x45], position := 2 }⟩]

theorem fileOf_emit_failsMidway :
    check dataFirst = .ok () ∧ dataFirst.Sized
      ∧ ((emit false (some FaultyFile.output) (some dataFirst)).run failsMidway).1.result.toBool
        = false
      ∧ FileOf dataFirst ((emit false (some FaultyFile.output) (some dataFirst)).run
          (failsMidway.emitAll [(false, some dataFirst)])).2.opened.file := by
  have accepted : check dataFirst = .ok () := rfl
  have sized : dataFirst.Sized := by decide
  have spent : (failsMidway.emitAll [(false, some dataFirst)]).faults = [] := by
    simp only [FaultyFile.emitAll, List.foldl_cons, List.foldl_nil, run_emit false _ accepted]
    rfl
  have reliable : (failsMidway.emitAll [(false, some dataFirst)]).Reliable := by
    intro fault member
    rw [spent] at member
    cases member
  have emitted := fileOf_emit false [(false, some dataFirst)] failsMidway accepted sized
  refine ⟨accepted, sized, ?_, emitted.2.1 (emitted.2.2 reliable)⟩
  rw [run_emit false _ accepted]
  rfl

end Elf

end StaticElf
