/-
**What a compilation leaves behind.**

A program is built before anything is touched. What the standard layout is built to can always be
emitted, so the check before the file is created never fails, and whatever fails behind the build is a
failure of the file system.

* `Elf.isCall_of_emit` — an emission of an accepted assembly fails only in a call on its output.
* `check_of_standard_build` — what is built in the standard layout is accepted.
* `run_writeExecutable`, `run_finishExecutable`, `run_compile` — the calls, one after the other.
* `content_of_writeExecutable` — a file that was written holds the assembly.
* `compile_outcome` — a rejected program leaves everything as it was; a compiled one is in its file.
-/

import StaticElf.Compile
import StaticElf.Proofs.FileTrees
import StaticElf.Proofs.Placing

namespace StaticElf

/-! ### Emissions that fail -/

namespace Elf

variable {σ : Type} {output : Output (StateM σ)}

/-- Steps fail in a call. -/
theorem isCall_of_performSteps {verbose : Bool} {steps : List Step} {state : σ} {error : EmitError}
    (fails : ((performSteps verbose output steps).run state).1.result = .error error) :
    ∃ purpose reason, error = .call purpose reason := by
  induction steps generalizing state with
  | nil => cases fails
  | cons step rest ih =>
    rw [run_performSteps_cons] at fails
    rcases answer : (output.perform step.call).run state with ⟨reason | done, next⟩
    · rw [answer] at fails
      cases fails
      exact ⟨_, _, rfl⟩
    · rw [answer] at fails
      exact ih fails

/-- **An emission of an accepted assembly fails only in a call** on its output. -/
theorem isCall_of_emit {verbose : Bool} {assembly : Assembly} (accepted : check assembly = .ok ())
    {state : σ} {error : EmitError}
    (fails : ((emit verbose (some output) (some assembly)).run state).1.result = .error error) :
    ∃ purpose reason, error = .call purpose reason := by
  rw [run_emit verbose output accepted] at fails
  exact isCall_of_performSteps fails

/-- What every call that succeeds keeps, steps that all succeed keep. -/
theorem kept_by_performSteps {kept : σ → Prop}
    (keeps : ∀ call state next, (output.perform call).run state = (.ok (), next) → kept state →
      kept next)
    {verbose : Bool} {steps : List Step} {state : σ} (before : kept state)
    (succeeds : ((performSteps verbose output steps).run state).1.result = .ok ()) :
    kept ((performSteps verbose output steps).run state).2 := by
  induction steps generalizing state with
  | nil => exact before
  | cons step rest ih =>
    rw [run_performSteps_cons] at succeeds ⊢
    rcases answer : (output.perform step.call).run state with ⟨reason | done, next⟩
    · rw [answer] at succeeds
      cases succeeds
    · rw [answer] at succeeds
      exact ih (keeps step.call state next answer before) succeeds

theorem kept_by_emit {kept : σ → Prop}
    (keeps : ∀ call state next, (output.perform call).run state = (.ok (), next) → kept state →
      kept next)
    {verbose : Bool} {assembly : Assembly} (accepted : check assembly = .ok ()) {state : σ}
    (before : kept state)
    (succeeds : ((emit verbose (some output) (some assembly)).run state).1.result = .ok ()) :
    kept ((emit verbose (some output) (some assembly)).run state).2 := by
  rw [run_emit verbose output accepted] at succeeds ⊢
  exact kept_by_performSteps keeps before succeeds

end Elf

/-! ### The standard layout -/

/-- **What is built in the standard layout is accepted**, unless its symbols are huge. -/
theorem check_of_standard_build {verbose : Bool} {program : Program} {assembly : Assembly}
    (builds : (({} : Builder).build verbose (some program)).1.result = .ok assembly)
    (small : (symbolContent program.symbols).length ≤ 2 ^ 62) :
    Elf.check assembly = .ok () ∧ assembly.Sized := by
  have built : Builder.Built .standard program assembly := Builder.built_of_build builds
  have fits : 0x1000 + assembly.code.length ≤ 0x2000 := built.code_fits.1
  rw [← built.data] at small
  have sized : assembly.Sized := ⟨by omega, by omega⟩
  refine ⟨(Elf.check_eq_ok_iff sized).mpr ((built.admissible_iff sized).mpr ?_), sized⟩
  refine ⟨by decide, by decide, by decide, ?_⟩
  show 0x2000 + assembly.data.length ≤ 2 ^ 63 - 1
  omega

/-! ### The calls, one after the other -/

section Runs

variable {σ : Type} (host : FileHost (StateM σ)) (verbose : Bool) (path : Bytes)

theorem run_finishExecutable (state : σ) :
    (finishExecutable host path).run state =
      match host.makeExecutable.run state with
      | (.error reason, next) => (.error (.makeExecutable path reason), (host.close.run next).2)
      | (.ok (), next) =>
        match host.close.run next with
        | (.error reason, last) => (.error (.close path reason), last)
        | (.ok (), last) =>
          match (host.isExecutable path).run last with
          | (true, final) => (.ok (), final)
          | (false, final) => (.error (.notExecutable path), final) := by
  rw [finishExecutable, StateT.run_bind]
  rcases host.makeExecutable.run state with ⟨reason | done, next⟩
  · rfl
  · show (host.close >>= _).run next = _
    rw [StateT.run_bind]
    dsimp only
    rcases host.close.run next with ⟨reason | done, last⟩
    · rfl
    · show (host.isExecutable path >>= _).run last = _
      rw [StateT.run_bind]
      dsimp only
      rcases (host.isExecutable path).run last with ⟨runs, final⟩
      cases runs
      · rfl
      · rfl

theorem run_writeExecutable {assembly : Assembly} (accepted : Elf.check assembly = .ok ())
    (state : σ) :
    (writeExecutable host verbose path (some assembly)).run state =
      match (host.create path).run state with
      | (.error errno, next) => (Traced.fail (.create ⟨path, errno⟩), next)
      | (.ok (), opened) =>
        let emitted := (Elf.emit verbose (some host.output) (some assembly)).run opened
        match emitted.1.result with
        | .error error => (⟨.error (.emit error), emitted.1.trace⟩, (host.close.run emitted.2).2)
        | .ok () =>
          match (finishExecutable host path).run emitted.2 with
          | (.error error, next) => (⟨.error error, emitted.1.trace⟩, next)
          | (.ok (), next) =>
            (⟨.ok (), emitted.1.trace ++ (Traced.note verbose
              (.fileWritten (Utf8.display path) assembly.entry) : Traced WriteError Unit).trace⟩,
              next) := by
  have given : Elf.checkGiven (some assembly) = .ok () := accepted
  unfold writeExecutable
  rw [given]
  show (host.create path >>= _).run state = _
  rw [StateT.run_bind]
  rcases (host.create path).run state with ⟨errno | done, opened⟩
  · rfl
  · show (Elf.emit verbose (some host.output) (some assembly) >>= _).run opened = _
    rw [StateT.run_bind]
    dsimp only
    rcases (Elf.emit verbose (some host.output) (some assembly)).run opened with
      ⟨⟨error | done, trace⟩, written⟩
    · rfl
    · show (finishExecutable host path >>= _).run written = _
      rw [StateT.run_bind]
      dsimp only
      rcases (finishExecutable host path).run written with ⟨error | done, next⟩
      · rfl
      · rfl

theorem run_compile (program : Option Program) (state : σ) :
    (compile host verbose program path).run state =
      let built := (({} : Builder).build verbose program).1
      match built.result with
      | .error error => (⟨.error (.build error), built.trace⟩, state)
      | .ok assembly =>
        match (makeDirectoryOf host path).run state with
        | (.error error, next) => (⟨.error error, built.trace⟩, next)
        | (.ok (), next) =>
          let written := (writeExecutable host verbose path (some assembly)).run next
          (⟨(written.1.result.mapError .write).map fun _ => assembly,
            built.trace ++ written.1.trace⟩, written.2) := by
  unfold compile
  dsimp only
  cases (({} : Builder).build verbose program).1.result with
  | error error => rfl
  | ok assembly =>
    show (makeDirectoryOf host path >>= _).run state = _
    rw [StateT.run_bind]
    rcases (makeDirectoryOf host path).run state with ⟨error | done, next⟩
    · rfl
    · rfl

end Runs

/-! ### Failures behind the build -/

/-- A failure of the file system: it is told as one, and it is not that of the check before a file is
created. -/
def WriteError.IsOfFiles (error : WriteError) : Prop :=
  error.fault.category = some .io ∧ ∀ reason, error ≠ .emit (.assembly reason)

section Failures

variable {σ : Type} {host : FileHost (StateM σ)} {verbose : Bool} {path : Bytes} {state : σ}

theorem isOfFiles_of_finishExecutable {error : WriteError}
    (fails : ((finishExecutable host path).run state).1 = .error error) : error.IsOfFiles := by
  rw [run_finishExecutable] at fails
  split at fails
  · cases fails
    exact ⟨rfl, nofun⟩
  · split at fails
    · cases fails
      exact ⟨rfl, nofun⟩
    · split at fails
      · cases fails
      · cases fails
        exact ⟨rfl, nofun⟩

/-- **An accepted assembly is not written only because of the file system.** -/
theorem isOfFiles_of_writeExecutable {assembly : Assembly} (accepted : Elf.check assembly = .ok ())
    {error : WriteError}
    (fails : ((writeExecutable host verbose path (some assembly)).run state).1.result
      = .error error) : error.IsOfFiles := by
  rw [run_writeExecutable host verbose path accepted] at fails
  split at fails
  · cases fails
    exact ⟨rfl, nofun⟩
  · dsimp only at fails
    split at fails
    · next reason failed =>
      cases fails
      obtain ⟨purpose, text, rfl⟩ := Elf.isCall_of_emit accepted failed
      exact ⟨rfl, nofun⟩
    · split at fails
      · next reason next finishing =>
        cases fails
        exact isOfFiles_of_finishExecutable (congrArg Prod.fst finishing)
      · cases fails

theorem eq_directory_of_makeDirectoryOf {error : CompileError}
    (fails : ((makeDirectoryOf host path).run state).1 = .error error) :
    ∃ directory reason, error = .directory directory reason := by
  unfold makeDirectoryOf at fails
  dsimp only at fails
  split at fails
  · cases fails
  · rw [StateT.run_bind] at fails
    obtain ⟨reason, -, told⟩ := except_mapError_eq_error.mp fails
    exact ⟨_, reason, told.symm⟩

end Failures

/-! ### The content of the file -/

section Content

variable {σ : Type} {host : FileHost (StateM σ)} {verbose : Bool} {path : Bytes} {state : σ}

theorem content_of_finishExecutable (lawful : host.Lawful) (leads : lawful.Leads state path)
    (succeeds : ((finishExecutable host path).run state).1 = .ok ()) :
    ((host.content path).run ((finishExecutable host path).run state).2).1
      = some (lawful.opened state).file := by
  rw [run_finishExecutable] at succeeds ⊢
  split at succeeds
  · cases succeeds
  · next runnable making =>
    split at succeeds
    · cases succeeds
    · next closed closing =>
      split at succeeds
      · next final looking =>
        obtain ⟨stays, same⟩ := lawful.makeExecutable path state runnable making leads
        dsimp only
        rw [lawful.isExecutable path closed final looking,
          lawful.close path runnable closed closing stays, same]
      · cases succeeds

/-- **A file that was written holds the assembly.** -/
theorem content_of_writeExecutable (lawful : host.Lawful) {assembly : Assembly}
    (accepted : Elf.check assembly = .ok ()) (sized : assembly.Sized)
    (succeeds : ((writeExecutable host verbose path (some assembly)).run state).1.result = .ok ()) :
    ∃ file, ((host.content path).run
        ((writeExecutable host verbose path (some assembly)).run state).2).1 = some file
      ∧ Elf.FileOf assembly file := by
  rw [run_writeExecutable host verbose path accepted] at succeeds ⊢
  rcases creating : (host.create path).run state with ⟨errno | done, opened⟩
  · rw [creating] at succeeds
    cases succeeds
  · rw [creating] at succeeds
    dsimp only at succeeds ⊢
    split at succeeds
    · cases succeeds
    · next emitting =>
      split at succeeds
      · cases succeeds
      · next final finishing =>
        have leads := Elf.kept_by_emit (lawful.perform path) accepted
          (lawful.create path state opened creating) emitting
        have content := content_of_finishExecutable lawful leads (congrArg Prod.fst finishing)
        rw [finishing] at content
        exact ⟨_, content, Elf.fileOf_view_emit lawful.writes verbose accepted sized opened emitting⟩

end Content

/-! ### Compilations -/

section Compilations

variable {σ : Type} {host : FileHost (StateM σ)} {verbose : Bool} {program : Option Program}
  {path : Bytes} {state : σ}

/-- **A build that fails ends the compilation**: its failure is told, and everything is as it was. -/
theorem run_compile_of_build {reason : BuildError}
    (fails : (({} : Builder).build verbose program).1.result = .error reason) :
    (compile host verbose program path).run state
      = (⟨.error (.build reason), (({} : Builder).build verbose program).1.trace⟩, state) := by
  rw [run_compile]
  dsimp only
  rw [fails]

/-- **How a compilation fails**: in the build, with everything as it was, or in the file system. -/
theorem compile_eq_error (small : ∀ given ∈ program, (symbolContent given.symbols).length ≤ 2 ^ 62)
    {error : CompileError}
    (fails : ((compile host verbose program path).run state).1.result = .error error) :
    (∃ reason, (({} : Builder).build verbose program).1.result = .error reason
        ∧ error = .build reason ∧ ((compile host verbose program path).run state).2 = state)
      ∨ error.fault.category = some .io
        ∧ ∀ reason, error ≠ .write (.emit (.assembly reason)) := by
  rw [run_compile] at fails ⊢
  dsimp only at fails ⊢
  split at fails
  · next reason builds =>
    cases fails
    exact .inl ⟨reason, builds, rfl, rfl⟩
  · next assembly builds =>
    refine .inr ?_
    split at fails
    · next failed next making =>
      cases fails
      obtain ⟨directory, reason, rfl⟩ := eq_directory_of_makeDirectoryOf (congrArg Prod.fst making)
      exact ⟨rfl, nofun⟩
    · next next making =>
      cases program with
      | none => cases builds
      | some given =>
        obtain ⟨accepted, -⟩ := check_of_standard_build builds (small given rfl)
        cases writing :
            ((writeExecutable host verbose path (some assembly)).run next).1.result with
        | ok done =>
          rw [writing] at fails
          cases fails
        | error reason =>
          rw [writing] at fails
          cases fails
          obtain ⟨category, other⟩ := isOfFiles_of_writeExecutable accepted writing
          exact ⟨category, fun reason same => other reason (CompileError.write.inj same)⟩

/-- **What a compilation leaves that succeeds**: the assembly, in its file. -/
theorem content_of_compile (lawful : host.Lawful)
    (small : ∀ given ∈ program, (symbolContent given.symbols).length ≤ 2 ^ 62) {assembly : Assembly}
    (succeeds : ((compile host verbose program path).run state).1.result = .ok assembly) :
    ∃ file, ((host.content path).run ((compile host verbose program path).run state).2).1
        = some file
      ∧ Elf.FileOf assembly file := by
  rw [run_compile] at succeeds ⊢
  dsimp only at succeeds ⊢
  split at succeeds
  · cases succeeds
  · next built builds =>
    split at succeeds
    · cases succeeds
    · next next making =>
      obtain ⟨_, writing, same⟩ := except_map_eq_ok.mp succeeds
      subst same
      cases program with
      | none => cases builds
      | some given =>
        obtain ⟨accepted, sized⟩ := check_of_standard_build builds (small given rfl)
        exact content_of_writeExecutable lawful accepted sized (except_mapError_eq_ok.mp writing)

end Compilations

/-- **A rejected program leaves everything as it was.** On any file system, whose calls may do and
answer anything, the failure of a build is told as the build tells it, and nothing is touched. A failure
that is not one of the file system is such a failure; so once something is touched, only failures of the
file system are told, and that of the check before the file is created is never told. When a compilation
succeeds on a lawful file system, the file at the path holds what is emitted for the assembly. -/
theorem compile_outcome {σ : Type} (host : FileHost (StateM σ)) (verbose : Bool)
    (program : Option Program) (path : Bytes) (state : σ)
    (small : ∀ given ∈ program, (symbolContent given.symbols).length ≤ 2 ^ 62) :
    let built := (({} : Builder).build verbose program).1
    let outcome := (compile host verbose program path).run state
    (∀ error, outcome.1.result = .error error → error.fault.category ≠ some .io →
        outcome.2 = state ∧ ∃ reason, built.result = .error reason ∧ error = .build reason)
      ∧ (∀ reason, built.result = .error reason →
        outcome = (⟨.error (.build reason), built.trace⟩, state)
          ∧ (CompileError.build reason).fault = reason.fault)
      ∧ (outcome.2 ≠ state → ∀ error, outcome.1.result = .error error →
        error.fault.category = some .io)
      ∧ (∀ reason, outcome.1.result ≠ .error (.write (.emit (.assembly reason))))
      ∧ ∀ (_ : host.Lawful) (assembly : Assembly), outcome.1.result = .ok assembly →
        ∃ file, ((host.content path).run outcome.2).1 = some file ∧ Elf.FileOf assembly file := by
  intro built outcome
  refine ⟨fun error fails other => ?_, fun reason fails => ⟨run_compile_of_build fails, rfl⟩,
    fun touched error fails => ?_, fun reason fails => ?_, ?_⟩
  · rcases compile_eq_error small fails with ⟨reason, rejected, told, same⟩ | ⟨io, _⟩
    · exact ⟨same, reason, rejected, told⟩
    · exact absurd io other
  · rcases compile_eq_error small fails with ⟨_, _, _, same⟩ | ⟨io, _⟩
    · exact absurd same touched
    · exact io
  · rcases compile_eq_error small fails with ⟨_, _, same, _⟩ | ⟨_, other⟩
    · cases same
    · exact other reason rfl
  · exact fun lawful assembly succeeds => content_of_compile lawful small succeeds

/-- An empty tree in which another process makes the directory `b` just before it would be made. -/
def overtaken : FaultyTree where
  tree := {}
  sound := FileSystem.sound_empty
  faults := [none, some {
    errno := .alreadyThere
    reason := "file exists"
    left := {
      system := (FileSystem.empty.makeDirectory FileSystem.start [0x62] FileMode.executable).1 }
    sound := by
      refine FileSystem.sound_empty.create FileSystem.sound_empty.start rfl ?_ ?_
      · intro path same
        cases same
      · intro above names same
        cases same
        exact FileSystem.sound_empty.start }]

/-- A program that refers to a symbol it does not declare. -/
def undeclared : Program where
  slots := [.op (.loadSymbol ⟨9⟩ ⟨0⟩)]

theorem compile_outcome_overtaken :
    (∃ reason, (({} : Builder).build false (some undeclared)).1.result = .error reason
        ∧ (compile FaultyTree.host false (some undeclared) [0x62, 0x2f, 0x6f]).run overtaken
          = (⟨.error (.build reason), []⟩, overtaken))
      ∧ ∃ assembly file, ((compile FaultyTree.host false (some Builder.packed)
            [0x62, 0x2f, 0x6f]).run overtaken).1.result = .ok assembly
        ∧ ((FaultyTree.host.content [0x62, 0x2f, 0x6f]).run ((compile FaultyTree.host false
            (some Builder.packed) [0x62, 0x2f, 0x6f]).run overtaken).2).1 = some file
        ∧ Elf.FileOf assembly file := by
  have small : ∀ given ∈ some undeclared, (symbolContent given.symbols).length ≤ 2 ^ 62 := by
    rintro given ⟨⟩
    decide
  have small' : ∀ given ∈ some Builder.packed, (symbolContent given.symbols).length ≤ 2 ^ 62 := by
    rintro given ⟨⟩
    decide
  have succeeds : ((compile FaultyTree.host false (some Builder.packed)
      [0x62, 0x2f, 0x6f]).run overtaken).1.result.toBool = true := by decide +kernel
  refine ⟨?_, ?_⟩
  · obtain ⟨-, told, -⟩ := compile_outcome FaultyTree.host false (some undeclared)
      [0x62, 0x2f, 0x6f] overtaken small
    exact ⟨_, rfl, (told _ rfl).1⟩
  · cases outcome : ((compile FaultyTree.host false (some Builder.packed)
        [0x62, 0x2f, 0x6f]).run overtaken).1.result with
    | error error =>
      rw [outcome] at succeeds
      cases succeeds
    | ok assembly =>
      obtain ⟨file, content, fileOf⟩ := (compile_outcome FaultyTree.host false (some Builder.packed)
        [0x62, 0x2f, 0x6f] overtaken small').2.2.2.2 FaultyTree.lawful assembly outcome
      exact ⟨assembly, file, rfl, content, fileOf⟩

end StaticElf
