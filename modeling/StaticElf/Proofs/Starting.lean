/-
**Starting a compiled program.**

A file that was compiled is loaded from its own headers: its code becomes one page that can be run, and the
process stands at the start of it. From there it comes to its first system call as the program means.

* `Executable.ofAssembly`, `ofContent?_ofFile` — what the headers of such a file ask for.
* `hasCode_spaceFor` — the address space that is made from them.
* `started_stands` — the process that was started stands at its code, which can be run.
* `runProgram_syscall` — how a run begins.
-/

import StaticElf.Proofs.CodePages
import StaticElf.Proofs.Placing
import StaticElf.Proofs.ReadBack

namespace StaticElf.Linux

open Elf (codeSegment dataSegment)

/-! ### Headers -/

/-- What the headers of the file of an assembly ask for. -/
def Executable.ofAssembly (assembly : Assembly) : Executable where
  entry := assembly.entry
  headersAt := 64
  progHeaders := [(codeSegment assembly).progHeader, (dataSegment assembly).progHeader]

/-- **The headers of the file of an assembly**, as they are read from its pages. -/
theorem ofContent?_ofFile {assembly : Assembly} {file : ByteFile} (fileOf : Elf.FileOf assembly file) :
    Executable.ofContent? (Content.ofFile file) = some (.ofAssembly assembly) := by
  have progHeaders : (List.range 2).mapM
      (fun i => Elf.readProgHeader ((Content.ofFile file).read (64 + 56 * i) 56).toList)
      = some [(codeSegment assembly).progHeader, (dataSegment assembly).progHeader] := by
    show (do
      let code ← Elf.readProgHeader ((Content.ofFile file).read 64 56).toList
      let data ← Elf.readProgHeader ((Content.ofFile file).read 120 56).toList
      pure [code, data]) = _
    rw [Content.toList_read_ofFile, Content.toList_read_ofFile, fileOf.readProgHeader_code,
      fileOf.readProgHeader_data]
    rfl
  have count : (Elf.fileHeader assembly).progHeaderCount.toNat = 2 := rfl
  have offset : (Elf.fileHeader assembly).progHeaderOffset.toNat = 64 := rfl
  unfold Executable.ofContent?
  rw [Content.toList_read_ofFile, fileOf.readFileHeader]
  simp only [Option.bind_eq_bind, Option.bind_some, count, offset, progHeaders]
  rfl

/-! ### Address spaces -/

/-- The mappings of a part that starts with a page and is as long in memory as in the file. -/
theorem partMappings_eq (content : Nat) {header : Elf.ProgHeader}
    (same : header.memorySize = header.fileSize)
    (aligned : header.virtualAddress.toNat % pageBytes = 0) :
    partMappings content header = if header.fileSize = 0 then [] else [{
      start := header.virtualAddress.toNat
      stop := header.virtualAddress.toNat + pageAligned header.fileSize.toNat
      access := accessOf header.flags
      source := .content content header.offset.toNat }] := by
  unfold partMappings
  dsimp only
  rw [same, aligned, Nat.sub_zero, Nat.add_zero, Nat.sub_zero]
  by_cases empty : header.fileSize = 0
  · rw [if_pos empty, if_pos empty, if_pos (by simp [empty])]
    rfl
  · rw [if_neg empty, if_neg empty, if_pos (by simp)]
    rfl

section Spaces

variable {program : Program} {assembly : Assembly}

theorem toNat_codeFileSize (built : Builder.Built .standard program assembly) :
    (codeSegment assembly).fileSize.toNat = assembly.code.length
      ∧ assembly.code.length ≤ pageBytes := by
  have fits : 0x1000 + assembly.code.length ≤ 0x2000 := built.code_fits.1
  have small : assembly.code.length ≤ 4096 := by omega
  refine ⟨?_, small⟩
  show (UInt64.ofNat assembly.code.length).toNat = _
  rw [UInt64.toNat_ofNat']
  exact Nat.mod_eq_of_lt (by omega)

/-- Both parts are as long in memory as in the file. -/
theorem memorySize_eq (built : Builder.Built .standard program assembly) :
    (codeSegment assembly).progHeader.memorySize = (codeSegment assembly).progHeader.fileSize
      ∧ (dataSegment assembly).progHeader.memorySize
        = (dataSegment assembly).progHeader.fileSize := by
  constructor
  · show assembly.codeAt.memorySize = _
    rw [built.codeAt]
    rfl
  · show assembly.dataAt.memorySize = _
    rw [built.dataAt]
    rfl

/-- The code is mapped as one page. -/
theorem partMappings_code (built : Builder.Built .standard program assembly)
    (notEmpty : assembly.code ≠ []) :
    partMappings 0 (codeSegment assembly).progHeader = [codeMapping] := by
  obtain ⟨size, small⟩ := toNat_codeFileSize built
  have positive : 0 < assembly.code.length := List.length_pos_iff.mpr notEmpty
  have start : (codeSegment assembly).progHeader.virtualAddress = 0x401000 := by
    show assembly.codeAt.virtualAddress = _
    rw [built.codeAt]
    rfl
  have offset : (codeSegment assembly).progHeader.offset = 0x1000 := by
    show assembly.codeAt.offset = _
    rw [built.codeAt]
    rfl
  have filled : (codeSegment assembly).progHeader.fileSize ≠ 0 := by
    intro zero
    have : (codeSegment assembly).fileSize.toNat = 0 := congrArg UInt64.toNat zero
    omega
  have pages : pageAligned (codeSegment assembly).progHeader.fileSize.toNat = pageBytes := by
    show pageAligned (codeSegment assembly).fileSize.toNat = _
    rw [size, pageAligned]
    rw [pageBytes_eq] at small ⊢
    omega
  have access : accessOf (codeSegment assembly).progHeader.flags = 5 := by
    show accessOf (Permissions.read.join .execute) = 5
    decide
  rw [partMappings_eq 0 (memorySize_eq built).1 (by rw [start]; rfl), if_neg filled, pages, start,
    offset, access]
  rfl

/-- The data is mapped right behind it, if there is any. -/
theorem partMappings_data (built : Builder.Built .standard program assembly) {mapping : Mapping}
    (member : mapping ∈ partMappings 0 (dataSegment assembly).progHeader) :
    mapping.IsBehindCode ∧ mapping.start = codeMapping.stop := by
  have start : (dataSegment assembly).progHeader.virtualAddress = 0x402000 := by
    show assembly.dataAt.virtualAddress = _
    rw [built.dataAt]
    rfl
  have access : accessOf (dataSegment assembly).progHeader.flags = 1 := by
    show accessOf Permissions.read = 1
    decide
  rw [partMappings_eq 0 (memorySize_eq built).2 (by rw [start]; rfl), start, access] at member
  split at member
  · cases member
  · rw [List.mem_singleton] at member
    subst member
    have noCode : 1 &&& 4 = 0 := by decide
    exact ⟨⟨Nat.le_refl _, noCode, rfl, fun grows => absurd grows Bool.false_ne_true⟩, rfl⟩

/-- Mappings right behind the code are added to it. -/
theorem Space.HasCode.foldl {space : Space} (hasCode : space.HasCode) {mappings : List Mapping}
    (behind : ∀ mapping ∈ mappings, mapping.IsBehindCode ∧ mapping.start = codeMapping.stop) :
    (mappings.foldl (fun space mapping => (space.clear mapping.start mapping.stop).insert mapping)
      space).HasCode := by
  induction mappings generalizing space with
  | nil => exact hasCode
  | cons mapping mappings ih =>
    obtain ⟨⟨isBehind, start⟩, others⟩ := List.forall_mem_cons.mp behind
    refine ih ?_ others
    dsimp only
    rw [start]
    exact (hasCode.clear mapping.stop).insert isBehind

/-- **The address space of a compiled program** has its code. -/
theorem hasCode_spaceFor (built : Builder.Built .standard program assembly)
    (notEmpty : assembly.code ≠ []) (node : Nat) :
    (Kernel.spaceFor (.ofAssembly assembly) 0 node).HasCode := by
  have loads : (Executable.ofAssembly assembly).loads
      = [(codeSegment assembly).progHeader, (dataSegment assembly).progHeader] := rfl
  unfold Kernel.spaceFor
  rw [loads, List.flatMap_cons, List.flatMap_cons, List.flatMap_nil, List.append_nil,
    partMappings_code built notEmpty, List.singleton_append, List.foldl_cons]
  refine Space.HasCode.foldl ⟨⟨[{
    start := stackTop - stackBytes, stop := stackTop, access := 3, growsDown := true }], rfl, ?_⟩, ?_⟩
    fun mapping member => partMappings_data built member
  · intro mapping member
    rw [List.mem_singleton] at member
    subst member
    exact ⟨by decide, by decide, rfl, fun _ => rfl⟩
  · exact Std.HashMap.getElem?_empty

end Spaces

/-! ### The page of the code -/

section Pages

variable {program : Program} {assembly : Assembly} {file : ByteFile}

/-- A list that is not empty has code. -/
theorem encodeAll?_ne_nil {lookup : SymbolLookup} {slots : List StaticElf.Slot} {code : Bytes}
    (encoded : encodeAll? lookup slots = .ok code) (notEmpty : slots ≠ []) : code ≠ [] := by
  obtain ⟨slot, rest, rfl⟩ := List.exists_cons_of_ne_nil notEmpty
  obtain ⟨own, later, here, -, rfl⟩ := encodeAll?_cons_eq_ok encoded
  obtain ⟨actions, found, rfl⟩ := Slot.encode?_eq_ok_iff.mp here
  obtain ⟨index, width, value, whole, rfl⟩ := Slot.actions?_eq_some found
  have plain : (Machine.Action.load (.low index width) value).Plain := whole
  have positive := Machine.length_code_pos plain
  rw [Machine.codeOf_cons]
  refine List.ne_nil_of_length_pos ?_
  rw [List.length_append, List.length_append]
  omega

/-- No code begins with a zero. -/
theorem head_ne_zero {lookup : SymbolLookup} {slots : List StaticElf.Slot} {first : UInt8}
    {rest : Bytes} (encoded : encodeAll? lookup slots = .ok (first :: rest)) : first ≠ 0 := by
  rintro rfl
  obtain ⟨actions, found, code⟩ := encodeAll?_eq_ok encoded
  cases actions with
  | nil => cases code
  | cons action actions =>
    have plain := plain_of_actionsOf? found action List.mem_cons_self
    have decodes := Machine.decode_code plain (Machine.codeOf actions)
    rw [← Machine.codeOf_cons, ← code] at decodes
    cases decodes

/-- The code stands in the file behind its first page. -/
theorem codeEnd_le_size (built : Builder.Built .standard program assembly)
    (notEmpty : assembly.code ≠ []) (fileOf : Elf.FileOf assembly file) :
    pageBytes + assembly.code.length ≤ file.size := by
  have fileEnd : (codeSegment assembly).fileEnd
      = assembly.codeAt.offset.toNat + assembly.code.length := if_neg notEmpty
  have offset : assembly.codeAt.offset.toNat = pageBytes := by
    rw [built.codeAt]
    rfl
  rw [fileOf.size, fileEnd, offset]
  omega

/-- **The second page of the file of a compiled program** begins with its code. -/
theorem exists_codePage (built : Builder.Built .standard program assembly)
    (notEmpty : assembly.code ≠ []) (fileOf : Elf.FileOf assembly file) :
    ∃ page, (Content.ofFile file).pages[1]? = some page ∧ page.size = pageBytes
      ∧ assembly.code <+: page.data.toList := by
  obtain ⟨-, small⟩ := toNat_codeFileSize built
  have offset : assembly.codeAt.offset.toNat = pageBytes := by
    rw [built.codeAt]
    rfl
  have ends := codeEnd_le_size built notEmpty fileOf
  have whole := Content.whole_ofFile file
  have held : (List.range assembly.code.length).map
      (fun i => (Content.ofFile file).byteAt (pageBytes + i)) = assembly.code := by
    have read := Content.toList_read_ofFile file pageBytes assembly.code.length
    rw [whole.toList_read, Content.size_ofFile, Nat.min_eq_left (by omega), ← offset,
      fileOf.read_code, offset] at read
    exact read
  have begins : ((Content.ofFile file).page 1).data.toList.take assembly.code.length
      = assembly.code := by
    have part := whole.toList_extract 1 (show 0 + assembly.code.length ≤ pageBytes by omega)
    rwa [Nat.one_mul, Nat.add_zero, held, ByteArray.data_extract, Array.toList_extract, List.extract,
      List.drop_zero, Nat.zero_add, Nat.sub_zero] at part
  rw [Content.page] at begins
  have size := whole 1
  rw [Content.page] at size
  cases there : (Content.ofFile file).pages[1]? with
  | some page =>
    rw [there] at begins size
    exact ⟨page, rfl, size, begins ▸ List.take_prefix ..⟩
  | none =>
    -- A page that is missing holds zeros, and no code begins with one
    obtain ⟨first, rest, code⟩ := List.exists_cons_of_ne_nil notEmpty
    have member : first ∈ Page.zeros.data.toList := by
      rw [there, code] at begins
      exact List.mem_of_mem_take (begins ▸ List.mem_cons_self)
    rw [Page.zeros, Array.toList_replicate] at member
    exact absurd (List.eq_of_mem_replicate member) (head_ne_zero (code ▸ built.code))

end Pages

/-! ### The world at the start -/

section Loading

variable {program : Program} {assembly : Assembly} {file : ByteFile}

/-- The world in which the memory of a compiled program is mapped, and holds nothing but its file. -/
def World.mapped (path : Bytes) (content : Content) (executable : Executable) : World :=
  let (world, node) := World.initial path content
  let fresh := world.space.heir (Kernel.spaceFor executable 0 node)
  let auxiliary := (initialStack executable path [path] environment).2.1
  { world with
    spaces := world.spaces.push { fresh with auxiliary }
    threads := world.threads.modify 0 ({ · with space := world.spaces.size }) }

/-- The world at the start of a compiled program is the one in which its memory is mapped, with the stack
filled and the processor at the entry. -/
theorem started_eq (path : Bytes) (content : Content) (executable : Executable) :
    World.started path content executable
      = ((do
          executable.loads.forM Kernel.clearBehind
          let _ ← Kernel.copyOut (initialStack executable path [path] environment).1
            (initialStack executable path [path] environment).2.2
          Kernel.modifyCpu fun _ => ({ next := executable.entry : Cpu }).set X86.sp
            (UInt64.ofNat (initialStack executable path [path] environment).1) : Kernel Unit).run
          (World.mapped path content executable)).2 := by
  rfl

theorem textsLength_append (first second : List Bytes) :
    textsLength (first ++ second) = textsLength first + textsLength second := by
  induction first with
  | nil => exact (Nat.zero_add _).symm
  | cons text rest ih =>
    show text.length + 1 + textsLength (rest ++ second) = text.length + 1 + textsLength rest + _
    rw [ih, Nat.add_assoc (text.length + 1)]

theorem textsLength_environment : textsLength environment ≤ 0x100 := by decide +kernel

/-- The stack of a program with a path that is not too long starts far behind the code. -/
theorem codeMapping_le_top (executable : Executable) {path : Bytes}
    (short : path.length ≤ FileSystem.maxPath) :
    codeMapping.stop ≤ (initialStack executable path [path] environment).1 := by
  have length : textsLength ([path] ++ environment ++ [path])
      = textsLength environment + 2 * (path.length + 1) := by
    rw [textsLength_append, textsLength_append]
    show path.length + 1 + 0 + textsLength environment + (path.length + 1 + 0) = _
    omega
  have small := textsLength_environment
  have count : environment.length = 3 := rfl
  rw [FileSystem.maxPath] at short
  unfold initialStack
  dsimp only
  rw [length, stackTop, codeMapping_stop]
  simp only [List.length_cons, List.length_append, List.length_take, List.length_drop,
    List.flatten_cons, List.length_nil, List.flatten_nil, count]
  omega

theorem run_clearBehind {header : Elf.ProgHeader} (same : header.memorySize = header.fileSize)
    (world : World) : (Kernel.clearBehind header).run world = (.ok (), world) := by
  unfold Kernel.clearBehind
  rw [if_neg]
  · rfl
  · rw [same]
    simp

/-- Nothing is to be cleared behind the parts of a compiled program. -/
theorem run_clearBehind_loads (built : Builder.Built .standard program assembly) (world : World) :
    ((Executable.ofAssembly assembly).loads.forM Kernel.clearBehind).run world = (.ok (), world) := by
  obtain ⟨code, data⟩ := memorySize_eq built
  show (do
    Kernel.clearBehind (codeSegment assembly).progHeader
    Kernel.clearBehind (dataSegment assembly).progHeader
    pure () : Kernel Unit).run world = _
  rw [Kernel.run_bind_of_ok (run_clearBehind code world), Kernel.run_bind_of_ok (run_clearBehind data world)]
  rfl

/-- **The process of a compiled program sees its code**: nothing that is done before it runs changes the
page of the code. -/
theorem exists_started (built : Builder.Built .standard program assembly)
    (notEmpty : assembly.code ≠ []) (fileOf : Elf.FileOf assembly file) {path : Bytes}
    (short : path.length ≤ FileSystem.maxPath) :
    ∃ page loaded, page.size = pageBytes ∧ assembly.code <+: page.data.toList
      ∧ World.IsLoaded (World.mapped path (Content.ofFile file) (.ofAssembly assembly)) page loaded
      ∧ World.started path (Content.ofFile file) (.ofAssembly assembly)
        = { loaded with cpu := ({ next := assembly.entry : Cpu }).set X86.sp (UInt64.ofNat
            (initialStack (.ofAssembly assembly) path [path] environment).1) } := by
  obtain ⟨page, there, whole, begins⟩ := exists_codePage built notEmpty fileOf
  generalize mapped : World.mapped path (Content.ofFile file) (.ofAssembly assembly) = base
  have shows : base.ShowsPage page := by
    have hasCode := hasCode_spaceFor built notEmpty (World.initial path (Content.ofFile file)).2
    have ends := codeEnd_le_size built notEmpty fileOf
    have positive : 0 < assembly.code.length := List.length_pos_iff.mpr notEmpty
    subst mapped
    refine ⟨⟨hasCode.mappings, hasCode.unwritten⟩, there, ?_, rfl⟩
    show pageBytes < (Content.ofFile file).size
    rw [Content.size_ofFile]
    omega
  have keeps : Kernel.Keeps (World.IsLoaded base page) (fun _ => False) (fun _ => True)
      (Kernel.copyOut (initialStack (.ofAssembly assembly) path [path] environment).1
        (initialStack (.ofAssembly assembly) path [path] environment).2.2) :=
    Kernel.keeps_copyOut (codeMapping_le_top _ short) _
  obtain ⟨isLoaded, finishes⟩ := keeps base ⟨shows, rfl, rfl, rfl, rfl⟩
  rw [started_eq, mapped, Kernel.run_bind_of_ok (run_clearBehind_loads built base)]
  rcases filled : (Kernel.copyOut (initialStack (.ofAssembly assembly) path [path] environment).1
    (initialStack (.ofAssembly assembly) path [path] environment).2.2).run base
    with ⟨stop | count, loaded⟩
  · rw [filled] at finishes
    exact finishes.elim
  · rw [filled] at isLoaded
    rw [Kernel.run_bind_of_ok filled]
    exact ⟨page, loaded, whole, begins, isLoaded, rfl⟩

end Loading

/-! ### The first slice -/

namespace World

/-- What follows a slice of a thread: time passes, and the next one is run. -/
def afterSlice (slices index : Nat) (slice : World × Nat) : World :=
  run slices (if slice.2 = 0 then index else slice.1.threads.size)
    (slice.1.passInstructions (sliceLength - slice.2))

/-- A thread that is alone and that no signal waits for is run. -/
theorem run_alone {world : World} {thread : Thread} (threads : world.threads = #[thread])
    (current : world.current = 0) (running : thread.activity = .running)
    (quiet : world.settle = world) (few : world.steps < mostSteps) (slices : Nat) :
    world.run (slices + 1) 0 = afterSlice slices 0 (world.runSlice sliceLength) := by
  have runs : (world.threads.getD 0 {}).activity = .running := by
    rw [threads]
    exact running
  have picks : world.pickNext 0 = some 0 := by
    show world.pickRunning world.threads.size = some 0
    rw [threads]
    exact if_pos runs
  have stays : world.switchTo 0 = world := if_pos current
  have going : world.running.activity = .running := by
    rw [World.running, current]
    exact runs
  rw [run, if_neg (Nat.not_le.mpr few), picks]
  dsimp only
  rw [stays, quiet, if_pos going]
  rfl

end World

/-! ### The first system call -/

section FirstCall

variable {program : Program} {assembly : Assembly} {file : ByteFile}

/-- **The process of a compiled program stands at the start of its code**, which can be run, and no step
of it is traced. It is the one that is run first. -/
theorem started_stands (built : Builder.Built .standard program assembly)
    (notEmpty : assembly.code ≠ []) (fileOf : Elf.FileOf assembly file) {path : Bytes}
    (short : path.length ≤ FileSystem.maxPath) {started : World}
    (starts : World.started path (Content.ofFile file) (.ofAssembly assembly) = started) :
    started.HoldsCode assembly.entry assembly.code ∧ started.Untraced
      ∧ started.cpu.next = assembly.entry
      ∧ ∀ slices, started.run (slices + 1) 0
        = World.afterSlice slices 0 (started.runSlice World.sliceLength) := by
  obtain ⟨page, loaded, whole, begins, isLoaded, same⟩ := exists_started built notEmpty fileOf short
  rw [same] at starts
  subst starts
  have entry : assembly.entry = UInt64.ofNat codeMapping.start := by
    rw [Assembly.entry, built.codeAt]
    rfl
  refine ⟨?_, ?_, rfl, World.run_alone isLoaded.threads isLoaded.current rfl ?_ ?_⟩
  · rw [entry]
    exact (isLoaded.withCpu _).holdsCode whole begins
  · show (0x202 : UInt64) &&& X86.Flag.trace = 0
    decide
  · unfold World.settle World.running
    dsimp only
    rw [isLoaded.threads, isLoaded.current, isLoaded.processes]
    rfl
  · show loaded.steps < World.mostSteps
    rw [isLoaded.steps]
    show 0 < World.mostSteps
    decide

/-- **A run of a compiled program begins as the program means**: up to the first system call it does to
the registers what the instructions before it mean, and nothing else. The call is made with the registers
with which the interpretation enters the kernel, and behind it stands the code of what follows. -/
theorem runProgram_syscall {verbose : Bool}
    (builds : (({} : Builder).build verbose (some program)).1.result = .ok assembly)
    (fileOf : Elf.FileOf assembly file) {path : Bytes} (short : path.length ≤ FileSystem.maxPath)
    {before after : List StaticElf.Slot} {number : SyscallNumber}
    (slots : program.slots = before ++ .op (.syscall number) :: after)
    (noCall : ∀ slot ∈ before, slot.isSyscall = false) {started : World}
    (starts : World.started path (Content.ofFile file) (.ofAssembly assembly) = started) :
    ∃ entering done later, assembly.code = done ++ later
      ∧ encodeAll? (program.symbolAddress? Layout.standard.dataAddress) after = .ok later
      ∧ (∀ kernel entries, interpretAll? (program.symbolAddress? Layout.standard.dataAddress) kernel
          ⟨started.cpu.registers, entries⟩ (before ++ [.op (.syscall number)])
          = some ⟨kernel entering, entries ++ [entering]⟩)
      ∧ ∃ steps ≤ done.length, runProgram path file = some (World.afterSlice (World.mostSlices - 1) 0
          (((started.standing entering (assembly.entry + UInt64.ofNat done.length)).call false).goesOn
            (World.sliceLength - steps))).report := by
  have built : Builder.Built .standard program assembly := Builder.built_of_build builds
  have encoded := built.code
  rw [slots] at encoded
  have notEmpty : assembly.code ≠ [] :=
    encodeAll?_ne_nil encoded (List.append_ne_nil_of_right_ne_nil _ (List.cons_ne_nil _ _))
  obtain ⟨holds, untraced, next, begins⟩ := started_stands built notEmpty fileOf short starts
  obtain ⟨entering, done, later, split, behind, meaning, steps, few, runs⟩ :=
    runSlice_syscall encoded noCall untraced holds started.cpu.registers
  refine ⟨entering, done, later, split, behind, meaning, steps, few, ?_⟩
  have enough : World.sliceLength - steps + steps = World.sliceLength := by
    obtain ⟨-, small⟩ := toNat_codeFileSize built
    rw [split, List.length_append, pageBytes_eq] at small
    rw [World.sliceLength]
    omega
  have here : started.standing started.cpu.registers assembly.entry = started := by
    rw [← next]
    rfl
  unfold runProgram
  dsimp only
  rw [ofContent?_ofFile fileOf]
  show some ((World.started _ _ _).run (World.mostSlices - 1 + 1) 0).report = _
  rw [starts, begins, ← runs, enough, here]

end FirstCall

end StaticElf.Linux
