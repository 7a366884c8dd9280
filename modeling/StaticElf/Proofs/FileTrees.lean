/-
**Files that are written through a path.**

* `FileHost.Lawful` — what a file system has to keep so that a file can be written through its path:
  calls that succeed do what they are for. What a call that fails leaves behind is not said.
* `FileTree.Leads` — a path that leads to the open file.
* `FileTree.leads_create`, `FileTree.writes_perform`, `FileTree.leads_perform` — a file that is created
  is open and at its path, and calls on it do what they are for and leave it there.
* `FaultyTree` — a tree whose calls may fail and then leave anything behind.
* `FaultyTree.lawful` — it is lawful.
-/

import StaticElf.FileTree
import StaticElf.Proofs.Emission
import StaticElf.Proofs.FileSystems

namespace StaticElf

/-! ### Lawful file systems -/

/-- **A lawful file system.** In its state an open file can be seen. A file that is created is the open
one and stands at its path; it stays there while it is written and made executable; and what was
written stays there when it is closed and looked at. -/
structure FileHost.Lawful {σ : Type} (host : FileHost (StateM σ)) where
  /-- The open file. -/
  opened : σ → OpenFile
  /-- A path leads to the open file. -/
  Leads : σ → Bytes → Prop
  create : ∀ path state next, (host.create path).run state = (.ok (), next) → Leads next path
  writes : host.output.WritesTo opened
  perform : ∀ path call state next, (host.output.perform call).run state = (.ok (), next) →
    Leads state path → Leads next path
  makeExecutable : ∀ path state next, host.makeExecutable.run state = (.ok (), next) →
    Leads state path → Leads next path ∧ (opened next).file = (opened state).file
  close : ∀ path state next, host.close.run state = (.ok (), next) → Leads state path →
    ((host.content path).run next).1 = some (opened state).file
  isExecutable : ∀ path state next, (host.isExecutable path).run state = (true, next) →
    ((host.content path).run next).1 = ((host.content path).run state).1

namespace FileTree

open FileSystem

/-! ### The open file of a tree -/

/-- The open file. -/
def openFile (tree : FileTree) : OpenFile :=
  match tree.opened with
  | none => {}
  | some (number, position) =>
    match tree.system.kind? number with
    | some (.file content) => ⟨content, position⟩
    | _ => { position }

/-- **A path leads to the open file.** -/
def Leads (tree : FileTree) (path : Bytes) : Prop :=
  ∃ number position content mode, tree.opened = some (number, position)
    ∧ tree.system.node? number = some ⟨.file content, mode⟩ ∧ tree.find path = .ok number

section Trees

variable {tree after : FileTree} {path : Bytes} {number position mode : Nat} {content : ByteFile}

theorem bind_entryOf_eq_file :
    (tree.system.node? number).bind entryOf = some (.file content mode)
      ↔ tree.system.node? number = some ⟨.file content, mode⟩ := by
  constructor
  · intro found
    obtain ⟨⟨kind, bits⟩, held, isFile⟩ := Option.bind_eq_some_iff.mp found
    cases kind with
    | directory parent names => cases isFile
    | link target => cases isFile
    | file content =>
      cases isFile
      exact held
  · intro held
    rw [held]
    rfl

theorem openFile_of_node? (isOpen : tree.opened = some (number, position))
    (held : tree.system.node? number = some ⟨.file content, mode⟩) :
    tree.openFile = ⟨content, position⟩ := by
  unfold openFile
  rw [isOpen]
  dsimp only
  rw [kind?_of_node? held]

/-- A path to the open file has its content. -/
theorem Leads.content_eq (leads : tree.Leads path) : tree.content path = some tree.openFile.file := by
  obtain ⟨number, position, content, mode, isOpen, held, found⟩ := leads
  have entry : tree.entryAt path = .ok (.file content mode) := by
    simp only [entryAt, found, ok_bind, bind_entryOf_eq_file.mpr held]
    rfl
  rw [FileTree.content, entry, openFile_of_node? isOpen held]

/-- A file is found where it was. -/
theorem find_of_grows (sound : tree.system.Sound) (grows : tree.system.Grows after.system)
    {content' : ByteFile} {mode' : Nat}
    (held : tree.system.node? number = some ⟨.file content, mode⟩)
    (held' : after.system.node? number = some ⟨.file content', mode'⟩)
    (found : tree.find path = .ok number) : after.find path = .ok number := by
  obtain ⟨checked, good, rest⟩ := except_bind_eq_ok.mp found
  show (checkedPath path >>= _) = _
  rw [good]
  exact grows.find sound rest (kind?_of_node? held) (kind?_of_node? held')

/-- The file that was changed. -/
theorem node?_setFile (held : tree.system.node? number = some ⟨.file content, mode⟩)
    (content' : ByteFile) (mode' : Nat) :
    (tree.setFile number content' mode').system.node? number = some ⟨.file content', mode'⟩ := by
  show (tree.system.modify number fun _ => ⟨.file content', mode'⟩).node? number = _
  rw [node?_modify, if_pos rfl, held]
  rfl

/-- A file that is changed stays where it is. -/
theorem leads_setFile (sound : tree.system.Sound) (leads : tree.Leads path)
    (isOpen : tree.opened = some (number, position))
    (held : tree.system.node? number = some ⟨.file content, mode⟩) (content' : ByteFile)
    (mode' position' : Nat) :
    Leads { tree.setFile number content' mode' with opened := some (number, position') } path := by
  obtain ⟨number', _, _, _, isOpen', -, found⟩ := leads
  cases isOpen.symm.trans isOpen'
  have there := node?_setFile held content' mode'
  exact ⟨number, position', content', mode', rfl, there,
    find_of_grows sound (grows_modify_file held content' mode') held there found⟩

/-! ### Calls on a tree -/

/-- What creating a file does, when it succeeds: a new node gets the name, or the file that has it is
emptied. -/
theorem createAt_eq_ok {needed : Nat} (created : tree.createAt needed path = .ok (after, number)) :
    ∃ parent name, checkedPath path = .ok path
      ∧ tree.system.resolve {} start path = .ok (.named parent name false)
      ∧ (tree.system.lookup parent name = .ok none ∧ number = tree.system.nodes.size
          ∧ after = { tree with
            system := (tree.system.create parent name ⟨.file {}, FileMode.executable⟩).1 }
        ∨ tree.system.lookup parent name = .ok (some number)
          ∧ ∃ content mode, tree.system.node? number = some ⟨.file content, mode⟩
            ∧ after = tree.setFile number {} mode) := by
  obtain ⟨target, resolving, rest⟩ := except_bind_eq_ok.mp created
  obtain ⟨checked, good, resolved⟩ := except_bind_eq_ok.mp resolving
  obtain rfl : path = checked := by
    obtain ⟨-, same⟩ := except_guard_eq_ok.mp good
    exact Except.ok.inj same
  cases target with
  | directory reached => cases rest
  | named parent name slashed =>
    cases slashed with
    | true => cases rest
    | false =>
      obtain ⟨named, looked, rest⟩ := except_bind_eq_ok.mp rest
      refine ⟨parent, name, good, resolved, ?_⟩
      cases named with
      | none =>
        cases rest
        exact .inl ⟨looked, rfl, rfl⟩
      | some old =>
        dsimp only at rest
        split at rest
        · next content mode isFile =>
          split at rest
          · cases rest
            exact .inr ⟨looked, content, mode, bind_entryOf_eq_file.mp isFile, rfl⟩
          · cases rest
        · cases rest

/-- **A file that is created is an empty one at its path**, and the tree stays sound. -/
theorem created_at {needed : Nat} (sound : tree.system.Sound)
    (created : tree.createAt needed path = .ok (after, number)) :
    after.system.Sound ∧ (∃ mode, after.system.node? number = some ⟨.file {}, mode⟩)
      ∧ after.find path = .ok number := by
  obtain ⟨parent, name, good, resolved, how⟩ := createAt_eq_ok created
  have isDirectory := sound.isDirectory_of_resolve resolved
  -- In both cases the path leads where it did, and the name there stands for the file
  suffices ∃ mode, after.system.Sound ∧ tree.system.Grows after.system
      ∧ after.system.lookup parent name = .ok (some number)
      ∧ after.system.node? number = some ⟨.file {}, mode⟩ by
    obtain ⟨mode, sound', grows, named, held⟩ := this
    refine ⟨sound', ⟨mode, held⟩, ?_⟩
    show (checkedPath path >>= _) = _
    rw [good]
    exact find_of_resolve (grows.resolve sound resolved) named (kind?_of_node? held)
  rcases how with ⟨free, rfl, rfl⟩ | ⟨named, content, mode, held, rfl⟩
  · obtain ⟨above, names, bits, there⟩ := isDirectory.node?
    have nodes := node?_create there name (FileNode.mk (.file ({} : ByteFile)) FileMode.executable)
    have short : ¬ name.length > maxName := by
      intro long
      rw [lookup, if_pos long] at free
      cases free
    have newNumber : tree.system.nodes.size ≠ parent := by
      rintro rfl
      cases (node?_size tree.system).symm.trans there
    have noLink (path : Bytes) :
        (FileNode.mk (.file ({} : ByteFile)) FileMode.executable).kind ≠ .link path := by
      intro same
      cases same
    refine ⟨FileMode.executable, sound.create isDirectory free noLink ?_,
      grows_create isDirectory free noLink, ?_, ?_⟩
    · intro above names same
      cases same
    · rw [lookup_of_node? ((nodes parent).trans (if_pos rfl)), if_neg short, List.lookup_cons_self]
    · rw [nodes, if_neg newNumber, if_pos rfl]
  · have grows := grows_modify_file held {} mode
    exact ⟨mode, sound.modify_file held {} mode, grows, grows.lookup isDirectory named,
      node?_setFile held {} mode⟩

theorem leads_create (sound : tree.system.Sound) (created : tree.create path = .ok after) :
    after.system.Sound ∧ after.Leads path := by
  obtain ⟨⟨made, number⟩, creating, rest⟩ := except_bind_eq_ok.mp created
  cases rest
  obtain ⟨sound', ⟨mode, held⟩, found⟩ := created_at sound creating
  exact ⟨sound', number, 0, {}, mode, rfl, held, found⟩

/-- What a call on the open file does: nothing where none is open, and else what it does to an open
file. -/
theorem perform_cases (tree : FileTree) (call : Elf.Call) :
    tree.perform call = (.error notOpen, tree)
      ∨ ∃ number position content mode, tree.opened = some (number, position)
        ∧ tree.system.node? number = some ⟨.file content, mode⟩
        ∧ tree.perform call
          = let done := OpenFile.perform ⟨content, position⟩ call
            (done.1, { tree.setFile number done.2.file mode with
              opened := some (number, done.2.position) }) := by
  unfold perform
  split
  · exact .inl rfl
  · next number position isOpen =>
    split
    · next content mode isFile =>
      exact .inr ⟨number, position, content, mode, isOpen, bind_entryOf_eq_file.mp isFile, rfl⟩
    · exact .inl rfl

theorem sound_perform (sound : tree.system.Sound) (call : Elf.Call) :
    (tree.perform call).2.system.Sound := by
  rcases tree.perform_cases call with same | ⟨number, position, content, mode, -, held, done⟩
  · rw [same]
    exact sound
  · rw [done]
    exact sound.modify_file held _ mode

/-- **A call on the open file that succeeds** does to it what it does to an open file. -/
theorem writes_perform {call : Elf.Call} (performed : tree.perform call = (.ok (), after)) :
    tree.openFile.perform call = (.ok (), after.openFile) := by
  rcases tree.perform_cases call with refused | ⟨number, position, content, mode, isOpen, held, done⟩
  · cases performed.symm.trans refused
  · rw [performed] at done
    obtain ⟨answer, rfl⟩ := Prod.ext_iff.mp done
    have there := node?_setFile held (OpenFile.perform ⟨content, position⟩ call).2.file mode
    rw [openFile_of_node? isOpen held]
    refine Prod.ext answer.symm ?_
    show _ = openFile { tree.setFile number _ mode with opened := some (number, _) }
    unfold openFile
    dsimp only
    rw [kind?_of_node? there]

/-- **It leaves the open file at its path.** -/
theorem leads_perform (sound : tree.system.Sound) {call : Elf.Call}
    (performed : tree.perform call = (.ok (), after)) (leads : tree.Leads path) :
    after.Leads path := by
  rcases tree.perform_cases call with refused | ⟨number, position, content, mode, isOpen, held, done⟩
  · cases performed.symm.trans refused
  · rw [performed] at done
    obtain ⟨-, rfl⟩ := Prod.ext_iff.mp done
    exact leads_setFile sound leads isOpen held _ mode _

theorem makeExecutable_cases (tree : FileTree) :
    tree.makeExecutable = (.error notOpen, tree)
      ∨ ∃ number position content mode, tree.opened = some (number, position)
        ∧ tree.system.node? number = some ⟨.file content, mode⟩
        ∧ tree.makeExecutable = (.ok (), tree.setFile number content FileMode.executable) := by
  unfold makeExecutable
  split
  · exact .inl rfl
  · next number position isOpen =>
    split
    · next content mode isFile =>
      exact .inr ⟨number, position, content, mode, isOpen, bind_entryOf_eq_file.mp isFile, rfl⟩
    · exact .inl rfl

theorem sound_makeExecutable (sound : tree.system.Sound) :
    tree.makeExecutable.2.system.Sound := by
  rcases tree.makeExecutable_cases with same | ⟨number, position, content, mode, -, held, done⟩
  · rw [same]
    exact sound
  · rw [done]
    exact sound.modify_file held content _

/-- The open file stays at its path with its content when it is made executable. -/
theorem leads_makeExecutable (sound : tree.system.Sound)
    (done : tree.makeExecutable = (.ok (), after)) (leads : tree.Leads path) :
    after.Leads path ∧ after.openFile.file = tree.openFile.file := by
  rcases tree.makeExecutable_cases with refused | ⟨number, position, content, mode, isOpen, held, how⟩
  · cases done.symm.trans refused
  · cases done.symm.trans how
    have opened : (tree.setFile number content FileMode.executable).opened
        = some (number, position) := isOpen
    refine ⟨?_, ?_⟩
    · have stays := leads_setFile sound leads isOpen held content FileMode.executable position
      rw [← opened] at stays
      exact stays
    · rw [openFile_of_node? isOpen held,
        openFile_of_node? opened (node?_setFile held content FileMode.executable)]

/-- A closed file keeps its content. -/
theorem content_close (done : tree.close = (.ok (), after)) :
    after.content path = tree.content path := by
  unfold close at done
  split at done
  · cases done
  · cases done
    rfl

theorem sound_close (sound : tree.system.Sound) : tree.close.2.system.Sound := by
  unfold close
  split
  · exact sound
  · exact sound

theorem sound_makeDirectory (sound : tree.system.Sound)
    (made : tree.makeDirectory path = .ok after) : after.system.Sound := by
  obtain ⟨target, resolving, rest⟩ := except_bind_eq_ok.mp made
  obtain ⟨checked, good, resolved⟩ := except_bind_eq_ok.mp resolving
  cases target with
  | directory reached => cases rest
  | named parent name slashed =>
    obtain ⟨named, looked, rest⟩ := except_bind_eq_ok.mp rest
    cases named with
    | some old => cases rest
    | none =>
      cases rest
      have isDirectory := sound.isDirectory_of_resolve resolved
      refine sound.create isDirectory looked ?_ ?_
      · intro path same
        cases same
      · intro above names same
        cases same
        exact isDirectory

/-- A change that may be refused keeps a tree sound if it does where it is not. -/
theorem sound_changing {change : FileTree → Except Errno FileTree} (sound : tree.system.Sound)
    (keeps : ∀ after, change tree = .ok after → after.system.Sound) :
    ((changing change).run tree).2.system.Sound := by
  show (changing change tree).2.system.Sound
  unfold changing
  split
  · next after changed => exact keeps after changed
  · exact sound

end Trees

end FileTree

/-! ### Trees whose calls fail -/

/-- How a call on a tree fails: the number and the text it gives, and what it leaves, which may be any
sound tree. -/
structure TreeFault where
  errno : Errno
  reason : String
  left : FileTree
  sound : left.system.Sound

/-- A call on a tree that keeps it sound. -/
structure SoundCall (β : Type) where
  perform : StateM FileTree β
  sound : ∀ tree, tree.system.Sound → (perform.run tree).2.system.Sound

/-- **A tree whose calls may fail**: a sound tree, and for each call to come whether and how it fails.
The calls after those are answered by the tree. -/
structure FaultyTree where
  tree : FileTree
  sound : tree.system.Sound
  faults : List (Option TreeFault) := []

namespace FaultyTree

/-- A call that fails as it is said, or is answered by the tree. -/
def call {β : Type} (refusal : TreeFault → β) (asked : SoundCall β) : StateM FaultyTree β :=
  fun state =>
    match state.faults.head?.join with
    | some fault => (refusal fault, ⟨fault.left, fault.sound, state.faults.tail⟩)
    | none =>
      let done := asked.perform.run state.tree
      (done.1, ⟨done.2, asked.sound state.tree state.sound, state.faults.tail⟩)

/-- The tree as a file system for the command. -/
def host : FileHost (StateM FaultyTree) where
  kindAt path := call (.error ·.errno) ⟨FileTree.host.kindAt path, fun _ sound => sound⟩
  holdsDirectory path :=
    call (fun _ => false) ⟨FileTree.host.holdsDirectory path, fun _ sound => sound⟩
  makeDirectory path := call (.error ·.errno) ⟨FileTree.host.makeDirectory path, fun _ sound =>
    FileTree.sound_changing sound fun _ made => FileTree.sound_makeDirectory sound made⟩
  create path := call (.error ·.errno) ⟨FileTree.host.create path, fun _ sound =>
    FileTree.sound_changing sound fun _ created => (FileTree.leads_create sound created).1⟩
  output := {
    perform made := call (.error ·.reason) ⟨FileTree.host.output.perform made, fun _ sound =>
      FileTree.sound_perform sound made⟩ }
  makeExecutable := call (.error ·.reason) ⟨FileTree.host.makeExecutable, fun _ sound =>
    FileTree.sound_makeExecutable sound⟩
  close := call (.error ·.reason) ⟨FileTree.host.close, fun _ sound => FileTree.sound_close sound⟩
  isExecutable path := call (fun _ => false) ⟨FileTree.host.isExecutable path, fun _ sound => sound⟩
  content path := fun state => (state.tree.content path, state)

/-- An answer that no failing call gives comes from the tree. -/
theorem run_tree_of_call {β : Type} {refusal : TreeFault → β} {asked : SoundCall β} {answer : β}
    {state next : FaultyTree} (done : (call refusal asked).run state = (answer, next))
    (answered : ∀ fault, refusal fault ≠ answer) :
    asked.perform.run state.tree = (answer, next.tree) := by
  change call refusal asked state = (answer, next) at done
  unfold call at done
  split at done
  · next fault _ => exact absurd (congrArg Prod.fst done) (answered fault)
  · cases done
    rfl

theorem create_eq_ok {path : Bytes} {state next : FaultyTree}
    (created : (host.create path).run state = (.ok (), next)) :
    state.tree.create path = .ok next.tree := by
  have answered := run_tree_of_call created nofun
  change FileTree.changing (·.create path) state.tree = _ at answered
  unfold FileTree.changing at answered
  split at answered
  · next after created =>
    cases answered
    exact created
  · cases answered

/-- **Whatever its calls leave where they fail**, such a tree is lawful. -/
def lawful : host.Lawful where
  opened state := state.tree.openFile
  Leads state path := state.tree.Leads path
  create _ state _ created := (FileTree.leads_create state.sound (create_eq_ok created)).2
  writes _ state _ performed :=
    FileTree.writes_perform (run_tree_of_call performed nofun)
  perform _ _ state _ performed :=
    FileTree.leads_perform state.sound (run_tree_of_call performed nofun)
  makeExecutable _ state _ done :=
    FileTree.leads_makeExecutable state.sound (run_tree_of_call done nofun)
  close _ _ _ done leads :=
    (FileTree.content_close (run_tree_of_call done nofun)).trans leads.content_eq
  isExecutable path state next done := by
    have same : state.tree = next.tree :=
      congrArg Prod.snd (run_tree_of_call done (fun _ => Bool.false_ne_true))
    show next.tree.content path = state.tree.content path
    rw [same]

end FaultyTree

end StaticElf
