/-
**Paths in a file system that grows.**

Directories are made and files are created and written while a path is in use. None of this changes
where a path leads that led somewhere before.

* `Follows` — how names are followed, one rule for each thing that can happen; `follow_eq_ok_iff` says
  that this is what `follow` does, by a lemma for each step (`follow_here`, `follow_into`, …).
* `Sound` — the root and the working directory are directories, and so is what lies above one.
* `Sound.isDirectory_of_follows` — what a path leads to is named in a directory.
* `Grows`, `Grows.follows` — what may change so that every path leads where it did.
* `grows_create`, `grows_modify_file` — a new name and a new content are such changes.
-/

import StaticElf.FileSystem
import StaticElf.Proofs.Outcome

namespace StaticElf.FileSystem

variable {α : Type}

/-! ### Following names -/

/-- A number that a directory has. -/
def IsDirectory (system : FileSystem α) (number : Nat) : Prop :=
  ∃ parent names, system.kind? number = some (.directory parent names)

/-- A number that a link has. -/
def IsLink (system : FileSystem α) (number : Nat) : Prop :=
  ∃ path, system.kind? number = some (.link path)

/-- A name that is neither the directory itself nor the one above. -/
structure IsProper (name : Bytes) : Prop where
  notHere : name ≠ Path.here
  notAbove : name ≠ Path.above

/-- **How names are followed** from a directory to a target, everywhere and through links: so many
links at most, and with a slash behind the names or not. -/
inductive Follows (system : FileSystem α) :
    Nat → Bool → Nat → List Bytes → Target → Prop
  | arrived (links : Nat) (slashed : Bool) (current : Nat) :
      Follows system links slashed current [] (.directory current)
  | here {links : Nat} {slashed : Bool} {current : Nat} {rest : List Bytes} {target : Target}
      (permitted : system.permits current FileMode.ownerRun = true)
      (later : Follows system links slashed current rest target) :
      Follows system links slashed current (Path.here :: rest) target
  | above {links : Nat} {slashed : Bool} {current : Nat} {rest : List Bytes} {target : Target}
      (permitted : system.permits current FileMode.ownerRun = true)
      (later : Follows system links slashed (system.parentOf current) rest target) :
      Follows system links slashed current (Path.above :: rest) target
  | last (links : Nat) (slashed : Bool) {current : Nat} {name : Bytes} (proper : IsProper name)
      (permitted : system.permits current FileMode.ownerRun = true)
      (notLink : ∀ number, system.lookup current name = .ok (some number) → ¬ system.IsLink number) :
      Follows system links slashed current [name] (.named current name slashed)
  | into {links : Nat} {slashed : Bool} {current number : Nat} {name : Bytes} {rest : List Bytes}
      {target : Target} (proper : IsProper name)
      (permitted : system.permits current FileMode.ownerRun = true)
      (found : system.lookup current name = .ok (some number))
      (isDirectory : system.IsDirectory number) (more : rest ≠ [])
      (later : Follows system links slashed number rest target) :
      Follows system links slashed current (name :: rest) target
  | through {links : Nat} {slashed : Bool} {current number : Nat} {name path : Bytes}
      {rest : List Bytes} {target : Target} (proper : IsProper name)
      (permitted : system.permits current FileMode.ownerRun = true)
      (found : system.lookup current name = .ok (some number))
      (isLink : system.kind? number = some (.link path))
      (later : Follows system links (slashed || (rest.isEmpty && endsWithSlash path))
        (if Path.isRooted path then root else current) (Path.names path ++ rest) target) :
      Follows system (links + 1) slashed current (name :: rest) target

/-- No name that is too long stands for anything. -/
theorem lookup_ne_some_of_long (system : FileSystem α) (directory number : Nat) {name : Bytes}
    (long : name.length > maxName) : system.lookup directory name ≠ .ok (some number) := by
  rw [lookup, if_pos long]
  nofun

/-- How names are followed behind a link, if so many links may still be followed. -/
def behindLink? (system : FileSystem α) (base : Nat) :
    (links : Nat) → Option (Bool → Nat → List Bytes → Except Errno Target)
  | 0 => none
  | links + 1 => some (system.follow {} base links)

theorem follow_eq (system : FileSystem α) (base links : Nat) :
    system.follow {} base links = system.followNames {} base (system.behindLink? base links) := by
  cases links with
  | zero => rfl
  | succ links => rfl

/-! One step, for each thing that can happen to the first of the names. -/

section Steps

variable {system : FileSystem α} {links current number : Nat} {slashed : Bool} {name path : Bytes}
  {rest : List Bytes} (base : Nat)

theorem follow_forbidden (forbidden : ¬ system.permits current FileMode.ownerRun = true) :
    system.follow {} base links slashed current (name :: rest) = .error .permissionDenied := by
  rw [follow_eq, followNames, if_pos (by simpa using forbidden)]

theorem follow_here (permitted : system.permits current FileMode.ownerRun = true) :
    system.follow {} base links slashed current (Path.here :: rest)
      = system.follow {} base links slashed current rest := by
  rw [follow_eq, followNames, if_neg (by simp [permitted]), if_pos rfl]

theorem follow_above (permitted : system.permits current FileMode.ownerRun = true) :
    system.follow {} base links slashed current (Path.above :: rest)
      = system.follow {} base links slashed (system.parentOf current) rest := by
  rw [follow_eq, followNames, if_neg (by simp [permitted]), if_neg (by decide), if_pos rfl]
  rfl

/-- The last name is where names lead, whether it stands for something or not, unless that is a link. -/
theorem follow_last (proper : IsProper name)
    (permitted : system.permits current FileMode.ownerRun = true)
    (notLink : ∀ number, system.lookup current name = .ok (some number) → ¬ system.IsLink number) :
    system.follow {} base links slashed current [name] = .ok (.named current name slashed) := by
  rw [follow_eq, followNames, if_neg (by simp [permitted]), if_neg proper.notHere, if_neg proper.notAbove]
  by_cases long : name.length > maxName
  · rw [if_pos (by simp [long])]
  · rw [if_neg (by simp [long])]
    cases named : (system.namesIn current).lookup name with
    | none => simp [lookup, long, named]
    | some number =>
      have found : system.lookup current name = .ok (some number) := by
        rw [lookup, if_neg long, named]
      rw [found]
      dsimp only
      split
      · next path isLink => exact absurd ⟨path, isLink⟩ (notLink number found)
      · rfl
      · rfl

/-- A directory is entered. -/
theorem follow_into (proper : IsProper name)
    (permitted : system.permits current FileMode.ownerRun = true)
    (found : system.lookup current name = .ok (some number))
    (isDirectory : system.IsDirectory number) (more : rest ≠ []) :
    system.follow {} base links slashed current (name :: rest)
      = system.follow {} base links slashed number rest := by
  obtain ⟨parent, names, kind⟩ := isDirectory
  rw [follow_eq, followNames, if_neg (by simp [permitted]), if_neg proper.notHere, if_neg proper.notAbove,
    if_neg (by simp [more]), found]
  simp [kind, more]

/-- A link is followed. -/
theorem follow_through (proper : IsProper name)
    (permitted : system.permits current FileMode.ownerRun = true)
    (found : system.lookup current name = .ok (some number))
    (isLink : system.kind? number = some (.link path)) :
    system.follow {} base (links + 1) slashed current (name :: rest)
      = system.follow {} base links (slashed || (rest.isEmpty && endsWithSlash path))
        (if Path.isRooted path then root else current) (Path.names path ++ rest) := by
  have short : ¬ name.length > maxName := fun long =>
    lookup_ne_some_of_long system current number long found
  rw [follow_eq, followNames, if_neg (by simp [permitted]), if_neg proper.notHere, if_neg proper.notAbove,
    if_neg (by simp [short]), found]
  by_cases rooted : Path.isRooted path
  · simp [isLink, rooted, rootFor, behindLink?]
  · simp [isLink, rooted, behindLink?]

/-- One link too many ends the walk. -/
theorem follow_tooManyLinks (proper : IsProper name)
    (permitted : system.permits current FileMode.ownerRun = true)
    (found : system.lookup current name = .ok (some number))
    (isLink : system.kind? number = some (.link path)) :
    system.follow {} base 0 slashed current (name :: rest) = .error .tooManyLinks := by
  have short : ¬ name.length > maxName := fun long =>
    lookup_ne_some_of_long system current number long found
  rw [follow_eq, followNames, if_neg (by simp [permitted]), if_neg proper.notHere, if_neg proper.notAbove,
    if_neg (by simp [short]), found]
  simp [isLink, behindLink?]

/-- Names lead nowhere behind what is neither a directory nor a link. -/
theorem follow_lost (proper : IsProper name)
    (permitted : system.permits current FileMode.ownerRun = true) (more : rest ≠ [])
    (lost : ∀ number, system.lookup current name = .ok (some number) →
      ¬ system.IsDirectory number ∧ ¬ system.IsLink number) (target : Target) :
    system.follow {} base links slashed current (name :: rest) ≠ .ok target := by
  rw [follow_eq, followNames, if_neg (by simp [permitted]), if_neg proper.notHere, if_neg proper.notAbove,
    if_neg (by simp [more])]
  split
  · simp
  · simp [more]
  · next number found =>
    obtain ⟨notDirectory, notLink⟩ := lost number found
    split
    · next path isLink => exact absurd ⟨path, isLink⟩ notLink
    · next parent names isDirectory => exact absurd ⟨parent, names, isDirectory⟩ notDirectory
    · simp [more]

end Steps

/-- What `follow` finds is found by the rules. -/
theorem follows_of_follow {system : FileSystem α} {base links current : Nat} {slashed : Bool}
    {names : List Bytes} {target : Target}
    (found : system.follow {} base links slashed current names = .ok target) :
    Follows system links slashed current names target := by
  -- A link takes one from the number of links, every other step one from the number of names
  induction links using Nat.strongRecOn generalizing slashed current names with
  | ind links later =>
    induction names generalizing current with
    | nil =>
      rw [follow_eq, followNames] at found
      cases found
      exact .arrived links slashed current
    | cons name rest ih =>
      by_cases permitted : system.permits current FileMode.ownerRun = true
      case neg =>
        rw [follow_forbidden base permitted] at found
        cases found
      by_cases isHere : name = Path.here
      · rw [isHere, follow_here base permitted] at found
        exact isHere ▸ .here permitted (ih found)
      by_cases isAbove : name = Path.above
      · rw [isAbove, follow_above base permitted] at found
        exact isAbove ▸ .above permitted (ih found)
      have proper : IsProper name := ⟨isHere, isAbove⟩
      by_cases linked : ∃ number, system.lookup current name = .ok (some number)
          ∧ system.IsLink number
      · obtain ⟨number, named, path, isLink⟩ := linked
        cases links with
        | zero =>
          rw [follow_tooManyLinks base proper permitted named isLink] at found
          cases found
        | succ links =>
          rw [follow_through base proper permitted named isLink] at found
          exact .through proper permitted named isLink (later links (Nat.lt_succ_self links) found)
      by_cases more : rest = []
      · have notLink number (named : system.lookup current name = .ok (some number)) :
            ¬ system.IsLink number := fun isLink => linked ⟨number, named, isLink⟩
        rw [more, follow_last base proper permitted notLink] at found
        cases found
        exact more ▸ .last links slashed proper permitted notLink
      by_cases entered : ∃ number, system.lookup current name = .ok (some number)
          ∧ system.IsDirectory number
      · obtain ⟨number, named, isDirectory⟩ := entered
        rw [follow_into base proper permitted named isDirectory more] at found
        exact .into proper permitted named isDirectory more (ih found)
      · refine absurd found (follow_lost base proper permitted more (fun number named => ?_) target)
        exact ⟨fun isDirectory => entered ⟨number, named, isDirectory⟩,
          fun isLink => linked ⟨number, named, isLink⟩⟩

/-- What is found by the rules is what `follow` finds. -/
theorem follow_of_follows {system : FileSystem α} {links current : Nat} {slashed : Bool}
    {names : List Bytes} {target : Target}
    (follows : Follows system links slashed current names target) (base : Nat) :
    system.follow {} base links slashed current names = .ok target := by
  induction follows with
  | arrived links slashed current => rw [follow_eq, followNames]
  | here permitted later ih => rw [follow_here base permitted, ih]
  | above permitted later ih => rw [follow_above base permitted, ih]
  | last links slashed proper permitted notLink => rw [follow_last base proper permitted notLink]
  | into proper permitted found isDirectory more later ih =>
    rw [follow_into base proper permitted found isDirectory more, ih]
  | through proper permitted found isLink later ih =>
    rw [follow_through base proper permitted found isLink, ih]

/-- **Following names is following the rules.** -/
theorem follow_eq_ok_iff {system : FileSystem α} {base links current : Nat} {slashed : Bool}
    {names : List Bytes} {target : Target} :
    system.follow {} base links slashed current names = .ok target
      ↔ Follows system links slashed current names target :=
  ⟨follows_of_follow, fun follows => follow_of_follows follows base⟩

/-! ### Sound file systems -/

/-- **A sound file system**: the root and the working directory are directories, and so is what lies
above one. -/
structure Sound (system : FileSystem α) : Prop where
  root : system.IsDirectory root
  start : system.IsDirectory start
  parent : ∀ number, system.IsDirectory number → system.IsDirectory (system.parentOf number)

/-- **Names lead from directory to directory**, up to the last of them. -/
theorem Sound.isDirectory_of_follows {system : FileSystem α} (sound : system.Sound)
    {links current parent : Nat} {slashed ended : Bool} {names : List Bytes} {name : Bytes}
    (follows : Follows system links slashed current names (.named parent name ended))
    (isDirectory : system.IsDirectory current) : system.IsDirectory parent := by
  generalize reached : Target.named parent name ended = target at follows
  induction follows with
  | arrived links slashed current => cases reached
  | here permitted later ih => exact ih isDirectory reached
  | above permitted later ih => exact ih (sound.parent _ isDirectory) reached
  | last links slashed proper permitted notLink =>
    cases reached
    exact isDirectory
  | into proper permitted found there more later ih => exact ih there reached
  | through proper permitted found isLink later ih =>
    refine ih ?_ reached
    split
    · exact sound.root
    · exact isDirectory

theorem sound_empty : (empty : FileSystem α).Sound := by
  refine ⟨⟨_, _, rfl⟩, ⟨_, _, rfl⟩, ?_⟩
  rintro number ⟨parent, names, kind⟩
  refine ⟨root, [], ?_⟩
  -- There are two nodes, and the root lies above both
  obtain ⟨node, held, -⟩ := Option.map_eq_some_iff.mp kind
  obtain ⟨inside, -⟩ := Array.getElem?_eq_some_iff.mp held
  have which : number = 0 ∨ number = 1 := by
    have two : number < 2 := inside
    omega
  rcases which with rfl | rfl
  · rfl
  · rfl

/-! ### Growing file systems -/

/-- **A file system that another one grew to.** A directory stays where it is, with its permission bits
and its names; what gets a name is not a link; and links are what they were. -/
structure Grows (system later : FileSystem α) : Prop where
  directory : ∀ number parent names mode,
    system.node? number = some ⟨.directory parent names, mode⟩ →
    ∃ names', later.node? number = some ⟨.directory parent names', mode⟩
      ∧ ∀ name, names'.lookup name = names.lookup name
        ∨ names.lookup name = none
          ∧ ∀ target, names'.lookup name = some target → ¬ system.IsLink target
  link : ∀ number path, later.kind? number = some (.link path)
    ↔ system.kind? number = some (.link path)

theorem IsDirectory.node? {system : FileSystem α} {number : Nat}
    (isDirectory : system.IsDirectory number) :
    ∃ parent names mode, system.node? number = some ⟨.directory parent names, mode⟩ := by
  obtain ⟨parent, names, kind⟩ := isDirectory
  obtain ⟨⟨_, mode⟩, held, rfl⟩ := Option.map_eq_some_iff.mp kind
  exact ⟨parent, names, mode, held⟩

theorem isDirectory_of_node? {system : FileSystem α} {number parent mode : Nat}
    {names : List (Bytes × Nat)} (held : system.node? number = some ⟨.directory parent names, mode⟩) :
    system.IsDirectory number :=
  ⟨parent, names, by rw [kind?, held]; rfl⟩

/-- What a name in a directory stands for, by its names. -/
theorem lookup_of_node? {system : FileSystem α} {number parent mode : Nat}
    {names : List (Bytes × Nat)} (held : system.node? number = some ⟨.directory parent names, mode⟩)
    (name : Bytes) :
    system.lookup number name
      = if name.length > maxName then .error .nameTooLong else .ok (names.lookup name) := by
  rw [lookup, namesIn, kind?, held]
  rfl

theorem parentOf_of_node? {system : FileSystem α} {number parent mode : Nat}
    {names : List (Bytes × Nat)}
    (held : system.node? number = some ⟨.directory parent names, mode⟩) :
    system.parentOf number = parent := by
  rw [parentOf, kind?, held]
  rfl

section Grows

variable {system later : FileSystem α} {number : Nat}

theorem Grows.isDirectory (grows : system.Grows later) (isDirectory : system.IsDirectory number) :
    later.IsDirectory number := by
  obtain ⟨parent, names, mode, held⟩ := isDirectory.node?
  obtain ⟨names', held', -⟩ := grows.directory number parent names mode held
  exact isDirectory_of_node? held'

theorem Grows.parentOf (grows : system.Grows later) (isDirectory : system.IsDirectory number) :
    later.parentOf number = system.parentOf number := by
  obtain ⟨parent, names, mode, held⟩ := isDirectory.node?
  obtain ⟨names', held', -⟩ := grows.directory number parent names mode held
  rw [parentOf_of_node? held, parentOf_of_node? held']

theorem Grows.permits (grows : system.Grows later) (isDirectory : system.IsDirectory number)
    (needed : Nat) : later.permits number needed = system.permits number needed := by
  obtain ⟨parent, names, mode, held⟩ := isDirectory.node?
  obtain ⟨names', held', -⟩ := grows.directory number parent names mode held
  rw [FileSystem.permits, held', FileSystem.permits, held]

/-- A name keeps what it stands for. -/
theorem Grows.lookup (grows : system.Grows later) (isDirectory : system.IsDirectory number)
    {name : Bytes} {target : Nat} (found : system.lookup number name = .ok (some target)) :
    later.lookup number name = .ok (some target) := by
  obtain ⟨parent, names, mode, held⟩ := isDirectory.node?
  obtain ⟨names', held', kept⟩ := grows.directory number parent names mode held
  rw [lookup_of_node? held] at found
  rw [lookup_of_node? held', ← found]
  rcases kept name with same | ⟨missing, -⟩
  · rw [same]
  · rw [missing] at found
    split at found <;> cases found

/-- No name stands for a link that did not before. -/
theorem Grows.not_isLink (grows : system.Grows later) (isDirectory : system.IsDirectory number)
    {name : Bytes}
    (notLink : ∀ target, system.lookup number name = .ok (some target) → ¬ system.IsLink target)
    {target : Nat} (found : later.lookup number name = .ok (some target)) :
    ¬ later.IsLink target := by
  rintro ⟨path, isLink⟩
  have wasLink : system.IsLink target := ⟨path, (grows.link target path).mp isLink⟩
  obtain ⟨parent, names, mode, held⟩ := isDirectory.node?
  obtain ⟨names', held', kept⟩ := grows.directory number parent names mode held
  rw [lookup_of_node? held'] at found
  rcases kept name with same | ⟨-, noLink⟩
  · rw [same, ← lookup_of_node? held] at found
    exact notLink target found wasLink
  · split at found
    · cases found
    · exact noLink target (Except.ok.inj found) wasLink

/-- **Every path leads where it did.** -/
theorem Grows.follows (grows : system.Grows later) (sound : system.Sound) {links current : Nat}
    {slashed : Bool} {names : List Bytes} {target : Target}
    (follows : Follows system links slashed current names target)
    (isDirectory : system.IsDirectory current) :
    Follows later links slashed current names target := by
  induction follows with
  | arrived links slashed current => exact .arrived links slashed current
  | here permitted rest ih =>
    exact .here ((grows.permits isDirectory _).trans permitted) (ih isDirectory)
  | above permitted rest ih =>
    refine .above ((grows.permits isDirectory _).trans permitted) ?_
    rw [grows.parentOf isDirectory]
    exact ih (sound.parent _ isDirectory)
  | last links slashed proper permitted notLink =>
    exact .last links slashed proper ((grows.permits isDirectory _).trans permitted)
      fun _ => grows.not_isLink isDirectory notLink
  | into proper permitted found there more rest ih =>
    exact .into proper ((grows.permits isDirectory _).trans permitted)
      (grows.lookup isDirectory found) (grows.isDirectory there) more (ih there)
  | through proper permitted found isLink rest ih =>
    refine .through proper ((grows.permits isDirectory _).trans permitted)
      (grows.lookup isDirectory found) ((grows.link _ _).mpr isLink) (ih ?_)
    split
    · exact sound.root
    · exact isDirectory

/-- What grows out of a sound file system is sound, if new directories lie below old ones. -/
theorem Grows.sound (grows : system.Grows later) (sound : system.Sound)
    (below : ∀ number, later.IsDirectory number → ¬ system.IsDirectory number →
      system.IsDirectory (later.parentOf number)) : later.Sound := by
  refine ⟨grows.isDirectory sound.root, grows.isDirectory sound.start, ?_⟩
  intro number isDirectory
  refine grows.isDirectory ?_
  by_cases old : system.IsDirectory number
  · rw [grows.parentOf old]
    exact sound.parent number old
  · exact below number isDirectory old

end Grows

/-! ### The changes -/

section Changes

variable {system : FileSystem α}

theorem kind?_of_node? {number : Nat} {node : FileNode α}
    (held : system.node? number = some node) : system.kind? number = some node.kind := by
  rw [kind?, held]
  rfl

theorem kind?_eq_of_node? {later : FileSystem α} {number : Nat}
    (same : later.node? number = system.node? number) :
    later.kind? number = system.kind? number := by
  rw [kind?, same, kind?]

theorem node?_modify (system : FileSystem α) (number : Nat) (change : FileNode α → FileNode α)
    (other : Nat) :
    (system.modify number change).node? other
      = if number = other then (system.node? other).map change else system.node? other := by
  rw [node?, modify, Array.getElem?_modify]
  rfl

/-- **A new content and new permission bits for a file** lead no path elsewhere. -/
theorem grows_modify_file {number mode : Nat} {old : α}
    (held : system.node? number = some ⟨.file old, mode⟩) (content : α) (mode' : Nat) :
    system.Grows (system.modify number fun _ => ⟨.file content, mode'⟩) := by
  have here : (system.modify number fun _ => ⟨.file content, mode'⟩).node? number
      = some ⟨.file content, mode'⟩ := by
    rw [node?_modify, if_pos rfl, held]
    rfl
  have elsewhere (other : Nat) (different : number ≠ other) :
      (system.modify number fun _ => ⟨.file content, mode'⟩).node? other = system.node? other := by
    rw [node?_modify, if_neg different]
  refine ⟨?_, ?_⟩
  · intro other parent names mode isDirectory
    refine ⟨names, (elsewhere other ?_).trans isDirectory, fun _ => .inl rfl⟩
    rintro rfl
    cases held.symm.trans isDirectory
  · intro other path
    by_cases same : number = other
    · subst same
      rw [kind?_of_node? held, kind?_of_node? here]
      exact ⟨nofun, nofun⟩
    · rw [kind?_eq_of_node? (elsewhere other same)]

theorem Sound.modify_file (sound : system.Sound) {number mode : Nat} {old : α}
    (held : system.node? number = some ⟨.file old, mode⟩) (content : α) (mode' : Nat) :
    (system.modify number fun _ => ⟨.file content, mode'⟩).Sound := by
  refine (grows_modify_file held content mode').sound sound fun other isDirectory notBefore => ?_
  obtain ⟨above, names, mode, there⟩ := isDirectory.node?
  rw [node?_modify] at there
  split at there
  · next same =>
    subst same
    rw [held] at there
    cases there
  · exact absurd (isDirectory_of_node? there) notBefore

/-- The nodes after a new one was added with a name in a directory. -/
theorem node?_create {parent above mode : Nat} {names : List (Bytes × Nat)}
    (held : system.node? parent = some ⟨.directory above names, mode⟩) (name : Bytes)
    (node : FileNode α) (other : Nat) :
    (system.create parent name node).1.node? other
      = if other = parent then some ⟨.directory above ((name, system.nodes.size) :: names), mode⟩
        else if other = system.nodes.size then some node else system.node? other := by
  obtain ⟨inside, -⟩ := Array.getElem?_eq_some_iff.mp held
  show ((system.add node).1.enter parent name system.nodes.size).node? other = _
  rw [enter, modifyNames, node?_modify]
  have added : (system.add node).1.node? other
      = if other = system.nodes.size then some node else system.node? other :=
    Array.getElem?_push
  by_cases same : other = parent
  · subst same
    rw [if_pos rfl, if_pos rfl, added, if_neg (by omega), held]
    rfl
  · rw [if_neg (Ne.symm same), if_neg same, added]

/-- Nothing has the number of the next node. -/
theorem node?_size (system : FileSystem α) : system.node? system.nodes.size = none :=
  Array.getElem?_size

/-- **A new node with a name of its own** leads no path elsewhere. -/
theorem grows_create {parent : Nat} {name : Bytes} (isDirectory : system.IsDirectory parent)
    (free : system.lookup parent name = .ok none) {node : FileNode α}
    (noLink : ∀ path, node.kind ≠ .link path) :
    system.Grows (system.create parent name node).1 := by
  obtain ⟨above, names, mode, held⟩ := isDirectory.node?
  have nodes := node?_create held name node
  rw [lookup_of_node? held] at free
  have unused : names.lookup name = none := by
    split at free
    · cases free
    · exact Except.ok.inj free
  refine ⟨?_, ?_⟩
  · intro number parent' names' mode' there
    by_cases same : number = parent
    · subst same
      cases held.symm.trans there
      refine ⟨_, (nodes number).trans (if_pos rfl), fun sought => ?_⟩
      by_cases new : sought = name
      · subst new
        refine .inr ⟨unused, fun target found => ?_⟩
        rw [List.lookup_cons_self] at found
        cases found
        rintro ⟨path, isLink⟩
        rw [kind?, node?_size] at isLink
        cases isLink
      · exact .inl (by rw [List.lookup_cons, beq_false_of_ne new])
    · refine ⟨names', ?_, fun _ => .inl rfl⟩
      rw [nodes, if_neg same, if_neg ?_, there]
      rintro rfl
      cases (node?_size system).symm.trans there
  · intro number path
    by_cases same : number = parent
    · subst same
      rw [kind?_of_node? held, kind?_of_node? ((nodes number).trans (if_pos rfl))]
      exact ⟨nofun, nofun⟩
    · by_cases new : number = system.nodes.size
      · subst new
        have there := nodes system.nodes.size
        rw [if_neg same, if_pos rfl] at there
        rw [kind?_of_node? there, kind?, node?_size]
        exact ⟨fun isLink => absurd (Option.some.inj isLink) (noLink path), nofun⟩
      · have there := nodes number
        rw [if_neg same, if_neg new] at there
        rw [kind?_eq_of_node? there]

/-- A new node keeps a file system sound, if it is not a directory or lies below one. -/
theorem Sound.create (sound : system.Sound) {parent : Nat} {name : Bytes}
    (isDirectory : system.IsDirectory parent) (free : system.lookup parent name = .ok none)
    {node : FileNode α} (noLink : ∀ path, node.kind ≠ .link path)
    (below : ∀ above names, node.kind = .directory above names → system.IsDirectory above) :
    (system.create parent name node).1.Sound := by
  refine (grows_create isDirectory free noLink).sound sound fun other here notBefore => ?_
  obtain ⟨above, names, mode, there⟩ := here.node?
  rw [parentOf_of_node? there]
  obtain ⟨_, _, _, held⟩ := isDirectory.node?
  rw [node?_create held] at there
  split at there
  · next same => exact absurd (same ▸ isDirectory) notBefore
  · split at there
    · exact below above names (congrArg FileNode.kind (Option.some.inj there))
    · exact absurd (isDirectory_of_node? there) notBefore

end Changes

/-! ### Whole paths -/

section Paths

variable {system later : FileSystem α} {path : Bytes}

/-- The directory from which the names of a path are followed. -/
def baseOf (path : Bytes) : Nat := if Path.isRooted path then root else start

theorem resolve_eq (system : FileSystem α) (path : Bytes) :
    system.resolve {} start path =
      if path.isEmpty then .error .noEntry
      else if path.length > maxPath then .error .nameTooLong
      else system.follow {} (baseOf path) maxLinks (endsWithSlash path) (baseOf path)
        (Path.names path) := by
  have starts : startOf {} start path = .ok (baseOf path) := by
    unfold startOf baseOf
    cases Path.isRooted path <;> rfl
  rw [resolve, starts]
  by_cases empty : path.isEmpty
  · rw [if_pos empty, if_pos empty]
    rfl
  · rw [if_neg empty, if_neg empty]
    by_cases long : path.length > maxPath
    · rw [if_pos long, if_pos long]
      rfl
    · rw [if_neg long, if_neg long]
      rfl

/-- A path leads somewhere by the rules. -/
theorem follows_of_resolve {target : Target}
    (resolved : system.resolve {} start path = .ok target) :
    Follows system maxLinks (endsWithSlash path) (baseOf path) (Path.names path) target := by
  rw [resolve_eq] at resolved
  obtain ⟨-, resolved⟩ := except_guard_eq_ok.mp resolved
  obtain ⟨-, resolved⟩ := except_guard_eq_ok.mp resolved
  exact follow_eq_ok_iff.mp resolved

theorem Sound.isDirectory_baseOf (sound : system.Sound) (path : Bytes) :
    system.IsDirectory (baseOf path) := by
  unfold baseOf
  split
  · exact sound.root
  · exact sound.start

theorem Sound.isDirectory_of_resolve (sound : system.Sound) {parent : Nat} {name : Bytes}
    {slashed : Bool}
    (resolved : system.resolve {} FileSystem.start path = .ok (.named parent name slashed)) :
    system.IsDirectory parent :=
  sound.isDirectory_of_follows (follows_of_resolve resolved) (sound.isDirectory_baseOf path)

theorem Grows.resolve (grows : system.Grows later) (sound : system.Sound) {target : Target}
    (resolved : system.resolve {} start path = .ok target) :
    later.resolve {} start path = .ok target := by
  have follows := grows.follows sound (follows_of_resolve resolved) (sound.isDirectory_baseOf path)
  rw [resolve_eq] at resolved ⊢
  obtain ⟨notEmpty, resolved⟩ := except_guard_eq_ok.mp resolved
  obtain ⟨short, -⟩ := except_guard_eq_ok.mp resolved
  rw [if_neg notEmpty, if_neg short]
  exact follow_eq_ok_iff.mpr follows

/-- The file at a path. -/
theorem find_of_resolve {parent number : Nat} {name : Bytes} {content : α}
    (resolved : system.resolve {} start path = .ok (.named parent name false))
    (named : system.lookup parent name = .ok (some number))
    (isFile : system.kind? number = some (.file content)) :
    system.find {} start path = .ok number := by
  simp only [find, resolved, ok_bind, named, isFile]
  rfl

/-- **A file is found where it was.** -/
theorem Grows.find (grows : system.Grows later) (sound : system.Sound) {number : Nat}
    {content content' : α} (found : system.find {} start path = .ok number)
    (wasFile : system.kind? number = some (.file content))
    (isFile : later.kind? number = some (.file content')) :
    later.find {} start path = .ok number := by
  obtain ⟨target, resolved, rest⟩ := except_bind_eq_ok.mp found
  have resolved' := grows.resolve sound resolved
  cases target with
  | directory reached =>
    cases rest
    show (later.resolve {} start path >>= _) = _
    rw [resolved']
    rfl
  | named parent name slashed =>
    obtain ⟨named, looked, rest⟩ := except_bind_eq_ok.mp rest
    cases named with
    | none => cases rest
    | some reached =>
      have looked' := grows.lookup (sound.isDirectory_of_resolve resolved) looked
      dsimp only at rest
      split at rest
      · next above names isDirectory =>
        cases rest
        cases wasFile.symm.trans isDirectory
      · split at rest
        · cases rest
        · next unslashed =>
          cases rest
          rw [Bool.not_eq_true] at unslashed
          rw [unslashed] at resolved'
          exact find_of_resolve resolved' looked' isFile

end Paths

end StaticElf.FileSystem
