/-
**A tree of directories, links and files.**

The nodes of a file system are numbered; a directory says which number each of its names stands for. The
caller owns everything: the permission bits of the owner say what may be done with a node.

* `Walk` — in what way a path is followed.
* `FileSystem.resolve`, `find` — where a path leads to, and what stands there.
* `FileSystem.resolveParent` — follows a path to the directory that holds its last name.
* `FileSystem.add`, `enter`, `remove` — the changes: a new node, a name for a node, and a name less.
-/

import StaticElf.Errno
import StaticElf.Path

namespace StaticElf

/-- What a node of a file system is. -/
inductive NodeKind (α : Type) where
  /-- A directory: the directory above it, and its names with what they stand for. -/
  | directory (parent : Nat) (names : List (Bytes × Nat))
  /-- Another path. -/
  | link (target : Bytes)
  | file (content : α)
  deriving Repr

/-- A node of a file system, with its permission bits. -/
structure FileNode (α : Type) where
  kind : NodeKind α
  mode : Nat
  deriving Repr

/-- A file system with content of any kind in its files. -/
structure FileSystem (α : Type) where
  nodes : Array (FileNode α)
  /-- The directories below which another device begins. -/
  mounts : List Nat := []
  deriving Repr

/-- What a path may lead through. -/
inductive Scope where
  | everything
  /-- What lies below the directory from which it starts: a way out is refused. -/
  | below
  /-- What lies below the directory from which it starts, which is the root for the path. -/
  | enclosed
  deriving DecidableEq, Repr

/-- In what way a path is followed. -/
structure Walk where
  /-- Whether a link at the end is followed. -/
  through : Bool := true
  scope : Scope := .everything
  /-- Whether links are refused. -/
  noLinks : Bool := false
  /-- Whether ways to another device are refused. -/
  sameDevice : Bool := false
  deriving DecidableEq, Repr

namespace FileMode

/-- The permission bit by which the owner may read a file. -/
def ownerRead : Nat := 0o400

/-- The permission bit by which the owner may write a file, or change the names in a directory. -/
def ownerWrite : Nat := 0o200

/-- The permission bit by which the owner may run a file, or follow the names in a directory. -/
def ownerRun : Nat := 0o100

/-- The permission bits of what everybody can run or enter and its owner can change. -/
def executable : Nat := 0o755

/-- Whether all of the needed permission bits are set. -/
def permits (mode needed : Nat) : Bool := mode &&& needed == needed

end FileMode

namespace FileSystem

variable {α : Type}

/-- The number of the root. -/
def root : Nat := 0

/-- The number of the working directory of a fresh file system. -/
def start : Nat := 1

/-- A file system with nothing in it but the root and a working directory. -/
def empty : FileSystem α where
  nodes := #[⟨.directory root [], FileMode.executable⟩, ⟨.directory root [], FileMode.executable⟩]

/-- The most bytes of a name. -/
def maxName : Nat := 255

/-- The most bytes of a path. -/
def maxPath : Nat := 4095

/-- The most links that are followed for one path. -/
def maxLinks : Nat := 40

/-- The node with a number. -/
def node? (system : FileSystem α) (number : Nat) : Option (FileNode α) := system.nodes[number]?

/-- What the node with a number is. -/
def kind? (system : FileSystem α) (number : Nat) : Option (NodeKind α) :=
  (system.node? number).map (·.kind)

/-- The names in a directory. -/
def namesIn (system : FileSystem α) (directory : Nat) : List (Bytes × Nat) :=
  match system.kind? directory with
  | some (.directory _ names) => names
  | _ => []

/-- The directory above a directory. -/
def parentOf (system : FileSystem α) (directory : Nat) : Nat :=
  match system.kind? directory with
  | some (.directory parent _) => parent
  | _ => root

/-- The directory at which the device of a directory begins, so many steps upwards at most. -/
def deviceFrom (system : FileSystem α) : (steps : Nat) → (directory : Nat) → Nat
  | 0, _ => root
  | steps + 1, directory =>
    if directory = root || system.mounts.contains directory then directory
    else system.deviceFrom steps (system.parentOf directory)

/-- The directory at which the device of a directory begins. -/
def deviceOf (system : FileSystem α) (directory : Nat) : Nat :=
  if system.mounts.isEmpty then root else system.deviceFrom system.nodes.size directory

/-- The directory at which the device of a node begins. -/
def deviceOfNode (system : FileSystem α) (node : Nat) : Nat :=
  match system.kind? node with
  | some (.directory ..) => system.deviceOf node
  | _ =>
    let holds (directory : Nat) : Bool :=
      (system.namesIn directory).any fun (_, number) => number == node
    match (List.range system.nodes.size).find? fun directory =>
        system.mounts.contains (system.deviceOf directory) && holds directory with
    | some directory => system.deviceOf directory
    | none => root

/-- Whether the owner may do with a node what the needed bits stand for. -/
def permits (system : FileSystem α) (number needed : Nat) : Bool :=
  match system.node? number with
  | some node => FileMode.permits node.mode needed
  | none => false

/-- What a name in a directory stands for. -/
def lookup (system : FileSystem α) (directory : Nat) (name : Bytes) : Except Errno (Option Nat) :=
  if name.length > maxName then .error .nameTooLong
  else .ok ((system.namesIn directory).lookup name)

/-! ### Following paths -/

/-- Where a path leads: to a directory without a name of its own, or to a name in a directory, with or
without a slash behind it. -/
inductive Target where
  | directory (number : Nat)
  | named (parent : Nat) (name : Bytes) (slashed : Bool)
  deriving DecidableEq, Repr

/-- Whether a path ends with a slash. -/
def endsWithSlash (path : Bytes) : Bool := path.getLast? = some Path.slash

/-- The directory from which a path goes on that begins with a slash, when it was followed from `base` to
a directory. -/
def rootFor (system : FileSystem α) (walk : Walk) (base current : Nat) : Except Errno Nat :=
  match walk.scope with
  | .below => .error .otherDevice
  | .enclosed => .ok base
  | .everything =>
    if walk.sameDevice && system.deviceOf current ≠ system.deviceOf root then .error .otherDevice
    else .ok root

/-- The directory above a directory, for a path that was followed from `base`. -/
def aboveFor (system : FileSystem α) (walk : Walk) (base current : Nat) : Except Errno Nat :=
  if walk.scope ≠ .everything && current = base then
    if walk.scope = .below then .error .otherDevice else .ok current
  else if walk.sameDevice && system.mounts.contains current then .error .otherDevice
  else .ok (system.parentOf current)

/-- Follows names from a directory up to the last of them. A link on the way is followed, so is one at the
end if the walk goes through it or a slash stands behind it; behind a link it goes on as it is said, if
links may still be followed. -/
def followNames (system : FileSystem α) (walk : Walk) (base : Nat)
    (behindLink? : Option (Bool → Nat → List Bytes → Except Errno Target)) :
    (slashed : Bool) → (current : Nat) → List Bytes → Except Errno Target
  | _, current, [] => .ok (.directory current)
  | slashed, current, name :: rest =>
    if !system.permits current FileMode.ownerRun then .error .permissionDenied
    else if name = Path.here then system.followNames walk base behindLink? slashed current rest
    else if name = Path.above then
      match system.aboveFor walk base current with
      | .error errno => .error errno
      | .ok parent => system.followNames walk base behindLink? slashed parent rest
    else if rest.isEmpty && name.length > maxName then .ok (.named current name slashed)
    else match system.lookup current name with
      | .error errno => .error errno
      | .ok none => if rest.isEmpty then .ok (.named current name slashed) else .error .noEntry
      | .ok (some number) =>
        match system.kind? number with
        | some (.link target) =>
          if rest.isEmpty && !walk.through && !slashed then .ok (.named current name slashed)
          else match behindLink? with
            | none => .error .tooManyLinks
            | some behindLink =>
              match (if Path.isRooted target then system.rootFor walk base current
                  else .ok current) with
              | .error errno => .error errno
              | .ok start =>
                behindLink (slashed || (rest.isEmpty && endsWithSlash target)) start
                  (Path.names target ++ rest)
        | some (.directory ..) =>
          if walk.sameDevice && system.mounts.contains number then .error .otherDevice
          else if rest.isEmpty then .ok (.named current name slashed)
          else system.followNames walk base behindLink? slashed number rest
        | _ => if rest.isEmpty then .ok (.named current name slashed) else .error .notDirectory

/-- Follows names from a directory up to the last of them, through so many links at most. -/
def follow (system : FileSystem α) (walk : Walk) (base : Nat) :
    (links : Nat) → (slashed : Bool) → (current : Nat) → List Bytes → Except Errno Target
  | 0 => system.followNames walk base none
  | links + 1 =>
    system.followNames walk base (if walk.noLinks then none else some (system.follow walk base links))

/-- The directory at which a path starts. -/
def startOf (walk : Walk) (directory : Nat) (path : Bytes) : Except Errno Nat :=
  if !Path.isRooted path then .ok directory
  else match walk.scope with
    | .everything => .ok root
    | .below => .error .otherDevice
    | .enclosed => .ok directory

/-- Follows a path from a directory up to its last name. -/
def resolve (system : FileSystem α) (walk : Walk) (directory : Nat) (path : Bytes) :
    Except Errno Target := do
  if path.isEmpty then throw .noEntry
  if path.length > maxPath then throw .nameTooLong
  let start ← startOf walk directory path
  system.follow walk start maxLinks (endsWithSlash path) start (Path.names path)

/-- The node that a path leads to. A slash at its end asks for a directory. -/
def find (system : FileSystem α) (walk : Walk) (directory : Nat) (path : Bytes) :
    Except Errno Nat := do
  match ← system.resolve walk directory path with
  | .directory number => return number
  | .named parent name slashed =>
    match ← system.lookup parent name with
    | none => throw .noEntry
    | some number =>
      match system.kind? number with
      | some (.directory ..) => return number
      | _ => if slashed then throw .notDirectory else return number

/-- The last name of a path. -/
inductive LastName where
  /-- A path without a name. -/
  | none
  | here
  | above
  | name (bytes : Bytes) (slashed : Bool)
  deriving DecidableEq, Repr

/-- Follows a path from a directory to the directory that holds its last name. That name is not
followed. -/
def resolveParent (system : FileSystem α) (walk : Walk) (directory : Nat) (path : Bytes) :
    Except Errno (Nat × LastName) := do
  if path.isEmpty then throw .noEntry
  if path.length > maxPath then throw .nameTooLong
  let start ← startOf walk directory path
  let names := Path.names path
  match names.getLast? with
  | none => return (start, .none)
  | some last =>
    match ← system.follow walk start maxLinks false start (names.dropLast ++ [Path.here]) with
    | .named parent _ _ => return (parent, .none)
    | .directory parent =>
      let kind : LastName := if last = Path.here then .here
        else if last = Path.above then .above
        else .name last (endsWithSlash path)
      return (parent, kind)

/-! ### Changes -/

/-- Changes a node. -/
def modify (system : FileSystem α) (number : Nat) (change : FileNode α → FileNode α) :
    FileSystem α :=
  { system with nodes := system.nodes.modify number change }

/-- Changes the names in a directory. -/
def modifyNames (system : FileSystem α) (directory : Nat)
    (change : List (Bytes × Nat) → List (Bytes × Nat)) : FileSystem α :=
  system.modify directory fun node =>
    match node.kind with
    | .directory parent names => { node with kind := .directory parent (change names) }
    | _ => node

/-- A new node without a name, and its number. -/
def add (system : FileSystem α) (node : FileNode α) : FileSystem α × Nat :=
  ({ system with nodes := system.nodes.push node }, system.nodes.size)

/-- Lets a name that is not in use stand for a node. -/
def enter (system : FileSystem α) (directory : Nat) (name : Bytes) (number : Nat) : FileSystem α :=
  system.modifyNames directory fun names => (name, number) :: names

/-- Takes a name away. -/
def remove (system : FileSystem α) (directory : Nat) (name : Bytes) : FileSystem α :=
  system.modifyNames directory fun names => names.filter (·.1 != name)

/-- A new node with a name. -/
def create (system : FileSystem α) (directory : Nat) (name : Bytes) (node : FileNode α) :
    FileSystem α × Nat :=
  let (system, number) := system.add node
  (system.enter directory name number, number)

/-- A new directory with a name. -/
def makeDirectory (system : FileSystem α) (parent : Nat) (name : Bytes) (mode : Nat) :
    FileSystem α × Nat :=
  system.create parent name ⟨.directory parent [], mode⟩

end FileSystem

end StaticElf
