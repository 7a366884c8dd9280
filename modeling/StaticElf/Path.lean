/-
**Paths.**

A path is a byte string; a slash stands between its names.

* `Path.names` — the names of a path, without the empty ones.
* `Path.clean` — the shortest path that means the same if no name is a link, worked out on the text.
* `Path.directory` — the cleaned path of everything up to the last slash.
* `Path.ancestors` — a path, then what stands before its last name, and so on upwards.
-/

import StaticElf.Bytes

namespace StaticElf.Path

/-- The byte between names. -/
def slash : UInt8 := 0x2f

/-- The name of the directory itself. -/
def here : Bytes := [0x2e]

/-- The name of the directory above. -/
def above : Bytes := [0x2e, 0x2e]

/-- The parts of a path between its slashes, empty ones included. -/
def parts : Bytes → List Bytes
  | [] => [[]]
  | byte :: rest =>
    if byte = slash then [] :: parts rest
    else match parts rest with
      | first :: others => (byte :: first) :: others
      | [] => [[byte]]

/-- The names of a path. -/
def names (path : Bytes) : List Bytes := (parts path).filter (!·.isEmpty)

/-- Whether a path starts at the root. -/
def isRooted (path : Bytes) : Bool := path.head? = some slash

/-- Names with a slash between them. -/
def join (names : List Bytes) : Bytes := [slash].intercalate names

/-- The names so far, the last first, after one more name: the directory itself adds nothing, the one
above takes the last name away. Above the root is the root; above the start stays. -/
def resolveName (rooted : Bool) (names : List Bytes) (name : Bytes) : List Bytes :=
  if name = here then names
  else if name = above then
    match names with
    | last :: before => if last = above then name :: names else before
    | [] => if rooted then [] else [name]
  else name :: names

/-- The shortest path that means the same, worked out on the text alone. -/
def clean (path : Bytes) : Bytes :=
  let rooted := isRooted path
  let resolved := ((names path).foldl (resolveName rooted) []).reverse
  if rooted then slash :: join resolved
  else if resolved.isEmpty then here
  else join resolved

/-- Everything up to the last slash, with it. -/
def uptoLastSlash (path : Bytes) : Bytes := (path.reverse.dropWhile (· != slash)).reverse

/-- The directory of a path, cleaned. -/
def directory (path : Bytes) : Bytes := clean (uptoLastSlash path)

/-- What stands before the last name of a path and the slash in front of it, unless that is nothing. -/
def parent? (path : Bytes) : Option Bytes :=
  match (path.reverse.dropWhile (· == slash)).dropWhile (· != slash) with
  | _ :: byte :: rest => some (byte :: rest).reverse
  | _ => none

theorem length_lt_of_parent? {path parent : Bytes} (found : parent? path = some parent) :
    parent.length < path.length := by
  unfold parent? at found
  split at found
  · next first byte rest shape =>
    have shorter := (List.dropWhile_sublist (· != slash)
      (l := path.reverse.dropWhile (· == slash))).length_le
    have shorter' := (List.dropWhile_sublist (· == slash) (l := path.reverse)).length_le
    rw [shape] at shorter
    simp only [List.length_cons, List.length_reverse] at shorter shorter'
    cases found
    simp only [List.length_reverse, List.length_cons]
    omega
  · cases found

/-- A path and what stands before its last name, and so on upwards: the longest first. -/
def ancestors (path : Bytes) : List Bytes :=
  match _found : parent? path with
  | some parent => path :: ancestors parent
  | none => [path]
  termination_by path.length
  decreasing_by exact length_lt_of_parent? _found

end StaticElf.Path
