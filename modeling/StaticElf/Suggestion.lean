/-
**Suggestions for a name that was not found.**

* `similarNames` — the names at an edit distance of one to three, the nearest first and equally near
  ones in byte order, at most as many as asked for.
* `hint` — up to two of them as a question.
* `similarNames?` — the same with a limit for which there may be no room.
-/

import StaticElf.EditDistance
import StaticElf.Text.Utf8

namespace StaticElf

/-- The largest distance at which a name is still suggested. -/
def suggestionThreshold : Nat := 3

/-- A name and how far it is from the one that was not found. -/
structure Suggestion where
  name : Bytes
  distance : Nat
  deriving DecidableEq, Repr

/-- The nearer suggestion comes first; of two equally near ones, the first in byte order. -/
def Suggestion.before (left right : Suggestion) : Bool :=
  left.distance < right.distance || (left.distance = right.distance && !byteBefore right.name left.name)

/-- The names near enough to be suggested, with their distances. -/
def suggestions (name : Bytes) (names : List Bytes) : List Suggestion :=
  (names.map fun candidate => ⟨candidate, editDistance name candidate⟩).filter
    fun suggestion => 0 < suggestion.distance && suggestion.distance ≤ suggestionThreshold

/-- The nearest names, each once, at most `limit` of them. In order, equal names follow each other. -/
def similarNames (name : Bytes) (names : List Bytes) (limit : Nat) : List Bytes :=
  (((suggestions name names).mergeSort Suggestion.before).eraseReps.take limit).map (·.name)

/-- A question that offers the two nearest names, or nothing when there is none. -/
def hint (name : Bytes) (names : List Bytes) : String :=
  match similarNames name names 2 with
  | [] => ""
  | similar => " (did you mean " ++ " or ".intercalate (similar.map Utf8.display) ++ "?)"

/-- A limit that a list of names cannot have: it is below zero, or there is no room for that many. -/
structure LimitError where
  limit : Int
  deriving DecidableEq, Repr

/-- What is said about a limit that a list of names cannot have. -/
def LimitError.text (_ : LimitError) : String := "runtime error: makeslice: cap out of range"

/-- The nearest names up to a limit that may be any number, on a machine with room for `room` names. The
room is made beforehand, for as many names as the limit says. -/
def similarNames? (room : Nat) (name : Bytes) (names : List Bytes) (limit : Int) :
    Except LimitError (List Bytes) :=
  if limit < 0 || limit > room then .error ⟨limit⟩
  else .ok (similarNames name names limit.toNat)

end StaticElf
