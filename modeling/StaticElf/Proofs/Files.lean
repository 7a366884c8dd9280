/-
**What files hold after they were written.**

A file shows nothing of bytes beyond its end when it is `Sound`: then writing further behind leaves
zeros between. Cutting a file makes it sound, and writing keeps it so.

* `ByteFile.sound_truncate`, `ByteFile.Sound.write` — the files that are ever written are sound.
* `ByteFile.Sound.byteAt_write`, `ByteFile.size_write` — what a write changes, and that it changes
  nothing else.
* `ByteFile.read_eq_of_byteAt` — bytes that a file holds from a place on can be read there.
* `ByteFile.read_eq_toBytes` — what can be read depends on the content of the file alone.
-/

import StaticElf.ByteFile

namespace StaticElf

namespace Extent

/-- An extent holds a byte at the places from its start to its end. -/
theorem byteAt?_eq_none_iff (extent : Extent) (place : Nat) :
    extent.byteAt? place = none
      ↔ place < extent.start ∨ extent.start + extent.bytes.size ≤ place := by
  unfold byteAt?
  split
  · simp [*]
  · rw [Array.getElem?_eq_none_iff]
    omega

theorem byteAt?_toArray (start : Nat) (bytes : Bytes) (place : Nat) :
    (Extent.mk start bytes.toArray).byteAt? place
      = if start ≤ place then bytes[place - start]? else none := by
  unfold byteAt?
  by_cases before : place < start
  · rw [if_pos before, if_neg (Nat.not_le.mpr before)]
  · rw [if_neg before, if_pos (Nat.not_lt.mp before), List.getElem?_toArray]

end Extent

namespace ByteFile

/-- **A file that holds nothing beyond its end.** -/
def Sound (file : ByteFile) : Prop :=
  ∀ place, file.size ≤ place → file.extents.findSome? (·.byteAt? place) = none

theorem Sound.byteAt {file : ByteFile} (sound : file.Sound) (place : Nat) :
    file.byteAt place = (file.extents.findSome? (·.byteAt? place)).getD 0 := by
  unfold ByteFile.byteAt
  split
  · rfl
  · rw [sound place (by omega)]
    rfl

theorem byteAt_of_size_le {file : ByteFile} {place : Nat} (behind : file.size ≤ place) :
    file.byteAt place = 0 := if_neg (Nat.not_lt.mpr behind)

/-! ### Cutting and writing -/

@[simp] theorem size_truncate (file : ByteFile) (size : Nat) :
    (file.truncate size).size = size := rfl

/-- **What is cut off is gone**: it does not come back when the file grows again. -/
theorem sound_truncate (file : ByteFile) (size : Nat) : (file.truncate size).Sound := by
  intro place behind
  have behind : size ≤ place := behind
  rw [List.findSome?_eq_none_iff]
  intro extent member
  obtain ⟨whole, -, rfl⟩ := List.mem_map.mp member
  rw [Extent.byteAt?_eq_none_iff]
  simp only [Array.take_eq_extract, Array.size_extract]
  omega

theorem size_write (file : ByteFile) (place : Nat) (bytes : Bytes) :
    (file.write place bytes).size
      = if bytes = [] then file.size else max file.size (place + bytes.length) := by
  unfold write
  cases bytes with
  | nil => rfl
  | cons byte bytes => rfl

/-- What was written last is found first. -/
theorem findSome?_write (file : ByteFile) (start : Nat) (bytes : Bytes) (place : Nat) :
    (file.write start bytes).extents.findSome? (·.byteAt? place)
      = (if start ≤ place then bytes[place - start]? else none).or
          (file.extents.findSome? (·.byteAt? place)) := by
  unfold write
  cases bytes with
  | nil => simp
  | cons byte bytes =>
    show (Extent.mk start (byte :: bytes).toArray :: file.extents).findSome? _ = _
    rw [List.findSome?_cons, Extent.byteAt?_toArray]
    cases (if start ≤ place then (byte :: bytes)[place - start]? else none) with
    | none => rfl
    | some found => rfl

theorem Sound.write {file : ByteFile} (sound : file.Sound) (start : Nat) (bytes : Bytes) :
    (file.write start bytes).Sound := by
  intro place behind
  rw [size_write] at behind
  by_cases empty : bytes = []
  · rw [if_pos empty] at behind
    rw [findSome?_write, sound place behind, empty]
    simp
  · rw [if_neg empty] at behind
    rw [findSome?_write, sound place (by omega), List.getElem?_eq_none (by omega)]
    simp

/-- **What a write changes**: the places that it covers, and no other. -/
theorem Sound.byteAt_write {file : ByteFile} (sound : file.Sound) (start : Nat) (bytes : Bytes)
    (place : Nat) :
    (file.write start bytes).byteAt place
      = if start ≤ place ∧ place < start + bytes.length then bytes.getD (place - start) 0
        else file.byteAt place := by
  rw [(sound.write start bytes).byteAt, findSome?_write]
  by_cases covered : start ≤ place ∧ place < start + bytes.length
  · have inside : place - start < bytes.length := by omega
    rw [if_pos covered, if_pos covered.1, List.getElem?_eq_getElem inside]
    simp [inside]
  · rw [if_neg covered, sound.byteAt]
    have nothing : (if start ≤ place then bytes[place - start]? else none) = none := by
      split
      · exact List.getElem?_eq_none (by omega)
      · rfl
    rw [nothing, Option.none_or]

/-! ### Reading -/

theorem getElem?_read (file : ByteFile) (start length i : Nat) :
    (file.read start length)[i]?
      = if i < min length (file.size - start) then some (file.byteAt (start + i)) else none := by
  unfold read
  rw [List.getElem?_map]
  split
  · next inside =>
    rw [List.getElem?_range inside]
    rfl
  · next outside =>
    rw [List.getElem?_eq_none (by rw [List.length_range]; exact Nat.not_lt.mp outside)]
    rfl

/-- **Bytes that a file holds from a place on can be read there.** -/
theorem read_eq_of_byteAt {file : ByteFile} {start : Nat} {bytes : Bytes}
    (room : bytes ≠ [] → start + bytes.length ≤ file.size)
    (held : ∀ i, i < bytes.length → file.byteAt (start + i) = bytes.getD i 0) :
    file.read start bytes.length = bytes := by
  have count : min bytes.length (file.size - start) = bytes.length := by
    cases bytes with
    | nil => rfl
    | cons byte bytes =>
      have := room (List.cons_ne_nil _ _)
      omega
  apply List.ext_getElem?
  intro i
  rw [getElem?_read, count]
  by_cases inside : i < bytes.length
  · rw [if_pos inside, held i inside, List.getElem?_eq_getElem inside]
    simp [inside]
  · rw [if_neg inside, List.getElem?_eq_none (Nat.not_lt.mp inside)]

/-- **What can be read is a part of the content.** -/
theorem read_eq_toBytes (file : ByteFile) (start length : Nat) :
    file.read start length = (file.toBytes.drop start).take length := by
  apply List.ext_getElem?
  intro i
  rw [List.getElem?_take, List.getElem?_drop, toBytes, getElem?_read, getElem?_read]
  by_cases inside : i < length
  · rw [if_pos inside, Nat.zero_add, Nat.sub_zero, Nat.min_self]
    congr 1
    exact propext (by omega)
  · rw [if_neg inside, if_neg (by omega)]

end ByteFile

end StaticElf
