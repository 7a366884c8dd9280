/-
**Files in pages.**

What a running program sees of a file is kept in pages, and a page that holds only zeros may be missing.
The pages of a file show what the file holds.

* `Content.byteAt`, `Content.Whole` — the byte at a place, and contents whose pages have all their bytes.
* `Content.Whole.byteAt_put` — what putting bytes into pages changes, and that it changes nothing else.
* `Content.byteAt_ofFile` — the pages of a file hold what the file holds.
* `Content.toList_read_ofFile` — what is read from them is what can be read from the file.
-/

import StaticElf.Linux.Pages
import StaticElf.Proofs.Files

namespace StaticElf.Linux

theorem pageBytes_eq : pageBytes = 4096 := rfl

/-- The bytes of an array, one after the other. -/
theorem toList_eq_data (bytes : ByteArray) : bytes.toList = bytes.data.toList := by
  have loop (place : Nat) (before : List UInt8) :
      ByteArray.toList.loop bytes place before = before.reverse ++ bytes.data.toList.drop place := by
    induction place, before using ByteArray.toList.loop.induct bytes with
    | case1 place before inside ih =>
      have within : place < bytes.data.toList.length := inside
      have byte : bytes.get! place = bytes.data.toList[place] := by
        rw [Array.getElem_toList]
        exact dif_pos inside
      rw [ByteArray.toList.loop, if_pos inside, ih, byte, List.reverse_cons, List.append_assoc,
        List.singleton_append, List.getElem_cons_drop]
    | case2 place before behind =>
      rw [ByteArray.toList.loop, if_neg behind, List.drop_eq_nil_of_le (Nat.le_of_not_lt behind),
        List.append_nil]
  rw [ByteArray.toList, loop]
  rfl

/-! ### Pages -/

namespace Page

theorem size_zeros : zeros.size = pageBytes := Array.size_replicate ..

theorem getElem?_zeros (offset : Nat) : (zeros.data[offset]?).getD 0 = 0 := by
  rw [zeros, Array.getElem?_replicate]
  split
  · rfl
  · rfl

theorem data_patch (page : Page) (offset : Nat) (bytes : ByteArray) :
    (page.patch offset bytes).data
      = page.data.extract 0 offset ++ bytes.data
        ++ page.data.extract (offset + bytes.size) page.size := by
  have whole : bytes.data.extract 0 bytes.size = bytes.data := Array.extract_size
  rw [patch, ByteArray.copySlice_eq_append]
  simp only [ByteArray.data_append, ByteArray.data_extract, Nat.zero_add, whole, Nat.sub_zero,
    ByteArray.size_data, Nat.min_self]

theorem size_patch (page : Page) {offset : Nat} {bytes : ByteArray}
    (fits : offset + bytes.size ≤ page.size) : (page.patch offset bytes).size = page.size := by
  rw [← ByteArray.size_data, data_patch]
  simp only [Array.size_append, Array.size_extract, ByteArray.size_data]
  omega

/-- **What putting bytes into a page changes**: the places that they take, and no other. -/
theorem getElem?_patch (page : Page) {offset : Nat} {bytes : ByteArray}
    (fits : offset + bytes.size ≤ page.size) (i : Nat) :
    (page.patch offset bytes).data[i]?
      = if offset ≤ i ∧ i < offset + bytes.size then bytes.data[i - offset]? else page.data[i]? := by
  have start : (page.data.extract 0 offset).size = offset := by
    rw [Array.size_extract, ByteArray.size_data]
    omega
  rw [data_patch, Array.getElem?_append, Array.getElem?_append, Array.size_append, start,
    ByteArray.size_data, Array.getElem?_extract, Array.getElem?_extract, ByteArray.size_data]
  by_cases before : i < offset
  · rw [if_pos (by omega), if_pos before, if_pos (by omega), if_neg (by omega), Nat.zero_add]
  · by_cases within : i < offset + bytes.size
    · rw [if_pos within, if_neg before, if_pos ⟨by omega, within⟩]
    · have other : ¬ (offset ≤ i ∧ i < offset + bytes.size) := fun covered => within covered.2
      rw [if_neg within, if_neg other,
        show offset + bytes.size + (i - (offset + bytes.size)) = i by omega]
      split
      · rfl
      · exact (Array.getElem?_eq_none (by rw [ByteArray.size_data]; omega)).symm

/-- A part of some bytes in a page: the page starts at `first` and the bytes at `start`, and their part
goes from one place to another. -/
theorem getElem?_patch_extract (page : Page) (bytes : ByteArray) {first start low high : Nat}
    (inPage : first ≤ low) (inBytes : start ≤ low) (ordered : low ≤ high)
    (endsInPage : high ≤ first + page.size) (endsInBytes : high ≤ start + bytes.size) (i : Nat) :
    (page.patch (low - first) (bytes.extract (low - start) (high - start))).data[i]?
      = if low ≤ first + i ∧ first + i < high then bytes.data[first + i - start]?
        else page.data[i]? := by
  have size : (bytes.extract (low - start) (high - start)).size = high - low := by
    rw [ByteArray.size_extract]
    omega
  rw [getElem?_patch page (by omega), size, ByteArray.data_extract, Array.getElem?_extract,
    ByteArray.size_data]
  by_cases covered : low ≤ first + i ∧ first + i < high
  · rw [if_pos covered, if_pos (by omega), if_pos (by omega)]
    congr 1
    omega
  · rw [if_neg covered, if_neg (by omega)]

end Page

namespace Content

/-! ### Pages of a content -/

/-- A content whose pages have all their bytes. -/
def Whole (content : Content) : Prop := ∀ number, (content.page number).size = pageBytes

/-- The byte at a place. -/
def byteAt (content : Content) (place : Nat) : UInt8 :=
  ((content.page (place / pageBytes)).data[place % pageBytes]?).getD 0

theorem whole_fresh (size : Nat) : Whole { size } := by
  intro number
  rw [page, Std.HashMap.getElem?_empty]
  exact Page.size_zeros

theorem byteAt_fresh (size place : Nat) : byteAt { size } place = 0 := by
  rw [byteAt, page, Std.HashMap.getElem?_empty]
  exact Page.getElem?_zeros _

theorem page_patch (content : Content) (changed offset : Nat) (bytes : ByteArray) (number : Nat) :
    (content.patch changed offset bytes).page number
      = if changed = number then (content.page number).patch offset bytes
        else content.page number := by
  rw [page, patch]
  simp only [Std.HashMap.getElem?_alter, beq_iff_eq]
  split
  · next same =>
    subst same
    rfl
  · rfl

/-- Pages that follow each other are patched one by one. -/
theorem page_foldl_patch (content : Content) (first count : Nat) (offset : Nat → Nat)
    (bytes : Nat → ByteArray) (number : Nat) :
    ((List.range count).foldl
        (fun content i => content.patch (first + i) (offset i) (bytes i)) content).page number
      = if first ≤ number ∧ number < first + count
        then (content.page number).patch (offset (number - first)) (bytes (number - first))
        else content.page number := by
  induction count with
  | zero => rw [if_neg (by omega)]; rfl
  | succ count ih =>
    rw [List.range_succ, List.foldl_append, List.foldl_cons, List.foldl_nil, page_patch, ih]
    by_cases last : first + count = number
    · subst last
      rw [if_pos rfl, if_neg (by omega), if_pos (by omega), Nat.add_sub_cancel_left]
    · rw [if_neg last]
      by_cases before : first ≤ number ∧ number < first + count
      · rw [if_pos before, if_pos (by omega)]
      · rw [if_neg before, if_neg (by omega)]

/-! ### Putting bytes -/

section Putting

variable (content : Content) (start : Nat) (bytes : ByteArray)

/-- Where a page gets bytes, and which ones. -/
theorem page_put (notEmpty : bytes.size ≠ 0) (number : Nat) :
    (content.put start bytes).page number
      = let from_ := max start (number * pageBytes)
        let upto := min (start + bytes.size) ((number + 1) * pageBytes)
        if from_ < upto then (content.page number).patch (from_ - number * pageBytes)
          (bytes.extract (from_ - start) (upto - start))
        else content.page number := by
  rw [put, pieces]
  dsimp only
  rw [if_neg notEmpty, List.foldl_map, page_foldl_patch]
  have size : pageBytes = 4096 := rfl
  by_cases touched : max start (number * pageBytes)
      < min (start + bytes.size) ((number + 1) * pageBytes)
  · have at_ : start / pageBytes + (number - start / pageBytes) = number := by
      rw [size] at touched ⊢
      omega
    rw [if_pos touched, if_pos (by rw [size] at touched ⊢; omega), at_]
    dsimp only
    congr 2
    · omega
    · omega
  · rw [if_neg touched, if_neg (by rw [size] at touched ⊢; omega)]

theorem put_of_empty (empty : bytes.size = 0) : content.put start bytes = content := by
  rw [put, pieces]
  dsimp only
  rw [if_pos empty]
  rfl

variable {content}

theorem Whole.put (whole : content.Whole) : (content.put start bytes).Whole := by
  intro number
  by_cases empty : bytes.size = 0
  · rw [put_of_empty content start bytes empty]
    exact whole number
  · rw [page_put content start bytes empty]
    dsimp only
    split
    · next touched =>
      rw [Page.size_patch, whole]
      rw [whole, ByteArray.size_extract]
      rw [pageBytes_eq] at touched ⊢
      omega
    · exact whole number

/-- **What putting bytes changes**: the places that they take, and no other. -/
theorem Whole.byteAt_put (whole : content.Whole) (place : Nat) :
    (content.put start bytes).byteAt place
      = ((Extent.mk start bytes.data).byteAt? place).getD (content.byteAt place) := by
  have here : place / pageBytes * pageBytes + place % pageBytes = place :=
    Nat.div_add_mod' place pageBytes
  have within : place % pageBytes < pageBytes := Nat.mod_lt _ (by decide)
  have nextPage : (place / pageBytes + 1) * pageBytes = place / pageBytes * pageBytes + pageBytes :=
    Nat.succ_mul ..
  by_cases covered : start ≤ place ∧ place < start + bytes.size
  · have inside : place - start < bytes.data.size := by
      rw [ByteArray.size_data]
      omega
    have held : (Extent.mk start bytes.data).byteAt? place = bytes.data[place - start]? :=
      if_neg (Nat.not_lt.mpr covered.1)
    rw [byteAt, page_put content start bytes (by omega), held]
    dsimp only
    rw [if_pos (by omega), Page.getElem?_patch_extract _ _ (by omega) (by omega) (by omega)
      (by rw [whole]; omega) (by omega), here, if_pos (by omega), Array.getElem?_eq_getElem inside]
    rfl
  · have nothing : (Extent.mk start bytes.data).byteAt? place = none :=
      (Extent.byteAt?_eq_none_iff _ _).mpr (by show place < start ∨ start + bytes.size ≤ place; omega)
    rw [nothing, Option.getD_none]
    by_cases empty : bytes.size = 0
    · rw [put_of_empty content start bytes empty]
    · rw [byteAt, page_put content start bytes empty]
      dsimp only
      split
      · rw [Page.getElem?_patch_extract _ _ (by omega) (by omega) (by omega) (by rw [whole]; omega)
          (by omega), here, if_neg (by omega)]
        rfl
      · rfl

end Putting

/-! ### Files -/

theorem size_put (content : Content) (start : Nat) (bytes : ByteArray) :
    (content.put start bytes).size = content.size := by
  rw [put]
  generalize pieces start bytes.size = parts
  induction parts generalizing content with
  | nil => rfl
  | cons part parts ih => exact ih _

/-- Extents are put one on the other, the latest last. -/
theorem ofFile_extents (size : Nat) (extents : List Extent) :
    (ofFile ⟨size, extents⟩).size = size ∧ (ofFile ⟨size, extents⟩).Whole
      ∧ ∀ place, (ofFile ⟨size, extents⟩).byteAt place
        = (extents.findSome? (·.byteAt? place)).getD 0 := by
  induction extents with
  | nil => exact ⟨rfl, whole_fresh size, byteAt_fresh size⟩
  | cons extent extents ih =>
    obtain ⟨sameSize, whole, held⟩ := ih
    have last : ofFile ⟨size, extent :: extents⟩
        = (ofFile ⟨size, extents⟩).put extent.start ⟨extent.bytes⟩ := rfl
    rw [last]
    refine ⟨(size_put ..).trans sameSize, whole.put _ _, fun place => ?_⟩
    rw [whole.byteAt_put, held, List.findSome?_cons]
    cases extent.byteAt? place with
    | none => rfl
    | some byte => rfl

theorem size_ofFile (file : ByteFile) : (ofFile file).size = file.size :=
  (ofFile_extents file.size file.extents).1

theorem whole_ofFile (file : ByteFile) : (ofFile file).Whole :=
  (ofFile_extents file.size file.extents).2.1

/-- **The pages of a file hold what the file holds.** -/
theorem byteAt_ofFile (file : ByteFile) {place : Nat} (inside : place < file.size) :
    (ofFile file).byteAt place = file.byteAt place := by
  rw [ByteFile.byteAt, if_pos inside]
  exact (ofFile_extents file.size file.extents).2.2 place

/-! ### Reading -/

theorem copySlice_end (source bytes : ByteArray) (offset count : Nat) :
    (source.copySlice offset bytes bytes.size count).data.toList
      = bytes.data.toList ++ (source.extract offset (offset + count)).data.toList := by
  have whole : bytes.data.extract 0 bytes.size = bytes.data := Array.extract_size
  have nothing (more : Nat) : bytes.data.extract (bytes.size + more) bytes.data.size = #[] :=
    Array.extract_eq_empty_of_le (by rw [ByteArray.size_data]; omega)
  rw [ByteArray.copySlice_eq_append]
  simp only [ByteArray.data_append, ByteArray.data_extract, whole, nothing, Array.append_empty,
    Array.toList_append]

/-- Bytes of a page from an offset on. -/
theorem Whole.toList_extract {content : Content} (whole : content.Whole) (number : Nat)
    {offset count : Nat} (fits : offset + count ≤ pageBytes) :
    ((content.page number).extract offset (offset + count)).data.toList
      = (List.range count).map fun i => content.byteAt (number * pageBytes + offset + i) := by
  refine List.ext_getElem? fun i => ?_
  rw [ByteArray.data_extract, Array.getElem?_toList, Array.getElem?_extract, ByteArray.size_data,
    whole, List.getElem?_map]
  by_cases inside : i < count
  · have page : (number * pageBytes + offset + i) / pageBytes = number := by
      rw [pageBytes_eq] at fits ⊢
      omega
    have place : (number * pageBytes + offset + i) % pageBytes = offset + i := by
      rw [pageBytes_eq] at fits ⊢
      omega
    have within : offset + i < (content.page number).data.size := by
      rw [ByteArray.size_data, whole]
      omega
    rw [if_pos (by omega), List.getElem?_range inside, Option.map_some, byteAt, page, place,
      Array.getElem?_eq_getElem within, Option.getD_some]
  · rw [if_neg (by omega), List.getElem?_eq_none (by rw [List.length_range]; omega), Option.map_none]

/-- The bytes of some pages that follow each other, from the one with the first byte on: all up to the end
of the last of these pages. -/
theorem Whole.toList_foldl_copySlice {content : Content} (whole : content.Whole)
    {start count pages : Nat}
    (enough : start / pageBytes + pages ≤ (start + count + pageBytes - 1) / pageBytes) :
    ((List.range pages).foldl (fun bytes i =>
      (content.page (start / pageBytes + i)).copySlice
        (max start ((start / pageBytes + i) * pageBytes) - (start / pageBytes + i) * pageBytes)
        bytes bytes.size
        (min (start + count) ((start / pageBytes + i + 1) * pageBytes)
          - max start ((start / pageBytes + i) * pageBytes))) ByteArray.empty).data.toList
      = (List.range (min (start + count) ((start / pageBytes + pages) * pageBytes) - start)).map
          fun i => content.byteAt (start + i) := by
  induction pages with
  | zero =>
    rw [Nat.sub_eq_zero_of_le (by rw [pageBytes_eq]; omega)]
    rfl
  | succ pages ih =>
    have reached : (start / pageBytes + pages) * pageBytes < start + count := by
      rw [pageBytes_eq] at enough ⊢
      omega
    have next : (start / pageBytes + pages + 1) * pageBytes
        = (start / pageBytes + pages) * pageBytes + pageBytes := Nat.succ_mul ..
    have started : start < (start / pageBytes + pages) * pageBytes + pageBytes := by
      rw [pageBytes_eq]
      omega
    rw [List.range_succ, List.foldl_append, List.foldl_cons, List.foldl_nil, copySlice_end,
      ih (by omega), whole.toList_extract _ (by rw [next]; omega), ← Nat.add_assoc, next]
    generalize (start / pageBytes + pages) * pageBytes = here at *
    have whole : min (start + count) (here + pageBytes) - start
        = (min (start + count) here - start)
          + (min (start + count) (here + pageBytes) - max start here) := by omega
    rw [whole, List.range_add, List.map_append, List.map_map]
    congr 1
    refine List.map_congr_left fun i _ => congrArg content.byteAt ?_
    show here + (max start here - here) + i = start + (min (start + count) here - start + i)
    omega

/-- **Reading goes through the pages without a gap.** -/
theorem Whole.toList_read {content : Content} (whole : content.Whole) (start length : Nat) :
    (content.read start length).toList
      = (List.range (min length (content.size - start))).map fun i => content.byteAt (start + i) := by
  rw [toList_eq_data, read, pieces]
  generalize min length (content.size - start) = count
  dsimp only
  by_cases empty : count = 0
  · rw [if_pos empty, empty]
    rfl
  · have all : start / pageBytes + ((start + count + pageBytes - 1) / pageBytes - start / pageBytes)
        = (start + count + pageBytes - 1) / pageBytes := by
      rw [pageBytes_eq]
      omega
    rw [if_neg empty, List.foldl_map, whole.toList_foldl_copySlice (Nat.le_of_eq all), all]
    congr 2
    rw [pageBytes_eq]
    omega

/-- **What is read from the pages of a file is what can be read from the file.** -/
theorem toList_read_ofFile (file : ByteFile) (start length : Nat) :
    ((ofFile file).read start length).toList = file.read start length := by
  rw [(whole_ofFile file).toList_read, size_ofFile, ByteFile.read]
  refine List.map_congr_left fun i inside => ?_
  rw [List.mem_range] at inside
  exact byteAt_ofFile file (by omega)

end Content

end StaticElf.Linux
