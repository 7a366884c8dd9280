/-
**Which layouts are accepted, in numbers.**

* `Layout.Accepted` — the conditions over the natural numbers.
* `Layout.demands`, `Layout.settles_check` — the same conditions in the order of the check, which tells
  the first that is not met.
* `Layout.check_eq_ok_iff` — the check accepts exactly the layouts that meet them.
* `Layout.Accepted.mod_page` — a layout that is aligned to pages.
* `Layout.Accepted.toNat_codeCapacity`, `Layout.Accepted.le_codeCapacity_iff` — how much code fits before
  the data; in an accepted layout no difference wraps.
* `Layout.check_capacity_exact` — both together, for every layout.
-/

import StaticElf.Layout
import StaticElf.Proofs.Demands
import StaticElf.Theory.Words

namespace StaticElf.Layout

/-- **What is asked of a layout**, in numbers. -/
structure Accepted (layout : Layout) : Prop where
  powerOfTwo : layout.align.toNat.isPowerOfTwo
  aligned : ∀ placement ∈ layout.placements, layout.align.toNat ∣ placement.2.toNat
  behindStart : 0 < layout.codeOffset.toNat
  inFile : layout.codeOffset.toNat < layout.dataOffset.toNat
  inMemory : layout.codeAddress.toNat < layout.dataAddress.toNat

/-- The check of a layout as a chain of guards. -/
theorem check_eq (layout : Layout) :
    layout.check =
      if layout.align = 0 || layout.align &&& (layout.align - 1) != 0 then
        .error (.notPowerOfTwo layout.align)
      else layout.placements.forM (fun (field, value) =>
          if value % layout.align = 0 then .ok ()
          else .error (.misaligned field value layout.align)) >>= fun _ =>
        if layout.codeOffset = 0 then .error .codeAtStart
        else if layout.dataOffset ≤ layout.codeOffset || layout.dataAddress ≤ layout.codeAddress then
          .error (.dataNotBehindCode layout)
        else .ok () := rfl

/-- What is asked of a layout, in the order of its check. -/
def demands (layout : Layout) : List (Demand LayoutError) :=
  ⟨layout.align.toNat.isPowerOfTwo, .notPowerOfTwo layout.align⟩
    :: (layout.placements.flatMap (fun (field, value) =>
        [⟨layout.align.toNat ∣ value.toNat, .misaligned field value layout.align⟩]) ++ [
      ⟨0 < layout.codeOffset.toNat, .codeAtStart⟩,
      ⟨layout.codeOffset.toNat < layout.dataOffset.toNat
          ∧ layout.codeAddress.toNat < layout.dataAddress.toNat,
        .dataNotBehindCode layout⟩])

theorem accepted_iff (layout : Layout) :
    layout.Accepted ↔ ∀ demand ∈ layout.demands, demand.met := by
  rw [demands, List.forall_mem_cons, List.forall_mem_append, List.forall_mem_flatMap]
  simp only [List.forall_mem_cons, List.not_mem_nil, IsEmpty.forall_iff, implies_true, and_true]
  constructor
  · rintro ⟨powerOfTwo, aligned, behindStart, inFile, inMemory⟩
    exact ⟨powerOfTwo, aligned, behindStart, inFile, inMemory⟩
  · rintro ⟨powerOfTwo, aligned, behindStart, inFile, inMemory⟩
    exact ⟨powerOfTwo, aligned, behindStart, inFile, inMemory⟩

/-- **The check of a layout tells the first condition that is not met.** -/
theorem settles_check (layout : Layout) : Settles layout.demands layout.check := by
  rw [check_eq]
  refine .guard ?_ fun _ => .bind (.forM fun (field, value) _ => ?_) fun _ _ =>
    .guard ?_ fun _ => .guard ?_ fun _ => .ok ()
  · rw [← isPowerOfTwo_iff, not_not]
  · show Settles [_] (if value % layout.align = 0 then _ else _)
    rw [← ite_not]
    exact .guard (not_congr (mod_eq_zero_iff value layout.align)) fun _ => .ok ()
  · rw [← UInt64.toNat_inj, UInt64.toNat_zero]
    omega
  · rw [Bool.or_eq_true, decide_eq_true_eq, decide_eq_true_eq, UInt64.le_iff_toNat_le,
      UInt64.le_iff_toNat_le]
    omega

/-- **A layout is accepted exactly when it meets the conditions.** -/
theorem check_eq_ok_iff (layout : Layout) : layout.check = .ok () ↔ layout.Accepted :=
  layout.settles_check.eq_ok_iff.trans layout.accepted_iff.symm

/-- In a layout that is aligned to pages every placement begins a page. -/
theorem Accepted.mod_page {layout : Layout} (accepted : layout.Accepted)
    (paged : 0x1000 ∣ layout.align.toNat) :
    layout.codeOffset.toNat % 0x1000 = 0 ∧ layout.codeAddress.toNat % 0x1000 = 0
      ∧ layout.dataOffset.toNat % 0x1000 = 0 ∧ layout.dataAddress.toNat % 0x1000 = 0 := by
  have aligned := accepted.aligned
  simp only [placements, List.forall_mem_cons] at aligned
  obtain ⟨codeOffset, codeAddress, dataOffset, dataAddress, -⟩ := aligned
  exact ⟨Nat.mod_eq_zero_of_dvd (Nat.dvd_trans paged codeOffset),
    Nat.mod_eq_zero_of_dvd (Nat.dvd_trans paged codeAddress),
    Nat.mod_eq_zero_of_dvd (Nat.dvd_trans paged dataOffset),
    Nat.mod_eq_zero_of_dvd (Nat.dvd_trans paged dataAddress)⟩

/-- **The room before the data** in an accepted layout, where no difference of words wraps. -/
theorem Accepted.toNat_codeCapacity {layout : Layout} (accepted : layout.Accepted) :
    layout.codeCapacity.toNat
      = min (layout.dataOffset.toNat - layout.codeOffset.toNat)
        (layout.dataAddress.toNat - layout.codeAddress.toNat) := by
  have fileRoom : (layout.dataOffset - layout.codeOffset).toNat
      = layout.dataOffset.toNat - layout.codeOffset.toNat :=
    UInt64.toNat_sub_of_le _ _ (UInt64.le_iff_toNat_le.mpr (Nat.le_of_lt accepted.inFile))
  have memoryRoom : (layout.dataAddress - layout.codeAddress).toNat
      = layout.dataAddress.toNat - layout.codeAddress.toNat :=
    UInt64.toNat_sub_of_le _ _ (UInt64.le_iff_toNat_le.mpr (Nat.le_of_lt accepted.inMemory))
  rw [← fileRoom, ← memoryRoom, Nat.min_def]
  show UInt64.toNat (if _ ≤ _ then _ else _) = _
  rw [apply_ite UInt64.toNat]
  simp only [UInt64.le_iff_toNat_le]

/-- **What fits before the data** in an accepted layout. -/
theorem Accepted.le_codeCapacity_iff {layout : Layout} (accepted : layout.Accepted) (size : Nat) :
    size ≤ layout.codeCapacity.toNat
      ↔ layout.codeOffset.toNat + size ≤ layout.dataOffset.toNat
        ∧ layout.codeAddress.toNat + size ≤ layout.dataAddress.toNat := by
  have inFile := accepted.inFile
  have inMemory := accepted.inMemory
  rw [accepted.toNat_codeCapacity]
  omega

/-- **There is room for code** in an accepted layout, as many times the alignment as fit. -/
theorem Accepted.codeCapacity_multiple {layout : Layout} (accepted : layout.Accepted) :
    0 < layout.codeCapacity.toNat ∧ layout.align.toNat ∣ layout.codeCapacity.toNat := by
  have inFile := accepted.inFile
  have inMemory := accepted.inMemory
  have aligned := accepted.aligned
  simp only [placements, List.forall_mem_cons] at aligned
  obtain ⟨codeOffset, codeAddress, dataOffset, dataAddress, -⟩ := aligned
  rw [accepted.toNat_codeCapacity]
  refine ⟨by omega, ?_⟩
  rcases Nat.le_total (layout.dataOffset.toNat - layout.codeOffset.toNat)
      (layout.dataAddress.toNat - layout.codeAddress.toNat) with less | less
  · rw [Nat.min_eq_left less]
    exact Nat.dvd_sub dataOffset codeOffset
  · rw [Nat.min_eq_right less]
    exact Nat.dvd_sub dataAddress codeAddress

/-- **The check of a layout and its room for code, in numbers.** The check accepts exactly the layouts
whose alignment is a power of two that divides all four placements, whose code does not start the file,
and whose data lies behind the code. In these the capacity is the lesser of the two distances, none of
which wraps; it is a positive multiple of the alignment, and exactly the code up to that size ends before
the data begins. -/
theorem check_capacity_exact (layout : Layout) :
    (layout.check = .ok ()
        ↔ (∃ k < 64, layout.align.toNat = 2 ^ k)
          ∧ layout.align.toNat ∣ layout.codeOffset.toNat
          ∧ layout.align.toNat ∣ layout.codeAddress.toNat
          ∧ layout.align.toNat ∣ layout.dataOffset.toNat
          ∧ layout.align.toNat ∣ layout.dataAddress.toNat
          ∧ 0 < layout.codeOffset.toNat
          ∧ layout.codeOffset.toNat < layout.dataOffset.toNat
          ∧ layout.codeAddress.toNat < layout.dataAddress.toNat)
      ∧ (layout.check = .ok () →
        (layout.codeCapacity.toNat : Int)
            = min ((layout.dataOffset.toNat : Int) - layout.codeOffset.toNat)
              ((layout.dataAddress.toNat : Int) - layout.codeAddress.toNat)
          ∧ 0 < layout.codeCapacity.toNat
          ∧ layout.align.toNat ∣ layout.codeCapacity.toNat
          ∧ ∀ size : Nat, size ≤ layout.codeCapacity.toNat
            ↔ layout.codeOffset.toNat + size ≤ layout.dataOffset.toNat
              ∧ layout.codeAddress.toNat + size ≤ layout.dataAddress.toNat) := by
  rw [check_eq_ok_iff]
  refine ⟨⟨fun accepted => ?_, ?_⟩, fun accepted => ?_⟩
  · have aligned := accepted.aligned
    simp only [placements, List.forall_mem_cons] at aligned
    obtain ⟨codeOffset, codeAddress, dataOffset, dataAddress, -⟩ := aligned
    exact ⟨exists_exponent_lt accepted.powerOfTwo, codeOffset, codeAddress, dataOffset, dataAddress,
      accepted.behindStart, accepted.inFile, accepted.inMemory⟩
  · rintro ⟨⟨k, -, power⟩, codeOffset, codeAddress, dataOffset, dataAddress, behindStart, inFile,
      inMemory⟩
    refine ⟨⟨k, power⟩, ?_, behindStart, inFile, inMemory⟩
    simp only [placements, List.forall_mem_cons]
    exact ⟨codeOffset, codeAddress, dataOffset, dataAddress, nofun⟩
  · obtain ⟨positive, multiple⟩ := accepted.codeCapacity_multiple
    have inFile := accepted.inFile
    have inMemory := accepted.inMemory
    refine ⟨?_, positive, multiple, accepted.le_codeCapacity_iff⟩
    rw [accepted.toNat_codeCapacity]
    omega

/-- Code from the second byte of the file on, and data at the very end of file and memory. -/
theorem check_capacity_exact_widest :
    let widest : Layout := ⟨1, 0, 0xffffffffffffffff, 0xffffffffffffffff, 1⟩
    widest.check = .ok () ∧ widest.codeCapacity.toNat = 2 ^ 64 - 2
      ∧ ∀ size : Nat, size ≤ widest.codeCapacity.toNat
        ↔ 1 + size ≤ 2 ^ 64 - 1 ∧ 0 + size ≤ 2 ^ 64 - 1 := by
  intro widest
  obtain ⟨accepts, exact⟩ := check_capacity_exact widest
  have accepted : widest.check = .ok () := accepts.mpr
    ⟨⟨0, by decide, by decide⟩, by decide, by decide, by decide, by decide, by decide, by decide,
      by decide⟩
  obtain ⟨-, -, -, fits⟩ := exact accepted
  exact ⟨accepted, by decide, fits⟩

end StaticElf.Layout
