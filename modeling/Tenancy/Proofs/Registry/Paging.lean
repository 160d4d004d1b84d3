import Mathlib.Data.List.Basic
import Tenancy.Registry.Listing

/-! The pages of a listing. Put end to end, from the first to the last that has any items, they are
the whole of it. -/

namespace Tenancy.Registry

/-- How many pages it takes to show so many items. -/
def pageCount (total size : Nat) : Nat :=
  (total + size - 1) / size

example : pageCount 0 10 = 0 ∧ pageCount 20 10 = 2 ∧ pageCount 21 10 = 3 := by decide

/-- The numbers of the pages, from 1. -/
def pageNumbers (count : Nat) : List UInt32 :=
  (List.range count).map fun index => .ofNat (index + 1)

/-- Where a page begins, counted in 64 bits. -/
def offset (number size : UInt32) : UInt64 :=
  (number.toUInt64 - 1) * size.toUInt64

/-- The count stays in its bits up to the last page of the greatest size. -/
theorem toNat_offset {number : UInt32} (numbered : 0 < number) (size : UInt32) :
    (offset number size).toNat = (number.toNat - 1) * size.toNat := by
  have positive : 1 ≤ number.toNat := UInt32.lt_iff_toNat_lt.mp numbered
  have earlier : number.toNat - 1 ≤ 4294967294 := by
    have small := number.toNat_lt
    omega
  have width : size.toNat ≤ 4294967295 := Nat.le_of_lt_succ size.toNat_lt
  have product : (number.toNat - 1) * size.toNat ≤ 4294967294 * 4294967295 :=
    Nat.mul_le_mul earlier width
  have one : (1 : UInt64).toNat = 1 := rfl
  have atLeast : (1 : UInt64) ≤ number.toUInt64 := by
    rw [UInt64.le_iff_toNat_le, UInt32.toNat_toUInt64, one]
    exact positive
  rw [offset, UInt64.toNat_mul, UInt64.toNat_sub_of_le _ _ atLeast, UInt32.toNat_toUInt64,
    UInt32.toNat_toUInt64, one]
  exact Nat.mod_eq_of_lt (Nat.lt_of_le_of_lt product (by decide))

/-! ## One page -/

theorem length_items (number size : UInt32) (registrations : List Registration) :
    (page number size registrations).items.length =
      min size.toNat (registrations.length - (number.toNat - 1) * size.toNat) := by
  rw [page, List.length_take, List.length_drop]

theorem length_le_pages (total : Nat) {size : Nat} (positive : 0 < size) :
    total ≤ pageCount total size * size := by
  have divided := Nat.div_add_mod (total + size - 1) size
  have rest := Nat.mod_lt (total + size - 1) positive
  rw [Nat.mul_comm] at divided
  unfold pageCount
  omega

/-- Past the last page there is nothing left to show. -/
theorem items_beyond {number size : UInt32} (sized : 0 < size) {registrations : List Registration}
    (beyond : pageCount registrations.length size.toNat < number.toNat) :
    (page number size registrations).items = [] := by
  have positive : 0 < size.toNat := UInt32.lt_iff_toNat_lt.mp sized
  have before : pageCount registrations.length size.toNat * size.toNat ≤
      (number.toNat - 1) * size.toNat :=
    Nat.mul_le_mul_right _ (Nat.le_sub_one_of_lt beyond)
  have shown := length_le_pages registrations.length positive
  rw [page, List.drop_eq_nil_of_le (Nat.le_trans shown before), List.take_nil]

/-! ## All pages -/

theorem pos_of_mem_pageNumbers {count : Nat} (fits : count < UInt32.size) {number : UInt32}
    (member : number ∈ pageNumbers count) : 0 < number := by
  rcases List.mem_map.mp member with ⟨index, inRange, rfl⟩
  have bound : index + 1 < UInt32.size := by
    have below := List.mem_range.mp inRange
    omega
  rw [UInt32.lt_iff_toNat_lt, UInt32.toNat_ofNat_of_lt' bound]
  exact Nat.succ_pos index

theorem checkPage_accepted {number size limit : UInt32} (numbered : 0 < number) (sized : 0 < size)
    (allowed : size ≤ limit) : checkPage number size limit = .ok () := by
  have firstOrLater : ¬number < 1 := by grind
  have someItems : ¬size < 1 := by grind
  have notTooMany : ¬limit < size := by grind
  rw [checkPage, if_neg firstOrLater, if_neg someItems, if_neg notTooMany]

/-- So many pages of a listing show so many of its items. -/
theorem flatMap_pages (count : Nat) (size : UInt32) (registrations : List Registration)
    (fits : count < UInt32.size) :
    (pageNumbers count).flatMap (fun number => (page number size registrations).items) =
      registrations.take (count * size.toNat) := by
  induction count with
  | zero => simp [pageNumbers]
  | succ count induction =>
      have numbered : (UInt32.ofNat (count + 1)).toNat = count + 1 :=
        UInt32.toNat_ofNat_of_lt' fits
      have numbers : pageNumbers (count + 1) = pageNumbers count ++ [.ofNat (count + 1)] := by
        simp [pageNumbers, List.range_succ]
      rw [numbers, List.flatMap_append, induction (by omega), Nat.succ_mul, List.take_add]
      rw [List.flatMap_singleton, page, numbered, Nat.add_sub_cancel]

theorem flatMap_all_pages {size : UInt32} (sized : 0 < size) (registrations : List Registration)
    (fits : pageCount registrations.length size.toNat < UInt32.size) :
    (pageNumbers (pageCount registrations.length size.toNat)).flatMap
      (fun number => (page number size registrations).items) = registrations := by
  have positive : 0 < size.toNat := UInt32.lt_iff_toNat_lt.mp sized
  rw [flatMap_pages _ size registrations fits]
  exact List.take_of_length_le (length_le_pages registrations.length positive)

end Tenancy.Registry
