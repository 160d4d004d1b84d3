import Mathlib.Data.List.Nodup
import Tenancy.Proofs.Instant
import Tenancy.Registry.Listing

/-! The orders of the listings. Records with ids of their own stand in one order only, so what is
listed depends on which records there are, and not on the order they come in. -/

namespace Tenancy.Registry

/-! ## Orders as orders -/

theorem earlier_iff (left right : Registration) :
    earlier left right = true ↔
      left.createdAt.seconds < right.createdAt.seconds ∨
        (left.createdAt.seconds = right.createdAt.seconds ∧
          (left.createdAt.nanos < right.createdAt.nanos ∨
            (left.createdAt.nanos = right.createdAt.nanos ∧ left.id.toInt ≤ right.id.toInt))) := by
  rw [earlier, Instant.compare, Ordering.isLE_then_iff_or, Ordering.then_eq_lt, Ordering.then_eq_eq,
    Int.compare_eq_lt, Int.compare_eq_eq, Nat.compare_eq_lt, Nat.compare_eq_eq, Std.isLE_compare,
    Int64.le_iff_toInt_le]
  tauto

theorem earlier_total (left right : Registration) :
    (earlier left right || earlier right left) = true := by
  rw [Bool.or_eq_true, earlier_iff, earlier_iff]
  omega

theorem earlier_trans (first second third : Registration)
    (before : earlier first second = true) (after : earlier second third = true) :
    earlier first third = true := by
  rw [earlier_iff] at before after ⊢
  omega

theorem id_eq_of_earlier {left right : Registration} (before : earlier left right = true)
    (after : earlier right left = true) : left.id = right.id := by
  rw [earlier_iff] at before after
  apply Int64.toInt_inj.mp
  omega

theorem isLE_compare_id (left right : Registration) :
    (compare left.id right.id).isLE = true ↔ left.id.toInt ≤ right.id.toInt := by
  rw [Std.isLE_compare, Int64.le_iff_toInt_le]

theorem isLE_compare_id_total (left right : Registration) :
    ((compare left.id right.id).isLE || (compare right.id left.id).isLE) = true := by
  rw [Bool.or_eq_true, isLE_compare_id, isLE_compare_id]
  omega

theorem isLE_compare_id_trans (first second third : Registration)
    (before : (compare first.id second.id).isLE = true)
    (after : (compare second.id third.id).isLE = true) :
    (compare first.id third.id).isLE = true := by
  rw [isLE_compare_id] at before after ⊢
  omega

theorem id_eq_of_isLE_compare {left right : Registration}
    (before : (compare left.id right.id).isLE = true)
    (after : (compare right.id left.id).isLE = true) : left.id = right.id := by
  rw [isLE_compare_id] at before after
  apply Int64.toInt_inj.mp
  omega

/-! ## Strictly earlier -/

/-- Registered at an earlier instant, or at the same one under a smaller id. -/
def Precedes (left right : Registration) : Prop :=
  left.createdAt < right.createdAt ∨
    (left.createdAt = right.createdAt ∧ left.id < right.id)

theorem precedes_iff (left right : Registration) :
    Precedes left right ↔
      left.createdAt.seconds < right.createdAt.seconds ∨
        (left.createdAt.seconds = right.createdAt.seconds ∧
          (left.createdAt.nanos < right.createdAt.nanos ∨
            (left.createdAt.nanos = right.createdAt.nanos ∧ left.id.toInt < right.id.toInt))) := by
  rw [Precedes, Instant.lt_iff, Instant.eq_iff, Int64.lt_iff_toInt_lt]
  tauto

/-- The listings order by what is not later. -/
theorem earlier_iff_not_precedes (left right : Registration) :
    earlier left right = true ↔ ¬Precedes right left := by
  rw [earlier_iff, precedes_iff]
  omega

theorem precedes_of_earlier {left right : Registration} (notLater : earlier left right = true)
    (different : left.id ≠ right.id) : Precedes left right := by
  have apart : left.id.toInt ≠ right.id.toInt := fun equal => different (Int64.toInt_inj.mp equal)
  rw [earlier_iff] at notLater
  rw [precedes_iff]
  omega

/-! ## Listings as sets -/

section

variable {left right : List Registration}

/-- An order that tells ids apart lists the same records in the same way. -/
theorem mergeSort_eq_of_perm {order : Registration → Registration → Bool}
    (trans : ∀ first second third, order first second = true → order second third = true →
      order first third = true)
    (total : ∀ first second, (order first second || order second first) = true)
    (antisymm : ∀ first second, order first second = true → order second first = true →
      first.id = second.id)
    (once : (left.map (·.id)).Nodup) (perm : left.Perm right) :
    left.mergeSort order = right.mergeSort order := by
  have both : (left.mergeSort order).Perm (right.mergeSort order) :=
    (List.mergeSort_perm left order).trans (perm.trans (List.mergeSort_perm right order).symm)
  apply List.Perm.eq_of_pairwise _ (List.pairwise_mergeSort trans total left)
    (List.pairwise_mergeSort trans total right) both
  intro first second firstMember secondMember before after
  have firstListed : first ∈ left := List.mem_mergeSort.mp firstMember
  have secondListed : second ∈ left := perm.mem_iff.mpr (List.mem_mergeSort.mp secondMember)
  exact List.inj_on_of_nodup_map once firstListed secondListed (antisymm first second before after)

/-- What is taken out does not change the order of the rest. -/
theorem mergeSort_filter {order : Registration → Registration → Bool}
    (trans : ∀ first second third, order first second = true → order second third = true →
      order first third = true)
    (total : ∀ first second, (order first second || order second first) = true)
    (antisymm : ∀ first second, order first second = true → order second first = true →
      first.id = second.id)
    (once : (left.map (·.id)).Nodup) (test : Registration → Bool) :
    (left.filter test).mergeSort order = (left.mergeSort order).filter test := by
  have perm : (left.filter test).Perm ((left.mergeSort order).filter test) :=
    (List.mergeSort_perm left order).symm.filter test
  have sorted : (left.mergeSort order).Pairwise fun first second => order first second = true :=
    List.pairwise_mergeSort trans total left
  calc (left.filter test).mergeSort order
      = ((left.mergeSort order).filter test).mergeSort order :=
        mergeSort_eq_of_perm trans total antisymm (once.sublist (List.filter_sublist.map _)) perm
    _ = (left.mergeSort order).filter test := List.mergeSort_of_pairwise (sorted.filter test)

theorem oldestFirst_filter (once : (left.map (·.id)).Nodup) (test : Registration → Bool) :
    oldestFirst (left.filter test) = (oldestFirst left).filter test :=
  mergeSort_filter earlier_trans earlier_total (fun _ _ => id_eq_of_earlier) once test

theorem newestFirst_filter (once : (left.map (·.id)).Nodup) (test : Registration → Bool) :
    newestFirst (left.filter test) = (newestFirst left).filter test := by
  apply mergeSort_filter _ _ _ once
  · intro first second third before after
    exact earlier_trans third second first after before
  · intro first second
    exact earlier_total second first
  · intro first second before after
    exact id_eq_of_earlier after before

theorem oldestFirst_eq_of_perm (once : (left.map (·.id)).Nodup) (perm : left.Perm right) :
    oldestFirst left = oldestFirst right :=
  mergeSort_eq_of_perm earlier_trans earlier_total (fun _ _ => id_eq_of_earlier) once perm

theorem newestFirst_eq_of_perm (once : (left.map (·.id)).Nodup) (perm : left.Perm right) :
    newestFirst left = newestFirst right := by
  apply mergeSort_eq_of_perm _ _ _ once perm
  · intro first second third before after
    exact earlier_trans third second first after before
  · intro first second
    exact earlier_total second first
  · intro first second before after
    exact id_eq_of_earlier after before

theorem oldestFirst_precedes (once : (left.map (·.id)).Nodup) :
    (oldestFirst left).Pairwise Precedes := by
  have sorted : (oldestFirst left).Pairwise fun first second => earlier first second = true :=
    List.pairwise_mergeSort earlier_trans earlier_total left
  have apart : (oldestFirst left).Pairwise fun first second => first.id ≠ second.id :=
    List.pairwise_map.mp (((List.mergeSort_perm left earlier).map _).nodup_iff.mpr once)
  exact sorted.imp₂ (fun _ _ => precedes_of_earlier) apart

/-- The one order is the other read backwards. -/
theorem newestFirst_eq_reverse (once : (left.map (·.id)).Nodup) :
    newestFirst left = (oldestFirst left).reverse := by
  have perm : left.Perm (oldestFirst left).reverse :=
    (List.mergeSort_perm left earlier).symm.trans (List.reverse_perm _).symm
  have sorted : (oldestFirst left).reverse.Pairwise fun first second =>
      earlier second first = true :=
    List.pairwise_reverse.mpr (List.pairwise_mergeSort earlier_trans earlier_total left)
  calc newestFirst left
      = newestFirst (oldestFirst left).reverse := newestFirst_eq_of_perm once perm
    _ = (oldestFirst left).reverse := List.mergeSort_of_pairwise sorted

theorem inIdOrder_eq_of_perm (once : (left.map (·.id)).Nodup) (perm : left.Perm right) :
    inIdOrder left = inIdOrder right :=
  mergeSort_eq_of_perm isLE_compare_id_trans isLE_compare_id_total
    (fun _ _ => id_eq_of_isLE_compare) once perm

theorem inIdOrder_filter (once : (left.map (·.id)).Nodup) (test : Registration → Bool) :
    inIdOrder (left.filter test) = (inIdOrder left).filter test :=
  mergeSort_filter isLE_compare_id_trans isLE_compare_id_total
    (fun _ _ => id_eq_of_isLE_compare) once test

end

end Tenancy.Registry
