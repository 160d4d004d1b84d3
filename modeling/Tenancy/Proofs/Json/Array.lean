import Tenancy.Json.Codec
import Tenancy.Proofs.Json.Record

/-! A list comes back from the array written for it, and a value from its whole text. -/

namespace Tenancy.Json

/-! ## Items -/

/-- An item that a reader cannot take for a comma or for the end of its array. -/
def StartsItem (text : List Char) : Prop :=
  ∃ first rest, text = first :: rest ∧ isSpace first = false ∧ first ≠ ',' ∧ first ≠ ']'

theorem startsItem_writeObject (members : List (String × List Char)) :
    StartsItem (writeObject members) :=
  ⟨_, _, rfl, rfl, by decide, by decide⟩

theorem nextItem_item {text : List Char} (starts : StartsItem text) (rest : List Char) :
    nextItem true (text ++ rest) = .ok (some (text ++ rest)) ∧
      nextItem false (',' :: (text ++ rest)) = .ok (some (text ++ rest)) := by
  rcases starts with ⟨first, others, rfl, solid, comma, bracket⟩
  rw [List.cons_append]
  constructor
  · rw [nextItem, skipSpace_cons solid]
    split
    · next equal => exact absurd (List.cons.inj equal).1 bracket
    · next equal => exact absurd (List.cons.inj equal).1 comma
    · contradiction
    · rfl
  · rw [nextItem, skipSpace_cons rfl]
    simp only [Bool.false_eq_true, if_false, skipSpace_cons solid]
    split
    · next equal => exact absurd (List.cons.inj equal).1 bracket
    · rfl

variable {codec : Codec α}

/-- The items that follow one another up to the closing bracket. -/
def followedItems (codec : Codec α) (values : List α) (rest : List Char) : List Char :=
  values.flatMap (',' :: codec.write ·) ++ ']' :: rest

theorem length_followedItems (values : List α) (rest : List Char) :
    values.length < (followedItems codec values rest).length := by
  induction values with
  | nil => simp [followedItems]
  | cons value values longer =>
      rw [followedItems, List.flatMap_cons, List.append_assoc, List.length_append, List.length_cons,
        List.length_cons]
      rw [followedItems] at longer
      omega

theorem readItems_followedItems (faithful : codec.Faithful)
    (starts : ∀ value, StartsItem (codec.write value)) (values : List α) (rest : List Char)
    {bound : Nat} (enough : values.length < bound) :
    readItems codec.read bound false (followedItems codec values rest) = .ok (values, rest) := by
  induction values generalizing bound with
  | nil =>
      cases bound with
      | zero => exact absurd enough (Nat.not_lt_zero _)
      | succ bound => rfl
  | cons value values induction =>
      cases bound with
      | zero => exact absurd enough (Nat.not_lt_zero _)
      | succ bound =>
          have split : followedItems codec (value :: values) rest =
              ',' :: (codec.write value ++ followedItems codec values rest) := by
            simp [followedItems]
          rw [split, readItems, (nextItem_item (starts value) _).2]
          simp only [bind, Except.bind, faithful value,
            induction (Nat.lt_of_succ_lt_succ enough)]
          rfl

theorem Codec.list_faithful (faithful : codec.Faithful)
    (starts : ∀ value, StartsItem (codec.write value)) : codec.list.Faithful := by
  intro values rest
  cases values with
  | nil => rfl
  | cons value values =>
      have enough : values.length < (followedItems codec values rest).length :=
        length_followedItems values rest
      have whole : writeArray ((value :: values).map codec.write) ++ rest =
          '[' :: (codec.write value ++ followedItems codec values rest) := by
        rw [writeArray, List.map_cons, joined_cons, followedItems, List.flatMap_map]
        simp
      simp only [list]
      rw [whole, readArray, skipSpace_cons rfl]
      simp only
      rw [readItems, (nextItem_item (starts value) _).1]
      simp only [bind, Except.bind, faithful value]
      rw [readItems_followedItems faithful starts values rest]
      · rfl
      · rw [List.length_append]
        omega

/-! ## Whole texts -/

theorem Codec.decode_encode (faithful : codec.Faithful) (value : α) :
    codec.decode (codec.encode value) = .ok value := by
  have reads := faithful value []
  rw [List.append_nil] at reads
  rw [decode, encode, String.toList_ofList, readAll, reads]
  rfl

end Tenancy.Json
