import Tenancy.Proofs.Json.Scalar

/-! A record comes back from the object written for it: its fields are taken one after the other,
and what has no field is passed over. -/

namespace Tenancy.Json

/-! ## Members -/

/-- A member of an object ends where this follows. -/
def EndsMember (rest : List Char) : Prop :=
  ∃ after, rest = ',' :: after ∨ rest = '\x7d' :: after

theorem EndsMember.endsNumber {rest : List Char} (ends : EndsMember rest) : EndsNumber rest := by
  rcases ends with ⟨after, rfl | rfl⟩
  · exact endsNumber_comma after
  · exact endsNumber_brace after

/-- The members that follow one another up to the closing brace. -/
def followed (members : List (String × List Char)) (rest : List Char) : List Char :=
  members.flatMap (',' :: writeMember ·) ++ '\x7d' :: rest

theorem endsMember_followed (members : List (String × List Char)) (rest : List Char) :
    EndsMember (followed members rest) := by
  cases members with
  | nil => exact ⟨rest, .inr rfl⟩
  | cons member members => exact ⟨_, .inl rfl⟩

theorem length_followed (members : List (String × List Char)) (rest : List Char) :
    members.length < (followed members rest).length := by
  induction members with
  | nil => simp [followed]
  | cons member members longer =>
      have same : followed (member :: members) rest =
          ',' :: writeMember member ++ followed members rest := by
        simp [followed]
      rw [same, List.length_append, List.length_cons, List.length_cons]
      omega

theorem joined_cons (part : List Char) (parts : List (List Char)) :
    joined (part :: parts) = part ++ parts.flatMap (',' :: ·) := by
  induction parts generalizing part with
  | nil => simp [joined]
  | cons next parts same => simp [joined, same]

theorem writeObject_cons (member : String × List Char) (members : List (String × List Char))
    (rest : List Char) :
    writeObject (member :: members) ++ rest =
      '\x7b' :: (writeMember member ++ followed members rest) := by
  rw [writeObject, List.map_cons, joined_cons, followed, List.flatMap_map]
  simp

theorem writeMember_append (key : String) (text rest : List Char) :
    writeMember (key, text) ++ rest =
      '"' :: (key.toList.flatMap escapeChar ++ '"' :: ':' :: (text ++ rest)) := by
  simp [writeMember, writeString]

/-! ## Reading -/

namespace Shape

variable {shape : Shape σ α} {state next final : σ} {key : String} {text rest : List Char}
  {members : List (String × List Char)} {value : α}

@[simp]
theorem nextKey_comma : nextKey false (',' :: '"' :: text) = .ok (some text) := rfl

@[simp]
theorem nextKey_brace (first : Bool) : nextKey first ('\x7d' :: text) = .ok none := rfl

@[simp]
theorem readColon_colon : readColon (':' :: text) = .ok text := rfl

@[simp]
theorem closeMembers_brace : closeMembers ('\x7d' :: text) = .ok text := rfl

/-- The members of a text, taken in from one state of the record to another. -/
inductive Takes (shape : Shape σ α) : σ → List (String × List Char) → σ → Prop
  | nothing {state : σ} : Takes shape state [] state
  | member {state next final : σ} {key : String} {text : List Char}
      {members : List (String × List Char)}
      (reads : ∀ rest, EndsMember rest →
        shape.readMember state key (':' :: (text ++ rest)) = .ok (next, rest))
      (others : Takes shape next members final) : Takes shape state ((key, text) :: members) final

theorem Takes.field {get : σ → Option β} {set : σ → β → σ} {reader : Reader β} {content : β}
    (known : shape.fields.find? (·.key == key) = some (.of key get set reader))
    (free : get state = none)
    (reads : ∀ rest, EndsMember rest → reader (text ++ rest) = .ok (content, rest))
    (others : Takes shape (set state content) members final) :
    Takes shape state ((key, text) :: members) final := by
  refine .member (fun rest ends => ?_) others
  simp only [readMember, known, Field.of, free, Option.isSome_none, Bool.false_eq_true, if_false]
  simp only [readColon_colon, bind, Except.bind, reads rest ends]
  rfl

theorem Takes.unknown (unknown : shape.fields.find? (·.key == key) = none)
    (skips : ∀ rest, EndsMember rest → skipValue (text ++ rest) = .ok ((), rest))
    (others : Takes shape state members final) :
    Takes shape state ((key, text) :: members) final := by
  refine .member (fun rest ends => ?_) others
  simp only [readMember, unknown]
  simp only [readColon_colon, bind, Except.bind, skips rest ends]
  rfl

theorem readMembers_close (first : Bool) (bound : Nat)
    (finished : shape.finish state = some value) :
    shape.readMembers (bound + 1) first state ('\x7d' :: rest) = .ok (value, rest) := by
  simp only [readMembers, nextKey_brace, closeMembers_brace, Shape.finished, finished]
  rfl

theorem readMembers_followed (takes : Takes shape state members final)
    (finished : shape.finish final = some value) {bound : Nat} (enough : members.length < bound) :
    shape.readMembers bound false state (followed members rest) = .ok (value, rest) := by
  induction takes generalizing bound with
  | nothing =>
      cases bound with
      | zero => exact absurd enough (Nat.not_lt_zero _)
      | succ bound => exact readMembers_close false bound finished
  | @member state next final key text members reads others follows =>
      cases bound with
      | zero => exact absurd enough (Nat.not_lt_zero _)
      | succ bound =>
          have split : followed ((key, text) :: members) rest =
              ',' :: (writeMember (key, text) ++ followed members rest) := by
            simp [followed]
          have member := reads (followed members rest) (endsMember_followed members rest)
          rw [split, writeMember_append, readMembers]
          simp only [nextKey_comma, bind, Except.bind, readChars_flatMap, String.ofList_toList,
            member]
          exact follows finished (Nat.lt_of_succ_lt_succ enough)

/-- Before the first member no comma is due. -/
theorem readMembers_first (bound : Nat) :
    shape.readMembers bound true state ('"' :: text) =
      shape.readMembers bound false state (',' :: '"' :: text) := by
  cases bound <;> rfl

theorem read_writeObject (takes : Takes shape shape.blank members final)
    (finished : shape.finish final = some value) (rest : List Char) :
    shape.read (writeObject members ++ rest) = .ok (value, rest) := by
  cases members with
  | nil =>
      cases takes
      exact readMembers_close true _ finished
  | cons member members =>
      have split : writeMember member ++ followed members rest =
          '"' :: (member.1.toList.flatMap escapeChar ++ '"' :: ':' ::
            (member.2 ++ followed members rest)) :=
        writeMember_append member.1 member.2 _
      have whole : ',' :: (writeMember member ++ followed members rest) =
          followed (member :: members) rest := by
        simp [followed]
      have enough := length_followed (member :: members) rest
      rw [← whole, List.length_cons] at enough
      rw [writeObject_cons, read, skipSpace_cons rfl, split]
      simp only
      rw [readMembers_first, ← split, whole]
      exact readMembers_followed takes finished enough

end Shape

end Tenancy.Json
