import Tenancy.Text.Base64Url

/-! Bytes come back from the text they are written as, which has letters of the alphabet only, and
from no other text. -/

namespace Tenancy.Text.Base64Url

/-! ## Letters -/

theorem value?_letter {value : Nat} (small : value < 64) : value? (letter value) = some value := by
  have all : ∀ value : Fin 64, value? (letter value) = some value.val := by decide +kernel
  exact all ⟨value, small⟩

theorem letter_mem (value : Nat) : letter value ∈ alphabet := by
  rw [letter, List.getD_eq_getElem?_getD]
  cases found : alphabet[value]? with
  | none => exact (by decide : 'A' ∈ alphabet)
  | some character => exact List.mem_of_getElem? found

/-! ## Bytes -/

section

variable (first second third : UInt8)

theorem byte_of_first (tail : Nat) (small : tail < 16) :
    UInt8.ofNat (first.toNat / 4 * 4 + (first.toNat % 4 * 16 + tail) / 16) = first := by
  have value : first.toNat / 4 * 4 + (first.toNat % 4 * 16 + tail) / 16 = first.toNat := by omega
  rw [value, UInt8.ofNat_toNat]

theorem byte_of_second (tail : Nat) (small : tail < 4) :
    UInt8.ofNat ((first.toNat % 4 * 16 + second.toNat / 16) % 16 * 16 +
      (second.toNat % 16 * 4 + tail) / 4) = second := by
  have bound : second.toNat < 256 := second.toNat_lt
  have value : (first.toNat % 4 * 16 + second.toNat / 16) % 16 * 16 +
      (second.toNat % 16 * 4 + tail) / 4 = second.toNat := by omega
  rw [value, UInt8.ofNat_toNat]

theorem byte_of_third :
    UInt8.ofNat ((second.toNat % 16 * 4 + third.toNat / 64) % 4 * 64 + third.toNat % 64) =
      third := by
  have bound : third.toNat < 256 := third.toNat_lt
  have value : (second.toNat % 16 * 4 + third.toNat / 64) % 4 * 64 + third.toNat % 64 =
      third.toNat := by omega
  rw [value, UInt8.ofNat_toNat]

theorem sextets_lt :
    first.toNat / 4 < 64 ∧ first.toNat % 4 * 16 + second.toNat / 16 < 64 ∧
      second.toNat % 16 * 4 + third.toNat / 64 < 64 ∧ third.toNat % 64 < 64 := by
  have first := first.toNat_lt
  have second := second.toNat_lt
  have third := third.toNat_lt
  omega

end

theorem decode?_encode (bytes : List UInt8) : decode? (encode bytes) = some bytes := by
  induction bytes using encode.induct with
  | case1 => rfl
  | case2 first =>
      rcases sextets_lt first 0 0 with ⟨one, two, -, -⟩
      have byte := byte_of_first first 0 (by omega)
      simp only [UInt8.toNat_zero, Nat.zero_div, Nat.add_zero] at two byte
      have whole : first.toNat % 4 * 16 % 16 = 0 := by omega
      simp only [encode, decode?, value?_letter one, value?_letter two, Option.bind_eq_bind,
        Option.bind_some, whole, if_true, byte]
  | case3 first second =>
      rcases sextets_lt first second 0 with ⟨one, two, three, -⟩
      have byte := byte_of_first first (second.toNat / 16) (by have := second.toNat_lt; omega)
      have next := byte_of_second first second 0 (by omega)
      simp only [UInt8.toNat_zero, Nat.zero_div, Nat.add_zero] at three next
      have whole : second.toNat % 16 * 4 % 4 = 0 := by omega
      simp only [encode, decode?, value?_letter one, value?_letter two, value?_letter three,
        Option.bind_eq_bind, Option.bind_some, whole, if_true, byte, next]
  | case4 first second third rest same =>
      rcases sextets_lt first second third with ⟨one, two, three, four⟩
      have byte := byte_of_first first (second.toNat / 16) (by have := second.toNat_lt; omega)
      have next := byte_of_second first second (third.toNat / 64)
        (by have := third.toNat_lt; omega)
      simp only [encode, decode?, value?_letter one, value?_letter two, value?_letter three,
        value?_letter four, Option.bind_eq_bind, Option.bind_some, same, byte, next,
        byte_of_third]

theorem mem_alphabet_of_mem_encode {bytes : List UInt8} {character : Char}
    (member : character ∈ encode bytes) : character ∈ alphabet := by
  induction bytes using encode.induct with
  | case1 => exact absurd member List.not_mem_nil
  | case2 first =>
      simp only [encode, List.mem_cons, List.not_mem_nil, or_false] at member
      rcases member with rfl | rfl <;> exact letter_mem _
  | case3 first second =>
      simp only [encode, List.mem_cons, List.not_mem_nil, or_false] at member
      rcases member with rfl | rfl | rfl <;> exact letter_mem _
  | case4 first second third rest inside =>
      simp only [encode, List.mem_cons] at member
      rcases member with rfl | rfl | rfl | rfl | member
      · exact letter_mem _
      · exact letter_mem _
      · exact letter_mem _
      · exact letter_mem _
      · exact inside member

theorem dot_not_mem_encode (bytes : List UInt8) : '.' ∉ encode bytes :=
  fun member => absurd (mem_alphabet_of_mem_encode member) (by decide)

/-! ## Text that is read

Bytes are read from no other text than the one they are written as: the bits that no byte fills have
to be zeros. -/

theorem letter_of_value? {character : Char} {value : Nat} (read : value? character = some value) :
    value < 64 ∧ letter value = character := by
  rcases List.findIdx?_eq_some_iff_getElem.mp read with ⟨small, same, -⟩
  refine ⟨small, ?_⟩
  rw [letter, List.getD_eq_getElem?_getD, List.getElem?_eq_getElem small]
  exact eq_of_beq same

section

variable {one two three four : Nat}

theorem toNat_first (first : one < 64) (second : two < 64) :
    (UInt8.ofNat (one * 4 + two / 16)).toNat = one * 4 + two / 16 :=
  UInt8.toNat_ofNat_of_lt' (show _ < 256 by omega)

theorem toNat_second (third : three < 64) :
    (UInt8.ofNat (two % 16 * 16 + three / 4)).toNat = two % 16 * 16 + three / 4 :=
  UInt8.toNat_ofNat_of_lt' (show _ < 256 by omega)

theorem toNat_third (fourth : four < 64) :
    (UInt8.ofNat (three % 4 * 64 + four)).toNat = three % 4 * 64 + four :=
  UInt8.toNat_ofNat_of_lt' (show _ < 256 by omega)

end

theorem eq_encode_of_decode? {text : List Char} {bytes : List UInt8}
    (read : decode? text = some bytes) : text = encode bytes := by
  induction text using decode?.induct generalizing bytes with
  | case1 =>
      cases read
      rfl
  | case2 => cases read
  | case3 first second =>
      rcases Option.bind_eq_some_iff.mp read with ⟨one, first, others⟩
      rcases Option.bind_eq_some_iff.mp others with ⟨two, second, written⟩
      rcases letter_of_value? first with ⟨small, rfl⟩
      rcases letter_of_value? second with ⟨next, rfl⟩
      split at written
      · next whole =>
          cases written
          rw [encode, toNat_first small next, show (one * 4 + two / 16) / 4 = one by omega,
            show (one * 4 + two / 16) % 4 * 16 = two by omega]
      · cases written
  | case4 first second third =>
      rcases Option.bind_eq_some_iff.mp read with ⟨one, first, others⟩
      rcases Option.bind_eq_some_iff.mp others with ⟨two, second, others⟩
      rcases Option.bind_eq_some_iff.mp others with ⟨three, third, written⟩
      rcases letter_of_value? first with ⟨small, rfl⟩
      rcases letter_of_value? second with ⟨next, rfl⟩
      rcases letter_of_value? third with ⟨last, rfl⟩
      split at written
      · next whole =>
          cases written
          rw [encode, toNat_first small next, toNat_second last,
            show (one * 4 + two / 16) / 4 = one by omega,
            show (one * 4 + two / 16) % 4 * 16 + (two % 16 * 16 + three / 4) / 16 = two by omega,
            show (two % 16 * 16 + three / 4) % 16 * 4 = three by omega]
      · cases written
  | case5 first second third fourth rest induction =>
      rw [decode?] at read
      rcases Option.bind_eq_some_iff.mp read with ⟨one, first, others⟩
      rcases Option.bind_eq_some_iff.mp others with ⟨two, second, others⟩
      rcases Option.bind_eq_some_iff.mp others with ⟨three, third, others⟩
      rcases Option.bind_eq_some_iff.mp others with ⟨four, fourth, others⟩
      rcases Option.bind_eq_some_iff.mp others with ⟨tail, rest, written⟩
      rcases letter_of_value? first with ⟨small, rfl⟩
      rcases letter_of_value? second with ⟨next, rfl⟩
      rcases letter_of_value? third with ⟨more, rfl⟩
      rcases letter_of_value? fourth with ⟨last, rfl⟩
      cases written
      rw [encode, ← induction rest, toNat_first small next, toNat_second more, toNat_third last,
        show (one * 4 + two / 16) / 4 = one by omega,
        show (one * 4 + two / 16) % 4 * 16 + (two % 16 * 16 + three / 4) / 16 = two by omega,
        show (two % 16 * 16 + three / 4) % 16 * 4 + (three % 4 * 64 + four) / 64 = three by omega,
        show (three % 4 * 64 + four) % 64 = four by omega]

theorem decode?_eq_some_iff {text : List Char} {bytes : List UInt8} :
    decode? text = some bytes ↔ text = encode bytes := by
  constructor
  · exact eq_encode_of_decode?
  · rintro rfl
    exact decode?_encode bytes

end Tenancy.Text.Base64Url
