import Tenancy.Text.Utf8

/-! Text comes back from its bytes, and bytes from the text read in them. -/

namespace Tenancy.Text.Utf8

/-! ## Bytes of one character -/

/-- A byte inside a character that is not its last. -/
theorem scanFrom_inside {bits owed low high value : Nat} {rest : List UInt8}
    (byte : value < 256) (inside : low ≤ value ∧ value ≤ high) (more : owed ≠ 1) :
    scanFrom (.inside bits owed low high) (.ofNat value :: rest) =
      scanFrom (.inside (bits * 64 + value % 64) (owed - 1) 0x80 0xBF) rest := by
  have same : (UInt8.ofNat value).toNat = value := UInt8.toNat_ofNat_of_lt' byte
  simp [scanFrom, same, inside, more]

theorem scanFrom_last {bits low high value : Nat} {rest : List UInt8}
    (byte : value < 256) (inside : low ≤ value ∧ value ≤ high) :
    scanFrom (.inside bits 1 low high) (.ofNat value :: rest) =
      some (Char.ofNat (bits * 64 + value % 64)) :: scanFrom .between rest := by
  have same : (UInt8.ofNat value).toNat = value := UInt8.toNat_ofNat_of_lt' byte
  simp [scanFrom, same, inside]

theorem scanFrom_opens {value : Nat} {state : State} {rest : List UInt8} (byte : value < 256)
    (opens : opening value = .opens state) :
    scanFrom .between (.ofNat value :: rest) = scanFrom state rest := by
  have same : (UInt8.ofNat value).toNat = value := UInt8.toNat_ofNat_of_lt' byte
  simp [scanFrom, same, start, opens]

theorem scanFrom_complete {value : Nat} {rest : List UInt8} (small : value < 0x80) :
    scanFrom .between (.ofNat value :: rest) =
      some (Char.ofNat value) :: scanFrom .between rest := by
  have byte : value < 256 := by omega
  have same : (UInt8.ofNat value).toNat = value := UInt8.toNat_ofNat_of_lt' byte
  simp [scanFrom, same, start, opening, small]

/-! The bounds that the first byte sets on the second keep out the forms that are too long, the
surrogates and what is past the last character. -/

theorem opening_of_two {value : Nat} (large : 0x7F < value) (small : value ≤ 0x7FF) :
    opening (value / 64 % 32 + 0xC0) = .opens (.inside (value / 64) 1 0x80 0xBF) := by
  have top : (value / 64 % 32 + 0xC0) % 32 = value / 64 := by omega
  rw [opening, if_neg (by omega), if_neg (by omega), if_pos (by omega), top]

theorem opening_of_three {value : Nat} (large : 0x7FF < value) (small : value ≤ 0xFFFF)
    (valid : value < 0xD800 ∨ 0xDFFF < value) :
    ∃ low high, opening (value / 4096 % 16 + 0xE0) = .opens (.inside (value / 4096) 2 low high) ∧
      low ≤ value / 64 % 64 + 0x80 ∧ value / 64 % 64 + 0x80 ≤ high := by
  have top : value / 4096 % 16 = value / 4096 := by omega
  rw [top]
  by_cases first : value / 4096 = 0
  · refine ⟨0xA0, 0xBF, ?_, by omega, by omega⟩
    rw [first]
    rfl
  · by_cases surrogate : value / 4096 = 13
    · refine ⟨0x80, 0x9F, ?_, by omega, by omega⟩
      rw [surrogate]
      rfl
    · refine ⟨0x80, 0xBF, ?_, by omega, by omega⟩
      have bits : (value / 4096 + 0xE0) % 16 = value / 4096 := by omega
      simp only [opening, beq_iff_eq]
      rw [if_neg (by omega), if_neg (by omega), if_neg (by omega), if_neg (by omega),
        if_neg (by omega), if_pos (by omega), bits]

theorem opening_of_four {value : Nat} (large : 0xFFFF < value) (small : value < 0x110000) :
    ∃ low high, opening (value / 262144 % 8 + 0xF0) =
        .opens (.inside (value / 262144) 3 low high) ∧
      low ≤ value / 4096 % 64 + 0x80 ∧ value / 4096 % 64 + 0x80 ≤ high := by
  have top : value / 262144 % 8 = value / 262144 := by omega
  rw [top]
  by_cases first : value / 262144 = 0
  · refine ⟨0x90, 0xBF, ?_, by omega, by omega⟩
    rw [first]
    rfl
  · by_cases last : value / 262144 = 4
    · refine ⟨0x80, 0x8F, ?_, by omega, by omega⟩
      rw [last]
      rfl
    · refine ⟨0x80, 0xBF, ?_, by omega, by omega⟩
      have bits : (value / 262144 + 0xF0) % 8 = value / 262144 := by omega
      simp only [opening, beq_iff_eq]
      rw [if_neg (by omega), if_neg (by omega), if_neg (by omega), if_neg (by omega),
        if_neg (by omega), if_neg (by omega), if_neg (by omega), if_pos (by omega), bits]

/-! ## Texts -/

theorem scanFrom_utf8EncodeChar (character : Char) (rest : List UInt8) :
    scanFrom .between (String.utf8EncodeChar character ++ rest) =
      some character :: scanFrom .between rest := by
  have valid : character.val.toNat < 0xD800 ∨
      0xDFFF < character.val.toNat ∧ character.val.toNat < 0x110000 := character.valid
  have whole : Char.ofNat character.val.toNat = character := Char.ofNat_toNat character
  unfold String.utf8EncodeChar
  generalize character.val.toNat = value at valid whole ⊢
  by_cases one : value ≤ 0x7F
  · simp only [one, if_true]
    rw [List.singleton_append, scanFrom_complete (by omega), whole]
  by_cases two : value ≤ 0x7FF
  · have bits : value / 64 * 64 + (value % 64 + 0x80) % 64 = value := by omega
    simp only [one, two, if_false, if_true]
    rw [List.cons_append, List.singleton_append,
      scanFrom_opens (by omega) (opening_of_two (by omega) two),
      scanFrom_last (by omega) (by omega), bits, whole]
  by_cases three : value ≤ 0xFFFF
  · rcases opening_of_three (Nat.lt_of_not_le two) three (by omega) with ⟨low, high, opens, inside⟩
    have bits : (value / 4096 * 64 + (value / 64 % 64 + 0x80) % 64) * 64 +
        (value % 64 + 0x80) % 64 = value := by omega
    simp only [one, two, three, if_false, if_true]
    rw [List.cons_append, List.cons_append, List.singleton_append,
      scanFrom_opens (by omega) opens, scanFrom_inside (by omega) inside (by decide),
      scanFrom_last (by omega) (by omega), bits, whole]
  · rcases opening_of_four (Nat.lt_of_not_le three) (by omega) with ⟨low, high, opens, inside⟩
    have bits : ((value / 262144 * 64 + (value / 4096 % 64 + 0x80) % 64) * 64 +
        (value / 64 % 64 + 0x80) % 64) * 64 + (value % 64 + 0x80) % 64 = value := by omega
    simp only [one, two, three, if_false]
    rw [List.cons_append, List.cons_append, List.cons_append, List.singleton_append,
      scanFrom_opens (by omega) opens, scanFrom_inside (by omega) inside (by decide),
      scanFrom_inside (by omega) (by omega) (by decide),
      scanFrom_last (by omega) (by omega), bits, whole]

theorem scan_encode (text : List Char) : scan (encode text) = text.map some := by
  induction text with
  | nil => rfl
  | cons character text same =>
      rw [encode, List.flatMap_cons, scan, scanFrom_utf8EncodeChar, List.map_cons]
      exact congrArg (some character :: ·) same

theorem decode?_encode (text : List Char) : decode? (encode text) = some text := by
  have all : text.mapM some = some (text.map id) := List.mapM_pure
  rw [decode?, scan_encode, List.mapM_map]
  exact all.trans (congrArg some (List.map_id text))

/-! ## Bytes that are read

No character is read but from the bytes it is written with. -/

theorem toNat_ofNat_of_valid {value : Nat}
    (valid : value < 0xD800 ∨ 0xDFFF < value ∧ value < 0x110000) :
    (Char.ofNat value).val.toNat = value := by
  rw [Char.ofNat, dif_pos valid]
  rfl

theorem utf8EncodeChar_one {byte : UInt8} (small : byte.toNat < 0x80) :
    String.utf8EncodeChar (Char.ofNat byte.toNat) = [byte] := by
  rw [String.utf8EncodeChar, toNat_ofNat_of_valid (by omega)]
  simp only [if_pos (show byte.toNat ≤ 0x7F by omega), UInt8.ofNat_toNat]

section

variable {lead second third last : UInt8}

theorem utf8EncodeChar_two (low : 0xC2 ≤ lead.toNat) (high : lead.toNat < 0xE0)
    (tail : 0x80 ≤ last.toNat ∧ last.toNat ≤ 0xBF) :
    String.utf8EncodeChar (Char.ofNat ((lead.toNat - 0xC0) * 64 + last.toNat % 64)) =
      [lead, last] := by
  rw [String.utf8EncodeChar, toNat_ofNat_of_valid (by omega)]
  generalize value : (lead.toNat - 0xC0) * 64 + last.toNat % 64 = code
  have one : code / 64 % 32 + 0xC0 = lead.toNat := by omega
  have two : code % 64 + 0x80 = last.toNat := by omega
  simp only [if_neg (show ¬code ≤ 0x7F by omega), if_pos (show code ≤ 0x7FF by omega), one, two,
    UInt8.ofNat_toNat]

/-- The bounds on the second byte keep the character out of the surrogates and above those that two
bytes are enough for. -/
theorem utf8EncodeChar_three (low : 0xE0 ≤ lead.toNat) (high : lead.toNat < 0xF0)
    (middle : 0x80 ≤ second.toNat ∧ second.toNat ≤ 0xBF)
    (long : lead.toNat = 0xE0 → 0xA0 ≤ second.toNat)
    (valid : lead.toNat = 0xED → second.toNat ≤ 0x9F)
    (tail : 0x80 ≤ last.toNat ∧ last.toNat ≤ 0xBF) :
    String.utf8EncodeChar (Char.ofNat
        (((lead.toNat - 0xE0) * 64 + second.toNat % 64) * 64 + last.toNat % 64)) =
      [lead, second, last] := by
  rw [String.utf8EncodeChar, toNat_ofNat_of_valid (by omega)]
  generalize value : ((lead.toNat - 0xE0) * 64 + second.toNat % 64) * 64 + last.toNat % 64 = code
  have one : code / 4096 % 16 + 0xE0 = lead.toNat := by omega
  have two : code / 64 % 64 + 0x80 = second.toNat := by omega
  have three : code % 64 + 0x80 = last.toNat := by omega
  simp only [if_neg (show ¬code ≤ 0x7F by omega), if_neg (show ¬code ≤ 0x7FF by omega),
    if_pos (show code ≤ 0xFFFF by omega), one, two, three, UInt8.ofNat_toNat]

theorem utf8EncodeChar_four (low : 0xF0 ≤ lead.toNat) (high : lead.toNat ≤ 0xF4)
    (middle : 0x80 ≤ second.toNat ∧ second.toNat ≤ 0xBF)
    (long : lead.toNat = 0xF0 → 0x90 ≤ second.toNat)
    (valid : lead.toNat = 0xF4 → second.toNat ≤ 0x8F)
    (next : 0x80 ≤ third.toNat ∧ third.toNat ≤ 0xBF)
    (tail : 0x80 ≤ last.toNat ∧ last.toNat ≤ 0xBF) :
    String.utf8EncodeChar (Char.ofNat
        ((((lead.toNat - 0xF0) * 64 + second.toNat % 64) * 64 + third.toNat % 64) * 64 +
          last.toNat % 64)) =
      [lead, second, third, last] := by
  rw [String.utf8EncodeChar, toNat_ofNat_of_valid (by omega)]
  generalize value : (((lead.toNat - 0xF0) * 64 + second.toNat % 64) * 64 + third.toNat % 64) * 64 +
    last.toNat % 64 = code
  have one : code / 262144 % 8 + 0xF0 = lead.toNat := by omega
  have two : code / 4096 % 64 + 0x80 = second.toNat := by omega
  have three : code / 64 % 64 + 0x80 = third.toNat := by omega
  have four : code % 64 + 0x80 = last.toNat := by omega
  simp only [if_neg (show ¬code ≤ 0x7F by omega), if_neg (show ¬code ≤ 0x7FF by omega),
    if_neg (show ¬code ≤ 0xFFFF by omega), one, two, three, four, UInt8.ofNat_toNat]

end

/-- What a byte at the start of a character leaves to be read. -/
inductive Opens (byte : Nat) : Prop
  | one (small : byte < 0x80) (complete : opening byte = .complete (Char.ofNat byte))
  | two (low : 0xC2 ≤ byte) (high : byte < 0xE0)
      (opens : opening byte = .opens (.inside (byte - 0xC0) 1 0x80 0xBF))
  | three {least most : Nat} (low : 0xE0 ≤ byte) (high : byte < 0xF0)
      (opens : opening byte = .opens (.inside (byte - 0xE0) 2 least most))
      (bounds : 0x80 ≤ least ∧ most ≤ 0xBF) (long : byte = 0xE0 → 0xA0 ≤ least)
      (valid : byte = 0xED → most ≤ 0x9F)
  | four {least most : Nat} (low : 0xF0 ≤ byte) (high : byte ≤ 0xF4)
      (opens : opening byte = .opens (.inside (byte - 0xF0) 3 least most))
      (bounds : 0x80 ≤ least ∧ most ≤ 0xBF) (long : byte = 0xF0 → 0x90 ≤ least)
      (valid : byte = 0xF4 → most ≤ 0x8F)
  | stray (stray : opening byte = .stray)

theorem opens (byte : Nat) : Opens byte := by
  by_cases one : byte < 0x80
  · exact .one one (if_pos one)
  by_cases early : byte < 0xC2
  · exact .stray (by rw [opening, if_neg one, if_pos early])
  by_cases two : byte < 0xE0
  · refine .two (by omega) two ?_
    rw [opening, if_neg one, if_neg early, if_pos two, show byte % 32 = byte - 0xC0 by omega]
  by_cases three : byte < 0xF0
  · by_cases long : byte = 0xE0
    · exact long ▸ .three (by decide) (by decide) rfl (by decide) (by decide) (by decide)
    by_cases surrogate : byte = 0xED
    · exact surrogate ▸ .three (by decide) (by decide) rfl (by decide) (by decide) (by decide)
    refine @Opens.three _ 0x80 0xBF (by omega) three ?_ (by decide) (by omega) (by omega)
    simp only [opening, beq_iff_eq]
    rw [if_neg one, if_neg early, if_neg two, if_neg long, if_neg surrogate, if_pos three,
      show byte % 16 = byte - 0xE0 by omega]
  by_cases long : byte = 0xF0
  · exact long ▸ .four (by decide) (by decide) rfl (by decide) (by decide) (by decide)
  by_cases four : byte < 0xF4
  · refine @Opens.four _ 0x80 0xBF (by omega) (by omega) ?_ (by decide) (by omega) (by omega)
    simp only [opening, beq_iff_eq]
    rw [if_neg one, if_neg early, if_neg two, if_neg (by omega), if_neg (by omega), if_neg three,
      if_neg long, if_pos four, show byte % 8 = byte - 0xF0 by omega]
  by_cases last : byte = 0xF4
  · exact last ▸ .four (by decide) (by decide) rfl (by decide) (by decide) (by decide)
  · refine .stray ?_
    simp only [opening, beq_iff_eq]
    rw [if_neg one, if_neg early, if_neg two, if_neg (by omega), if_neg (by omega), if_neg three,
      if_neg long, if_neg four, if_neg last]

/-- Within a character, a mark of one comes of a byte that fits and completes it or leaves less to
be read. -/
theorem scanFrom_inside_some {bits owed low high : Nat} {bytes : List UInt8} {character : Char}
    {marks : List (Option Char)}
    (scanned : scanFrom (.inside bits owed low high) bytes = some character :: marks) :
    ∃ byte rest, bytes = byte :: rest ∧ (low ≤ byte.toNat ∧ byte.toNat ≤ high) ∧
      if owed = 1 then
        character = Char.ofNat (bits * 64 + byte.toNat % 64) ∧ scanFrom .between rest = marks
      else
        scanFrom (.inside (bits * 64 + byte.toNat % 64) (owed - 1) 0x80 0xBF) rest =
          some character :: marks := by
  cases bytes with
  | nil => simp [scanFrom] at scanned
  | cons byte rest =>
      refine ⟨byte, rest, rfl, ?_⟩
      simp only [scanFrom, Bool.and_eq_true, decide_eq_true_eq, beq_iff_eq] at scanned
      by_cases inside : low ≤ byte.toNat ∧ byte.toNat ≤ high
      · rw [if_pos inside] at scanned
        refine ⟨inside, ?_⟩
        split at scanned
        · next last =>
            rw [List.cons.injEq, Option.some_inj] at scanned
            rw [if_pos last]
            exact ⟨scanned.1.symm, scanned.2⟩
        · next more =>
            rw [if_neg more]
            exact scanned
      · rw [if_neg inside] at scanned
        cases scanned

theorem scanFrom_inside_ne_nil (bytes : List UInt8) (bits owed low high : Nat) :
    scanFrom (.inside bits owed low high) bytes ≠ [] := by
  induction bytes generalizing bits owed low high with
  | nil => simp [scanFrom]
  | cons byte rest induction =>
      simp only [scanFrom]
      split
      · split
        · exact List.cons_ne_nil _ _
        · exact induction _ _ _ _
      · exact List.cons_ne_nil _ _

theorem scanFrom_between_cons_ne_nil (lead : UInt8) (rest : List UInt8) :
    scanFrom .between (lead :: rest) ≠ [] := by
  rw [scanFrom]
  simp only [start]
  cases opens lead.toNat with
  | one _ leads | stray leads => simp [leads]
  | two _ _ leads | three _ _ leads | four _ _ leads =>
      simp only [leads, List.nil_append]
      exact scanFrom_inside_ne_nil _ _ _ _ _

theorem exists_first_character {bytes : List UInt8} {character : Char}
    {marks : List (Option Char)} (scanned : scanFrom .between bytes = some character :: marks) :
    ∃ rest, bytes = String.utf8EncodeChar character ++ rest ∧ scanFrom .between rest = marks := by
  cases bytes with
  | nil => cases scanned
  | cons lead rest =>
      rw [scanFrom] at scanned
      simp only [start] at scanned
      cases opens lead.toNat with
      | one small leads =>
          simp only [leads, List.singleton_append, List.cons.injEq, Option.some_inj] at scanned
          rcases scanned with ⟨rfl, others⟩
          exact ⟨rest, by rw [utf8EncodeChar_one small]; rfl, others⟩
      | two low high leads =>
          simp only [leads, List.nil_append] at scanned
          rcases scanFrom_inside_some scanned with ⟨last, rest, rfl, tail, rfl, others⟩
          exact ⟨rest, by rw [utf8EncodeChar_two low high tail]; rfl, others⟩
      | three low high leads bounds long valid =>
          simp only [leads, List.nil_append] at scanned
          rcases scanFrom_inside_some scanned with ⟨second, rest, rfl, middle, more⟩
          rcases scanFrom_inside_some more with ⟨last, rest, rfl, tail, rfl, others⟩
          refine ⟨rest, ?_, others⟩
          rw [utf8EncodeChar_three low high (by omega) (by omega) (by omega) tail]
          rfl
      | four low high leads bounds long valid =>
          simp only [leads, List.nil_append] at scanned
          rcases scanFrom_inside_some scanned with ⟨second, rest, rfl, middle, more⟩
          rcases scanFrom_inside_some more with ⟨third, rest, rfl, next, most⟩
          rcases scanFrom_inside_some most with ⟨last, rest, rfl, tail, rfl, others⟩
          refine ⟨rest, ?_, others⟩
          rw [utf8EncodeChar_four low high (by omega) (by omega) (by omega) next tail]
          rfl
      | stray leads =>
          rw [leads] at scanned
          cases scanned

theorem eq_encode_of_scan {bytes : List UInt8} {text : List Char}
    (scanned : scan bytes = text.map some) : bytes = encode text := by
  induction text generalizing bytes with
  | nil =>
      cases bytes with
      | nil => rfl
      | cons lead rest => exact absurd scanned (scanFrom_between_cons_ne_nil lead rest)
  | cons character text induction =>
      rcases exists_first_character scanned with ⟨rest, rfl, others⟩
      rw [induction others, encode, encode, List.flatMap_cons]

theorem eq_map_some_of_mapM {marks : List (Option Char)} {text : List Char}
    (read : marks.mapM id = some text) : marks = text.map some := by
  induction marks generalizing text with
  | nil =>
      rw [List.mapM_nil] at read
      cases read
      rfl
  | cons mark marks induction =>
      rw [List.mapM_cons] at read
      rcases Option.bind_eq_some_iff.mp read with ⟨character, rfl, others⟩
      rcases Option.bind_eq_some_iff.mp others with ⟨rest, first, last⟩
      cases last
      rw [induction first, List.map_cons]

theorem decode?_eq_some_iff {bytes : List UInt8} {text : List Char} :
    decode? bytes = some text ↔ bytes = encode text := by
  constructor
  · intro decoded
    exact eq_encode_of_scan (eq_map_some_of_mapM decoded)
  · rintro rfl
    exact decode?_encode text

end Tenancy.Text.Utf8
