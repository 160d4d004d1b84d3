import Mathlib.Algebra.Group.Int.Defs
import Mathlib.Algebra.Group.Nat.Defs
import Tenancy.Proofs.Instant
import Tenancy.Registration

/-! What a code tells: the millisecond it was made in and the bits of its salt. Codes made in later
milliseconds are greater, whatever their salts, until the milliseconds reach the sign of a code. -/

namespace Tenancy

namespace Code

/-! ## The parts of a code -/

/-- The bits of a word that a code has room for below its milliseconds. -/
def lowBits (word : BitVec width) : BitVec 12 := word.setWidth 12

theorem toBitVec_shifted (millis : Int64) :
    (millis <<< 12).toBitVec = (millis.toBitVec.setWidth 52).shiftLeftZeroExtend 12 := by
  have word : (millis <<< 12).toBitVec = millis.toBitVec <<< 12 := rfl
  rw [word, BitVec.shiftLeftZeroExtend_eq]
  apply BitVec.eq_of_toNat_eq
  simp only [BitVec.toNat_shiftLeft, BitVec.toNat_setWidth, Nat.shiftLeft_eq]
  omega

theorem toBitVec_masked (salt : UInt16) :
    (salt &&& saltBits).toUInt64.toInt64.toBitVec =
      (lowBits salt.toBitVec).setWidth' (by decide : 12 ≤ 52 + 12) := by
  have word : (salt &&& saltBits).toUInt64.toInt64.toBitVec =
      (salt.toBitVec &&& saltBits.toBitVec).setWidth 64 := rfl
  have mask : salt.toBitVec.toNat &&& saltBits.toBitVec.toNat = salt.toBitVec.toNat % 2 ^ 12 :=
    Nat.and_two_pow_sub_one_eq_mod _ 12
  apply BitVec.eq_of_toNat_eq
  rw [word, BitVec.toNat_setWidth, BitVec.toNat_and, mask, lowBits, BitVec.toNat_setWidth',
    BitVec.toNat_setWidth]
  omega

/-- The milliseconds lie above the salt. Shifted out of their way, they share no bit with it. -/
theorem toBitVec_generate (millis : Int64) (salt : UInt16) :
    (generate millis salt).toBitVec =
      (millis.toBitVec.setWidth 52 ++ lowBits salt.toBitVec : BitVec (52 + 12)) := by
  rw [generate, Int64.toBitVec_or, toBitVec_shifted, toBitVec_masked, BitVec.append_def]

theorem lowBits_generate (millis : Int64) (salt : UInt16) :
    lowBits (generate millis salt).toBitVec = lowBits salt.toBitVec := by
  rw [toBitVec_generate, lowBits, BitVec.setWidth_append, dif_pos (Nat.le_refl 12),
    BitVec.setWidth_eq]

/-- Milliseconds that take more than 52 bits go around. -/
theorem toInt_generate (millis : Int64) (salt : UInt16) :
    (generate millis salt).toInt =
      2 ^ 12 * millis.toInt.bmod (2 ^ 52) + (lowBits salt.toBitVec).toNat := by
  have upper : (millis.toBitVec.setWidth 52).toInt = millis.toInt.bmod (2 ^ 52) := by
    rw [BitVec.toInt_setWidth, ← Int64.toInt_toBitVec, BitVec.toInt_eq_toNat_bmod,
      Int.bmod_bmod_of_dvd (Nat.pow_dvd_pow 2 (by decide))]
  calc (generate millis salt).toInt
      = (millis.toBitVec.setWidth 52 ++ lowBits salt.toBitVec : BitVec (52 + 12)).toInt :=
        congrArg BitVec.toInt (toBitVec_generate millis salt)
    _ = 2 ^ 12 * (millis.toBitVec.setWidth 52).toInt + (lowBits salt.toBitVec).toNat :=
        BitVec.toInt_append
    _ = 2 ^ 12 * millis.toInt.bmod (2 ^ 52) + (lowBits salt.toBitVec).toNat := by rw [upper]

/-! ## Milliseconds with room for a salt -/

/-- Above a salt there are 52 bits left, one of them for the sign. -/
def Fits (millis : Int64) : Prop :=
  -2 ^ 51 ≤ millis.toInt ∧ millis.toInt < 2 ^ 51

variable {millis other : Int64} {salt otherSalt : UInt16}

theorem toInt_generate_of_fits (salt : UInt16) (fits : Fits millis) :
    (generate millis salt).toInt = 2 ^ 12 * millis.toInt + (lowBits salt.toBitVec).toNat := by
  have unchanged : millis.toInt.bmod (2 ^ 52) = millis.toInt := Int.bmod_eq_of_le fits.1 fits.2
  rw [toInt_generate, unchanged]

theorem generate_pos (salt : UInt16) (fits : Fits millis) (positive : 0 < millis.toInt) :
    0 < generate millis salt := by
  rw [Int64.lt_iff_toInt_lt, toInt_generate_of_fits salt fits, Int64.toInt_zero]
  omega

theorem generate_shiftRight (salt : UInt16) (fits : Fits millis) :
    generate millis salt >>> 12 = millis := by
  have word : (generate millis salt >>> 12).toBitVec =
      (generate millis salt).toBitVec.sshiftRight 12 := rfl
  have below := (lowBits salt.toBitVec).isLt
  apply Int64.toInt_inj.mp
  rw [← Int64.toInt_toBitVec, word, BitVec.toInt_sshiftRight, Int.shiftRight_eq_div_pow,
    Int64.toInt_toBitVec, toInt_generate_of_fits salt fits]
  omega

theorem generate_eq_iff (fits : Fits millis) (otherFits : Fits other) :
    generate millis salt = generate other otherSalt ↔
      millis = other ∧ lowBits salt.toBitVec = lowBits otherSalt.toBitVec := by
  constructor
  · intro same
    constructor
    · rw [← generate_shiftRight salt fits, same, generate_shiftRight otherSalt otherFits]
    · rw [← lowBits_generate millis salt, same, lowBits_generate]
  · intro parts
    rcases parts with ⟨rfl, sameBits⟩
    apply Int64.toBitVec_inj.mp
    rw [toBitVec_generate, toBitVec_generate, sameBits]

theorem generate_lt_generate (salt otherSalt : UInt16) (fits : Fits millis)
    (otherFits : Fits other) (earlier : millis < other) :
    generate millis salt < generate other otherSalt := by
  -- The greatest salt ends where the next millisecond begins.
  have below := (lowBits salt.toBitVec).isLt
  rw [Int64.lt_iff_toInt_lt] at earlier ⊢
  rw [toInt_generate_of_fits salt fits, toInt_generate_of_fits otherSalt otherFits]
  omega

/-- Codes tell their parts and keep the order of time. A clock comes to 2^51 milliseconds in the
year 73326. -/
theorem codes_tell_millisecond_and_salt (millis : Int64) (salt : UInt16)
    (positive : 0 < millis.toInt) (small : millis.toInt < 2 ^ 51) :
    0 < generate millis salt ∧
    generate millis salt >>> 12 = millis ∧
    lowBits (generate millis salt).toBitVec = lowBits salt.toBitVec ∧
    ∀ (other : Int64) (otherSalt : UInt16), 0 < other.toInt → other.toInt < 2 ^ 51 →
      (generate millis salt = generate other otherSalt ↔
        millis = other ∧ lowBits salt.toBitVec = lowBits otherSalt.toBitVec) ∧
      (millis < other → generate millis salt < generate other otherSalt) := by
  have fits : Fits millis := ⟨by omega, small⟩
  refine ⟨generate_pos salt fits positive, generate_shiftRight salt fits,
    lowBits_generate millis salt, ?_⟩
  intro other otherSalt otherPositive otherSmall
  have otherFits : Fits other := ⟨by omega, otherSmall⟩
  exact ⟨generate_eq_iff fits otherFits, generate_lt_generate salt otherSalt fits otherFits⟩

/-- The last two milliseconds below the sign, the earlier one with every bit of its salt set. -/
theorem last_codes_below_the_sign :
    0 < (2251799813685246 : Int64).toInt ∧ (2251799813685246 : Int64).toInt < 2 ^ 51 ∧
      0 < (2251799813685247 : Int64).toInt ∧ (2251799813685247 : Int64).toInt < 2 ^ 51 ∧
      0 < generate 2251799813685246 0xFFFF ∧
      generate 2251799813685246 0xFFFF >>> 12 = 2251799813685246 ∧
      lowBits (generate 2251799813685246 0xFFFF).toBitVec = 0xFFF ∧
      generate 2251799813685246 0xFFFF = generate 2251799813685246 0x0FFF ∧
      generate 2251799813685246 0xFFFF < generate 2251799813685247 0xF000 := by
  have positive : 0 < (2251799813685246 : Int64).toInt := by decide
  have small : (2251799813685246 : Int64).toInt < 2 ^ 51 := by decide
  have nextPositive : 0 < (2251799813685247 : Int64).toInt := by decide
  have nextSmall : (2251799813685247 : Int64).toInt < 2 ^ 51 := by decide
  rcases codes_tell_millisecond_and_salt 2251799813685246 0xFFFF positive small with
    ⟨codePositive, shifted, low, others⟩
  have sameSalt := (others 2251799813685246 0x0FFF positive small).1
  have next := (others 2251799813685247 0xF000 nextPositive nextSmall).2
  exact ⟨positive, small, nextPositive, nextSmall, codePositive, shifted, low,
    sameSalt.mpr ⟨rfl, by decide⟩, next (by decide)⟩

/-- One millisecond on, the sign is reached. -/
example : generate 2251799813685248 0 < 0 := by decide

end Code

/-! ## Stamps -/

namespace Stamp

variable {earlier later : Instant} {salt otherSalt : UInt16}

/-- Stamps share a code only if they are drawn in one millisecond with the same bits of salt. -/
theorem code_draw_eq_iff (fits : Code.Fits (.ofInt earlier.millis))
    (otherFits : Code.Fits (.ofInt later.millis)) :
    (draw earlier salt).code = (draw later otherSalt).code ↔
      earlier.millis = later.millis ∧
        Code.lowBits salt.toBitVec = Code.lowBits otherSalt.toBitVec := by
  have sameMillis : Int64.ofInt earlier.millis = .ofInt later.millis ↔
      earlier.millis = later.millis := by
    rw [← Int64.toInt_inj, Instant.toInt_ofInt_millis, Instant.toInt_ofInt_millis]
  rw [draw, draw, Code.generate_eq_iff fits otherFits, sameMillis]

theorem code_draw_lt_code_draw (salt otherSalt : UInt16)
    (fits : Code.Fits (.ofInt earlier.millis)) (otherFits : Code.Fits (.ofInt later.millis))
    (lt : earlier.millis < later.millis) :
    (draw earlier salt).code < (draw later otherSalt).code := by
  apply Code.generate_lt_generate salt otherSalt fits otherFits
  rw [Int64.lt_iff_toInt_lt, Instant.toInt_ofInt_millis, Instant.toInt_ofInt_millis]
  exact lt

end Stamp

end Tenancy
