import WireSchema.Wire.Bytes
import WireSchema.Wire.Width

/-!
# Little-endian integers read back

Writing an integer with `n` bytes and reading the bytes back are inverse to each other, without a
sign modulo `256 ^ n`, and with a sign on the integers that `n` bytes hold in two's complement.

* `leValue_leBytes`, `leBytes_leValue`: the two directions without a sign;
* `leValueInt_leBytesInt`, `leBytesInt_leValueInt`: the two directions with a sign;
* `leBytesInt_of_nonneg`, `Width.unsigned_bounds`, `Width.signed_bounds`: an integer type of either
  sign is a range of integers with one form of bytes.
-/

namespace WireSchema

/-! ## Without a sign -/

@[simp] theorem leBytes_length (n v : Nat) : (leBytes n v).length = n := by
  induction n generalizing v with
  | zero => rfl
  | succ n ih => simp [leBytes, ih]

/-- Bytes have the value they were made of, up to what they can hold. -/
theorem leValue_leBytes (n v : Nat) : leValue (leBytes n v) = v % Nat.pow 256 n := by
  induction n generalizing v with
  | zero =>
    rw [leBytes, leValue]
    exact (Nat.mod_one v).symm
  | succ n ih =>
    have hbyte : (UInt8.ofNat (v % 256)).toNat = v % 256 := by
      rw [UInt8.toNat_ofNat']
      omega
    rw [leBytes, leValue, ih, hbyte, show Nat.pow 256 (n + 1) = 256 * Nat.pow 256 n from
      Nat.mul_comm _ _, Nat.mod_mul]

/-- Bytes are those of their value. -/
theorem leBytes_leValue (bs : List UInt8) : leBytes bs.length (leValue bs) = bs := by
  induction bs with
  | nil => rfl
  | cons b bs ih =>
    have hb := b.toNat_lt
    have hlow : (b.toNat + 256 * leValue bs) % 256 = b.toNat := by omega
    have hhigh : (b.toNat + 256 * leValue bs) / 256 = leValue bs := by omega
    rw [leValue, List.length_cons, leBytes, hlow, hhigh, ih, UInt8.ofNat_toNat]

theorem leValue_lt (bs : List UInt8) : leValue bs < Nat.pow 256 bs.length := by
  induction bs with
  | nil => exact Nat.one_pos
  | cons b bs ih =>
    have hb := b.toNat_lt
    have hpow : Nat.pow 256 (bs.length + 1) = Nat.pow 256 bs.length * 256 := rfl
    rw [leValue, List.length_cons, hpow]
    omega

/-! ## With a sign -/

@[simp] theorem leBytesInt_length (n : Nat) (v : Int) : (leBytesInt n v).length = n :=
  leBytes_length n _

/-- A signed integer within the range of its bytes is their value. -/
theorem leValueInt_leBytesInt {n : Nat} {v : Int} (h₀ : -(Nat.pow 256 n : Int) ≤ 2 * v)
    (h₁ : 2 * v < (Nat.pow 256 n : Int)) : leValueInt (leBytesInt n v) = v := by
  have hpos : 0 < Nat.pow 256 n := Nat.pow_pos (by decide)
  rw [leValueInt, leBytesInt_length, leBytesInt, leValue_leBytes]
  generalize Nat.pow 256 n = p at *
  have hlt : (v % (p : Int)).toNat < p := by
    have hltp := Int.emod_lt_of_pos v (Int.natCast_pos.2 hpos)
    have hnonneg : 0 ≤ v % (p : Int) := Int.emod_nonneg v (by omega)
    omega
  rw [Nat.mod_eq_of_lt hlt]
  -- The remainder is `v` itself or, when `v` is negative, `v + p`.
  by_cases hv : 0 ≤ v
  · rw [Int.emod_eq_of_lt hv (by omega), if_pos (by omega)]
    omega
  · have hmod : v % (p : Int) = v + p := by
      rw [← Int.add_emod_right, Int.emod_eq_of_lt (by omega) (by omega)]
    rw [hmod, if_neg (by omega)]
    omega

/-- Integers that fit without a sign have the same bytes in two's complement. -/
theorem leBytesInt_of_nonneg {n : Nat} {v : Int} (h₀ : 0 ≤ v) (h₁ : v < (Nat.pow 256 n : Int)) :
    leBytesInt n v = leBytes n v.toNat := by
  rw [leBytesInt, Int.emod_eq_of_lt h₀ h₁]

theorem leBytesInt_leValueInt (bs : List UInt8) :
    leBytesInt bs.length (leValueInt bs) = bs := by
  have hlt := leValue_lt bs
  have hmod : (leValueInt bs % (Nat.pow 256 bs.length : Int)).toNat = leValue bs := by
    simp only [leValueInt]
    generalize Nat.pow 256 bs.length = p at *
    split
    · rw [Int.emod_eq_of_lt (by omega) (by omega)]
      omega
    · rw [← Int.add_emod_right, Int.emod_eq_of_lt (by omega) (by omega)]
      omega
  rw [leBytesInt, hmod, leBytes_leValue]

theorem leValueInt_bounds (bs : List UInt8) :
    -(Nat.pow 256 bs.length : Int) ≤ 2 * leValueInt bs ∧
      2 * leValueInt bs < (Nat.pow 256 bs.length : Int) := by
  have hlt := leValue_lt bs
  simp only [leValueInt]
  generalize Nat.pow 256 bs.length = p at *
  split <;> omega

/-! ## Integer types -/

/-- The greatest integer of a width has all bits set. -/
theorem Width.pow_bytes (w : Width) : Nat.pow 256 w.bytes = w.unsignedMax + 1 := by
  cases w <;> decide

theorem Width.bytes_pos (w : Width) : 0 < w.bytes := by
  cases w <;> decide

/-- The integers of a signed type are those that its bytes hold in two's complement. -/
theorem Width.signed_bounds (w : Width) (n : Int) :
    (w.signedMin ≤ n ∧ n ≤ w.signedMax) ↔
      (-(Nat.pow 256 w.bytes : Int) ≤ 2 * n ∧ 2 * n < (Nat.pow 256 w.bytes : Int)) := by
  have hmin : 2 * w.signedMin = -(Nat.pow 256 w.bytes : Int) := by cases w <;> decide
  have hmax : 2 * w.signedMax + 2 = (Nat.pow 256 w.bytes : Int) := by cases w <;> decide
  omega

/-- The integers of an unsigned type are those that its bytes hold without a sign. -/
theorem Width.unsigned_bounds (w : Width) (n : Int) :
    (0 ≤ n ∧ n ≤ w.unsignedMax) ↔ (0 ≤ n ∧ n < (Nat.pow 256 w.bytes : Int)) := by
  rw [pow_bytes]
  omega

theorem Width.unsignedMax_le (w : Width) : w.unsignedMax ≤ Width.w64.unsignedMax := by
  cases w <;> decide

theorem Width.signedMin_ge (w : Width) : Width.w64.signedMin ≤ w.signedMin := by
  cases w <;> decide

theorem Width.signedMax_le (w : Width) : w.signedMax ≤ Width.w64.signedMax := by
  cases w <;> decide

/-- Integers of every width fit 64 bits. -/
theorem toNat_ofNat_of_le_unsignedMax {w : Width} {n : Nat} (h : n ≤ w.unsignedMax) :
    (UInt64.ofNat n).toNat = n :=
  UInt64.toNat_ofNat_of_lt' (Nat.lt_succ_of_le (Nat.le_trans h w.unsignedMax_le))

/-- The integers of any width fit 64 bits. -/
theorem toInt_ofInt_of_signed_bounds {w : Width} {n : Int}
    (h : w.signedMin ≤ n ∧ n ≤ w.signedMax) : (Int64.ofInt n).toInt = n := by
  have hmin : -9223372036854775808 ≤ n := Int.le_trans w.signedMin_ge h.1
  have hmax : n ≤ 9223372036854775807 := Int.le_trans h.2 w.signedMax_le
  exact Int64.toInt_ofInt_of_le (by omega) (by omega)

/-! ## Sizes -/

theorem sizeMul_le (a b : Nat) : sizeMul a b ≤ a * b := Nat.min_le_left _ _

theorem sizeAdd_le (a b : Nat) : sizeAdd a b ≤ a + b := Nat.min_le_left _ _

/-- Counts that are cut off at the limit may be cut off before they are multiplied. -/
theorem sizeMul_min (a b : Nat) : sizeMul a (min b sizeLimit) = min (a * b) sizeLimit := by
  rw [sizeMul]
  rcases Nat.le_total b sizeLimit with hb | hb
  · rw [Nat.min_eq_left hb]
  · rw [Nat.min_eq_right hb]
    cases a with
    | zero => rw [Nat.zero_mul, Nat.zero_mul]
    | succ a =>
      -- One factor is at the limit and the other is not zero, so both products are at least there.
      have hlimit : sizeLimit ≤ (a + 1) * sizeLimit := Nat.le_mul_of_pos_left _ a.succ_pos
      have hmul : (a + 1) * sizeLimit ≤ (a + 1) * b := Nat.mul_le_mul_left _ hb
      rw [Nat.min_eq_right hlimit, Nat.min_eq_right (Nat.le_trans hlimit hmul)]

/-- Counts that are cut off at the limit may be cut off before they are added. -/
theorem sizeAdd_min (a b : Nat) :
    sizeAdd (min a sizeLimit) (min b sizeLimit) = min (a + b) sizeLimit := by
  rw [sizeAdd]
  omega

end WireSchema
