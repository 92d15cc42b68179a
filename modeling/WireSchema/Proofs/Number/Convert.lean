import WireSchema.Number.Binary

/-!
# Widening is exact

A number that is moved into a format with more room and back is the same bits. The argument is about
numbers, not about bits:

* rounding a mantissa times a power of two hangs on the number only, not on how it is split
  (`round_scale`);
* a number of a format is rounded to itself (`round_eq_of_meaning`);
* a number that a format has room for is rounded to bits that stand for the same number
  (`unpack_round`).

The bits of a format are taken apart into a sign, an exponent and a fraction (`ofFields`).
-/

namespace WireSchema.Number

theorem two_pow_add (a b : Nat) : Nat.pow 2 (a + b) = Nat.pow 2 a * Nat.pow 2 b :=
  Nat.pow_add 2 a b

theorem two_pow_pos (a : Nat) : 0 < Nat.pow 2 a :=
  Nat.two_pow_pos a

/-- A quotient by one is exact, so nothing is rounded. -/
theorem divNearestEven_one (n : Nat) : divNearestEven n 1 = n := by
  simp [divNearestEven, Nat.mod_one]

/-- A common factor of the fraction does not change what it is rounded to. -/
theorem divNearestEven_mul_right (n d : Nat) {k : Nat} (hk : 0 < k) :
    divNearestEven (n * k) (d * k) = divNearestEven n d := by
  have hlt : 2 * (n % d * k) < d * k ↔ 2 * (n % d) < d := by
    rw [← Nat.mul_assoc]
    exact Nat.mul_lt_mul_right hk
  have heq : 2 * (n % d * k) = d * k ↔ 2 * (n % d) = d := by
    rw [← Nat.mul_assoc]
    exact Nat.mul_left_inj (Nat.ne_of_gt hk)
  rw [divNearestEven, divNearestEven, Nat.mul_div_mul_right n d hk, Nat.mul_mod_mul_right]
  simp only [hlt, heq]

theorem two_pow_log2_le {m : Nat} (hm : m ≠ 0) : Nat.pow 2 m.log2 ≤ m :=
  Nat.log2_self_le hm

theorem lt_two_pow_log2 (m : Nat) : m < Nat.pow 2 m.log2 * 2 :=
  Nat.lt_log2_self

/-- Doubling moves the leading bit by one. -/
theorem log2_mul_two_pow {m : Nat} (hm : m ≠ 0) (k : Nat) :
    (m * Nat.pow 2 k).log2 = m.log2 + k := by
  rw [Nat.log2_eq_iff (Nat.mul_ne_zero hm (Nat.ne_of_gt (two_pow_pos k)))]
  change Nat.pow 2 (m.log2 + k) ≤ _ ∧ _ < Nat.pow 2 (m.log2 + k) * 2
  rw [two_pow_add, Nat.mul_right_comm]
  exact ⟨Nat.mul_le_mul_right _ (two_pow_log2_le hm),
    Nat.mul_lt_mul_of_pos_right (lt_two_pow_log2 m) (two_pow_pos k)⟩

namespace BinaryFormat

variable (f : BinaryFormat)

/-! ## Fields -/

/-- The bits with the given sign, exponent field and fraction field. -/
def ofFields (negative : Bool) (exponent fraction : Nat) : Nat :=
  f.withSign negative (exponent * Nat.pow 2 f.fractionBits + fraction)

/-- What the fields stand for. -/
def meaning (negative : Bool) (exponent fraction : Nat) : Unpacked :=
  if exponent = f.topExponent then
    if fraction = 0 then .infinite negative else .nan negative fraction
  else if exponent = 0 then .finite negative fraction f.minExponent
  else .finite negative (Nat.pow 2 f.fractionBits + fraction) (f.minExponent + (exponent - 1 : Nat))

/-- The fields of a pattern stand one behind the other: sign, exponent, fraction. -/
theorem ofFields_eq (negative : Bool) (exponent fraction : Nat) :
    f.ofFields negative exponent fraction =
      (negative.toNat * Nat.pow 2 f.exponentBits + exponent) * Nat.pow 2 f.fractionBits +
        fraction := by
  rw [ofFields, withSign, signBit, two_pow_add, Nat.add_mul]
  cases negative <;> simp [Nat.add_assoc]

variable {f}

/-- Unpacking a pattern gives the meaning of the fields it was made of. -/
theorem unpack_ofFields (negative : Bool) {exponent fraction : Nat}
    (hexponent : exponent < Nat.pow 2 f.exponentBits)
    (hfraction : fraction < Nat.pow 2 f.fractionBits) :
    f.unpack (f.ofFields negative exponent fraction) = f.meaning negative exponent fraction := by
  -- The fields are digits, each below its base, so division and remainder take them apart.
  have hmod : f.ofFields negative exponent fraction % Nat.pow 2 f.fractionBits = fraction := by
    rw [ofFields_eq, Nat.mul_add_mod_self_right, Nat.mod_eq_of_lt hfraction]
  have hdiv : f.ofFields negative exponent fraction / Nat.pow 2 f.fractionBits =
      negative.toNat * Nat.pow 2 f.exponentBits + exponent := by
    rw [ofFields_eq, Nat.mul_comm _ (Nat.pow 2 f.fractionBits), Nat.mul_add_div (two_pow_pos _),
      Nat.div_eq_of_lt hfraction, Nat.add_zero]
  have hexp : (negative.toNat * Nat.pow 2 f.exponentBits + exponent) % Nat.pow 2 f.exponentBits =
      exponent := by
    rw [Nat.mul_add_mod_self_right, Nat.mod_eq_of_lt hexponent]
  have hsign : f.ofFields negative exponent fraction / f.signBit = negative.toNat := by
    rw [signBit, Nat.add_comm, two_pow_add, ← Nat.div_div_eq_div_mul, hdiv,
      Nat.mul_comm _ (Nat.pow 2 f.exponentBits), Nat.mul_add_div (two_pow_pos _),
      Nat.div_eq_of_lt hexponent, Nat.add_zero]
  have hneg : (negative.toNat % 2 == 1) = negative := by cases negative <;> rfl
  rw [unpack, hmod, hdiv, hexp, hsign]
  simp only [hneg, meaning, beq_iff_eq]

/-- Bits that the format has room for have fields. -/
theorem exists_ofFields {bits : Nat}
    (h : bits < Nat.pow 2 (f.exponentBits + f.fractionBits + 1)) :
    ∃ negative exponent fraction, exponent < Nat.pow 2 f.exponentBits ∧
      fraction < Nat.pow 2 f.fractionBits ∧ bits = f.ofFields negative exponent fraction := by
  have hsign : bits / Nat.pow 2 f.fractionBits / Nat.pow 2 f.exponentBits < 2 := by
    rw [Nat.div_div_eq_div_mul, ← two_pow_add, Nat.add_comm f.fractionBits]
    exact Nat.div_lt_of_lt_mul h
  have htoNat : ∀ n, n < 2 → (n == 1).toNat = n := by decide
  refine ⟨bits / Nat.pow 2 f.fractionBits / Nat.pow 2 f.exponentBits == 1,
    bits / Nat.pow 2 f.fractionBits % Nat.pow 2 f.exponentBits, bits % Nat.pow 2 f.fractionBits,
    Nat.mod_lt _ (two_pow_pos _), Nat.mod_lt _ (two_pow_pos _), ?_⟩
  rw [ofFields_eq, htoNat _ hsign, Nat.mul_comm _ (Nat.pow 2 f.exponentBits), Nat.div_add_mod,
    Nat.mul_comm, Nat.div_add_mod]

/-! ## Rounding -/

/-- The exponent of the last fraction bit of a number. -/
def scale (f : BinaryFormat) (m : Nat) (e : Int) : Int :=
  max (e + (m.log2 : Int) - f.fractionBits) f.minExponent

/-- The number `m · 2 ^ e` as a multiple of `2 ^ scale`. -/
def steps (m : Nat) (e scale : Int) : Nat :=
  if scale ≤ e then m * Nat.pow 2 (e - scale).toNat
  else divNearestEven m (Nat.pow 2 (scale - e).toNat)

/-- The bits of a rounded number: the binade it falls in and its steps there, but never more than
    infinity. -/
theorem round_of_ne_zero {m : Nat} (hm : m ≠ 0) (e : Int) :
    f.round m e = min ((f.scale m e - f.minExponent).toNat * Nat.pow 2 f.fractionBits +
      steps m e (f.scale m e)) f.infinityBits := by
  rw [round, if_neg (by simpa using hm)]
  rfl

/-- A number has the same steps however its mantissa is shifted. -/
theorem steps_scale (m : Nat) (e scale : Int) (k : Nat) :
    steps (m * Nat.pow 2 k) (e - k) scale = steps m e scale := by
  rw [steps, steps]
  by_cases hle : scale ≤ e
  · rw [if_pos hle]
    by_cases hlek : scale ≤ e - k
    · rw [if_pos hlek, Nat.mul_assoc, ← two_pow_add]
      congr 2
      omega
    · -- The power taken off is one that was put in front.
      have hk : k = (e - scale).toNat + (scale - (e - k)).toNat := by omega
      have hsplit : m * Nat.pow 2 k = m * Nat.pow 2 (e - scale).toNat *
          Nat.pow 2 (scale - (e - k)).toNat := by rw [Nat.mul_assoc, ← two_pow_add, ← hk]
      have hone := divNearestEven_mul_right (m * Nat.pow 2 (e - scale).toNat) 1
        (two_pow_pos (scale - (e - k)).toNat)
      rw [Nat.one_mul, divNearestEven_one] at hone
      rw [if_neg hlek, hsplit, hone]
  · have hsum : (scale - (e - k)).toNat = (scale - e).toNat + k := by omega
    rw [if_neg hle, if_neg (by omega), hsum, two_pow_add,
      divNearestEven_mul_right _ _ (two_pow_pos k)]

/-- Rounding hangs on the number only, not on how it is split into a mantissa and an exponent. -/
theorem round_scale (f : BinaryFormat) (m : Nat) (e : Int) (k : Nat) :
    f.round (m * Nat.pow 2 k) (e - k) = f.round m e := by
  by_cases hm : m = 0
  · simp [round, hm]
  · have hne : m * Nat.pow 2 k ≠ 0 := Nat.mul_ne_zero hm (Nat.ne_of_gt (two_pow_pos k))
    have hscale : f.scale (m * Nat.pow 2 k) (e - k) = f.scale m e := by
      rw [scale, scale, log2_mul_two_pow hm]
      congr 1
      omega
    rw [round_of_ne_zero hne, round_of_ne_zero hm, hscale, steps_scale]

/-- Where no bits are lost, rounding moves the first bit of the mantissa to the front. -/
theorem round_of_fits {m : Nat} (hm : m ≠ 0) {e : Int} {k : Nat}
    (hk : m.log2 + k = f.fractionBits) (hmin : f.minExponent ≤ e - k)
    (htop : (e - k - f.minExponent).toNat + 1 < f.topExponent) :
    f.round m e = (e - k - f.minExponent).toNat * Nat.pow 2 f.fractionBits + m * Nat.pow 2 k := by
  have hscale : f.scale m e = e - k := by
    rw [scale]
    omega
  have hsteps : steps m e (e - k) = m * Nat.pow 2 k := by
    rw [steps, if_pos (by omega)]
    congr 2
    omega
  have hlt : m * Nat.pow 2 k < Nat.pow 2 f.fractionBits * 2 := by
    rw [← hk, two_pow_add, Nat.mul_right_comm]
    exact Nat.mul_lt_mul_of_pos_right (lt_two_pow_log2 m) (two_pow_pos k)
  rw [round_of_ne_zero hm, hscale, hsteps, Nat.min_eq_left]
  -- The number is below the largest one, so it is not replaced by infinity.
  have hmul : ((e - k - f.minExponent).toNat + 2) * Nat.pow 2 f.fractionBits ≤ f.infinityBits :=
    Nat.mul_le_mul_right _ htop
  rw [Nat.add_mul] at hmul
  omega

/-- An exponent that is not the top one lies below it. -/
theorem lt_topExponent {exponent : Nat} (h : exponent < Nat.pow 2 f.exponentBits)
    (htop : exponent ≠ f.topExponent) : exponent < f.topExponent := by
  rw [topExponent] at htop ⊢
  omega

/-- A subnormal number of the format is rounded to its own fraction. -/
theorem round_subnormal {fraction : Nat} (hfraction : fraction < Nat.pow 2 f.fractionBits)
    (htop : 0 < f.topExponent) : f.round fraction f.minExponent = fraction := by
  by_cases hzero : fraction = 0
  · simp [round, hzero]
  · have hlog : fraction.log2 < f.fractionBits := (Nat.log2_lt hzero).2 hfraction
    have hscale : f.scale fraction f.minExponent = f.minExponent := by
      rw [scale]
      omega
    have hsteps : steps fraction f.minExponent f.minExponent = fraction := by
      simp [steps]
    have hle : Nat.pow 2 f.fractionBits ≤ f.infinityBits := Nat.le_mul_of_pos_left _ htop
    rw [round_of_ne_zero hzero, hscale, hsteps, Int.sub_self, Int.toNat_zero, Nat.zero_mul,
      Nat.zero_add, Nat.min_eq_left (by omega)]

/-- A normal number of the format is rounded to its own exponent and fraction. -/
theorem round_normal {exponent fraction : Nat} (hpos : exponent ≠ 0)
    (htop : exponent < f.topExponent) (hfraction : fraction < Nat.pow 2 f.fractionBits) :
    f.round (Nat.pow 2 f.fractionBits + fraction) (f.minExponent + (exponent - 1 : Nat)) =
      exponent * Nat.pow 2 f.fractionBits + fraction := by
  have hne : Nat.pow 2 f.fractionBits + fraction ≠ 0 := by
    have := two_pow_pos f.fractionBits
    omega
  -- The hidden bit is the first one, so that the mantissa fills the fraction without a shift.
  have hlog : (Nat.pow 2 f.fractionBits + fraction).log2 + 0 = f.fractionBits := by
    rw [Nat.add_zero, Nat.log2_eq_iff hne]
    change Nat.pow 2 f.fractionBits ≤ _ ∧ _ < Nat.pow 2 f.fractionBits * 2
    omega
  have hstep : (f.minExponent + (exponent - 1 : Nat) - (0 : Nat) - f.minExponent).toNat =
      exponent - 1 := by omega
  have hsplit : exponent * Nat.pow 2 f.fractionBits =
      (exponent - 1) * Nat.pow 2 f.fractionBits + Nat.pow 2 f.fractionBits := by
    rw [← Nat.succ_mul, Nat.succ_eq_add_one, Nat.sub_add_cancel (Nat.pos_of_ne_zero hpos)]
  rw [round_of_fits hne hlog (by omega) (by omega), hstep, hsplit, Nat.add_assoc]
  simp [Nat.pow]

/-- A number of the format is rounded to itself. -/
theorem round_eq_of_meaning {negative sign : Bool} {exponent fraction m : Nat} {e : Int}
    (hexponent : exponent < Nat.pow 2 f.exponentBits)
    (hfraction : fraction < Nat.pow 2 f.fractionBits)
    (h : f.meaning negative exponent fraction = .finite sign m e) :
    f.withSign sign (f.round m e) = f.ofFields negative exponent fraction := by
  rw [meaning] at h
  split at h
  · split at h <;> cases h
  · next htop =>
    have hlt := lt_topExponent hexponent htop
    rw [ofFields]
    split at h
    · next hzero =>
      cases h
      rw [round_subnormal hfraction (by omega), hzero, Nat.zero_mul, Nat.zero_add]
    · next hzero =>
      cases h
      rw [round_normal hzero hlt hfraction]

/-- A number that the format has room for is rounded to bits that stand for it. -/
theorem unpack_round (negative : Bool) {m : Nat} (hm : m ≠ 0) {e : Int} {k : Nat}
    (hk : m.log2 + k = f.fractionBits) (hmin : f.minExponent ≤ e - k)
    (htop : (e - k - f.minExponent).toNat + 1 < f.topExponent) :
    f.unpack (f.withSign negative (f.round m e)) = .finite negative (m * Nat.pow 2 k) (e - k) := by
  have hge : Nat.pow 2 f.fractionBits ≤ m * Nat.pow 2 k := by
    rw [← hk, two_pow_add]
    exact Nat.mul_le_mul_right _ (two_pow_log2_le hm)
  have hlt : m * Nat.pow 2 k < Nat.pow 2 f.fractionBits * 2 := by
    rw [← hk, two_pow_add, Nat.mul_right_comm]
    exact Nat.mul_lt_mul_of_pos_right (lt_two_pow_log2 m) (two_pow_pos k)
  -- The first bit of the mantissa is hidden: it counts up the exponent field.
  have hround : f.withSign negative (f.round m e) = f.ofFields negative
      ((e - k - f.minExponent).toNat + 1) (m * Nat.pow 2 k - Nat.pow 2 f.fractionBits) := by
    rw [round_of_fits hm hk hmin htop, ofFields, Nat.add_mul, Nat.one_mul]
    congr 1
    omega
  have htop' : f.topExponent < Nat.pow 2 f.exponentBits := by
    have := two_pow_pos f.exponentBits
    rw [topExponent]
    omega
  rw [hround, unpack_ofFields _ (by omega) (by omega), meaning, if_neg (by omega),
    if_neg (by omega)]
  congr 1 <;> omega

/-! ## Conversion -/

/-- The format `g` has room for all numbers of the format `f`. -/
structure Embeds (f g : BinaryFormat) : Prop where
  fraction_le : f.fractionBits ≤ g.fractionBits
  min_le : g.minExponent + g.fractionBits ≤ f.minExponent
  max_lt : f.minExponent + f.topExponent + f.fractionBits <
    g.minExponent + g.topExponent + g.fractionBits

/-- Single precision embeds in double precision. -/
theorem embeds_binary32_binary64 : Embeds binary32 binary64 where
  fraction_le := by decide
  min_le := by decide
  max_lt := by decide

variable {g : BinaryFormat}

theorem Embeds.topExponent_pos (h : Embeds f g) : 0 < g.topExponent := by
  have := h.min_le
  have := h.max_lt
  omega

/-- The range of the numbers of a format. -/
theorem bounds_of_meaning {negative sign : Bool} {exponent fraction m : Nat} {e : Int}
    (hexponent : exponent < Nat.pow 2 f.exponentBits)
    (hfraction : fraction < Nat.pow 2 f.fractionBits)
    (h : f.meaning negative exponent fraction = .finite sign m e) (hm : m ≠ 0) :
    m.log2 ≤ f.fractionBits ∧ f.minExponent ≤ e ∧
      e + m.log2 < f.minExponent + f.topExponent + f.fractionBits := by
  rw [meaning] at h
  split at h
  · split at h <;> cases h
  · next htop =>
    have hlt := lt_topExponent hexponent htop
    split at h
    · cases h
      have hlog : fraction.log2 < f.fractionBits := (Nat.log2_lt hm).2 hfraction
      omega
    · cases h
      have hlog : (Nat.pow 2 f.fractionBits + fraction).log2 < f.fractionBits + 1 := by
        rw [Nat.log2_lt hm]
        change _ < Nat.pow 2 f.fractionBits * 2
        omega
      omega

/-- The pattern with no bit but the sign is that of zero. -/
theorem unpack_withSign_zero (negative : Bool) (htop : 0 < g.topExponent) :
    g.unpack (g.withSign negative 0) = .finite negative 0 g.minExponent := by
  have hfields : g.withSign negative 0 = g.ofFields negative 0 0 := by
    rw [ofFields, Nat.zero_mul]
  rw [hfields, unpack_ofFields _ (two_pow_pos _) (two_pow_pos _), meaning, if_neg (by omega),
    if_pos rfl]

/-- A zero is moved to the zero of the same sign. -/
theorem unpack_convert_zero {bits : Nat} {negative : Bool} {e : Int} (htop : 0 < g.topExponent)
    (h : f.unpack bits = .finite negative 0 e) :
    g.unpack (convert f g bits) = .finite negative 0 g.minExponent := by
  have hround : g.round 0 e = 0 := rfl
  rw [convert, h]
  dsimp only
  rw [hround, unpack_withSign_zero negative htop]

/-- The pattern of infinity is that of infinity under either sign. -/
theorem unpack_withSign_infinityBits (negative : Bool) :
    g.unpack (g.withSign negative g.infinityBits) = .infinite negative := by
  have hfields : g.withSign negative g.infinityBits = g.ofFields negative g.topExponent 0 := rfl
  have hlt : g.topExponent < Nat.pow 2 g.exponentBits :=
    Nat.sub_lt (two_pow_pos _) Nat.one_pos
  rw [hfields, unpack_ofFields _ hlt (two_pow_pos _), meaning, if_pos rfl, if_pos rfl]

/-- A finite number is converted by rounding its magnitude. -/
theorem convert_of_finite {bits m : Nat} {negative : Bool} {e : Int}
    (h : f.unpack bits = .finite negative m e) :
    convert f g bits = g.withSign negative (g.round m e) := by
  rw [convert, h]

/-- Infinity is converted to infinity of the same sign. -/
theorem convert_of_infinite {bits : Nat} {negative : Bool}
    (h : f.unpack bits = .infinite negative) :
    convert f g bits = g.withSign negative g.infinityBits := by
  rw [convert, h]

/-- Each infinity has one pattern. -/
theorem ofFields_of_meaning_infinite {negative sign : Bool} {exponent fraction : Nat}
    (h : f.meaning negative exponent fraction = .infinite sign) :
    f.ofFields negative exponent fraction = f.withSign sign f.infinityBits := by
  rw [meaning] at h
  split at h
  · next htop =>
    split at h
    · next hzero =>
      cases h
      rw [ofFields, htop, hzero]
      rfl
    · cases h
  · split at h <;> cases h

/-- What is moved into a format with more room, and is no NaN, comes back as it was. -/
theorem convert_convert (h : Embeds f g) {bits : Nat}
    (hbits : bits < Nat.pow 2 (f.exponentBits + f.fractionBits + 1))
    (hnan : ∀ negative payload, f.unpack bits ≠ .nan negative payload) :
    convert g f (convert f g bits) = bits := by
  obtain ⟨negative, exponent, fraction, hexponent, hfraction, rfl⟩ := exists_ofFields hbits
  have hunpack := unpack_ofFields (f := f) negative hexponent hfraction
  cases hmeaning : f.meaning negative exponent fraction with
  | nan sign payload => exact absurd (hunpack.trans hmeaning) (hnan sign payload)
  | infinite sign =>
    rw [convert_of_infinite (hunpack.trans hmeaning),
      convert_of_infinite (unpack_withSign_infinityBits sign),
      ofFields_of_meaning_infinite hmeaning]
  | finite sign m e =>
    rw [convert_of_finite (hunpack.trans hmeaning),
      ← round_eq_of_meaning hexponent hfraction hmeaning]
    by_cases hm : m = 0
    · have hzero : ∀ (f : BinaryFormat) (e : Int), f.round 0 e = 0 := fun _ _ => rfl
      rw [hm, hzero, hzero, convert_of_finite (unpack_withSign_zero _ h.topExponent_pos), hzero]
    · obtain ⟨hlog, hmin, hmax⟩ := bounds_of_meaning hexponent hfraction hmeaning hm
      have := h.fraction_le
      have := h.min_le
      have := h.max_lt
      -- In the wide format the mantissa is shifted to the front. The way back does not see that.
      have hround : g.unpack (g.withSign sign (g.round m e)) = _ :=
        unpack_round (k := g.fractionBits - m.log2) sign hm (by omega) (by omega) (by omega)
      rw [convert_of_finite hround, round_scale]

/-- The payload of a NaN fits the fraction. -/
theorem payload_lt {bits payload : Nat} {negative : Bool}
    (h : f.unpack bits = .nan negative payload) : payload < Nat.pow 2 f.fractionBits := by
  rw [unpack] at h
  split at h
  · split at h
    · cases h
    · cases h
      exact Nat.mod_lt _ (two_pow_pos _)
  · split at h <;> cases h

/-- A payload made quiet is not zero and stays within its bits. -/
theorem quiet_bounds {kept bit : Nat} (hbit : 0 < bit) (hkept : kept < bit * 2) :
    (if kept / bit % 2 == 1 then kept else kept + bit) ≠ 0 ∧
      (if kept / bit % 2 == 1 then kept else kept + bit) < bit * 2 := by
  have hdiv : kept / bit < 2 := Nat.div_lt_of_lt_mul hkept
  split
  · next h =>
    refine ⟨fun hzero => ?_, hkept⟩
    rw [hzero, Nat.zero_div] at h
    cases h
  · next h =>
    have hzero : kept / bit = 0 := by
      rw [beq_iff_eq] at h
      generalize kept / bit = q at hdiv h
      omega
    have := Nat.lt_of_div_eq_zero hbit hzero
    omega

/-- A NaN becomes one with a payload that is not zero, because it is quiet. -/
theorem convert_of_nan (hg : 0 < g.fractionBits) {bits payload : Nat} {negative : Bool}
    (h : f.unpack bits = .nan negative payload) :
    ∃ quiet, quiet ≠ 0 ∧ quiet < Nat.pow 2 g.fractionBits ∧
      convert f g bits = g.withSign negative (g.infinityBits + quiet) := by
  have hkept : payload * Nat.pow 2 g.fractionBits / Nat.pow 2 f.fractionBits <
      Nat.pow 2 g.fractionBits :=
    Nat.div_lt_of_lt_mul (Nat.mul_lt_mul_of_pos_right (payload_lt h) (two_pow_pos _))
  have hhalf : Nat.pow 2 g.fractionBits = g.quietBit * 2 := by
    rw [quietBit]
    exact (congrArg (Nat.pow 2) (Nat.sub_add_cancel hg)).symm
  have hbit : 0 < g.quietBit := two_pow_pos _
  obtain ⟨hne, hlt⟩ := quiet_bounds hbit (Nat.lt_of_lt_of_eq hkept hhalf)
  refine ⟨_, hne, Nat.lt_of_lt_of_eq hlt hhalf.symm, ?_⟩
  rw [convert, h]

/-- A NaN stays one. -/
theorem unpack_convert_nan (hg : 0 < g.fractionBits) {bits payload : Nat} {negative : Bool}
    (hnan : f.unpack bits = .nan negative payload) :
    ∃ payload', g.unpack (convert f g bits) = .nan negative payload' := by
  obtain ⟨quiet, hne, hlt, hconvert⟩ := convert_of_nan hg hnan
  have htop : g.topExponent < Nat.pow 2 g.exponentBits :=
    Nat.sub_lt (two_pow_pos _) Nat.one_pos
  have hunpack := unpack_ofFields negative htop hlt
  rw [meaning, if_pos rfl, if_neg hne] at hunpack
  exact ⟨quiet, hconvert ▸ hunpack⟩

/-- A pattern with its sign fits the bits of the format. -/
theorem withSign_lt (negative : Bool) {magnitude : Nat}
    (h : magnitude < g.infinityBits + Nat.pow 2 g.fractionBits) :
    g.withSign negative magnitude < Nat.pow 2 (g.exponentBits + g.fractionBits + 1) := by
  have hsum : g.infinityBits + Nat.pow 2 g.fractionBits = g.signBit := by
    rw [infinityBits, topExponent, signBit, two_pow_add, ← Nat.succ_mul, Nat.succ_eq_add_one,
      Nat.sub_add_cancel (two_pow_pos _)]
  change _ < g.signBit * 2
  rw [withSign]
  split <;> omega

/-- Rounding goes up to infinity and not beyond. -/
theorem round_le (m : Nat) (e : Int) : g.round m e ≤ g.infinityBits := by
  rw [round]
  split
  · exact Nat.zero_le _
  · exact Nat.min_le_right _ _

/-- Conversion gives bits that the format has room for. -/
theorem convert_lt (hg : 0 < g.fractionBits) (bits : Nat) :
    convert f g bits < Nat.pow 2 (g.exponentBits + g.fractionBits + 1) := by
  have hpos := two_pow_pos g.fractionBits
  cases h : f.unpack bits with
  | finite negative m e =>
    have hle : g.round m e ≤ g.infinityBits := round_le m e
    rw [convert_of_finite h]
    exact withSign_lt _ (by omega)
  | infinite negative =>
    rw [convert_of_infinite h]
    exact withSign_lt _ (by omega)
  | nan negative payload =>
    obtain ⟨quiet, -, hlt, hconvert⟩ := convert_of_nan hg h
    rw [hconvert]
    exact withSign_lt _ (by omega)

end BinaryFormat

/-! ## Numbers -/

/-- A number equals itself. -/
theorem Double.same_self {x : Double} (h : x.isNaN = false) : x.same x = true := by
  rw [isNaN] at h
  rw [same]
  split
  · simp_all
  · simp_all
  · rfl
  · exact beq_self_eq_true _

/-- Equal numbers have the same bits, but for the two zeros. -/
theorem Double.eq_or_zero_of_same {x y : Double} (h : x.same y = true) :
    (x = y ∧ y.isNaN = false) ∨ ∃ negative e, y.unpack = .finite negative 0 e := by
  rw [same] at h
  split at h
  · cases h
  · cases h
  · next hy => exact .inr ⟨_, _, hy⟩
  · next hy _ =>
    refine .inl ⟨congrArg Double.mk (eq_of_beq h), ?_⟩
    rw [isNaN]
    split
    · next negative payload hnan => exact absurd hnan (hy negative payload)
    · rfl

/-- The bits of a narrowed number are the converted ones, with none cut off. -/
theorem Double.toNat_bits_narrow (x : Double) :
    x.narrow.bits.toNat = convert binary64 binary32 x.bits.toNat := by
  have hlt : convert binary64 binary32 x.bits.toNat < Nat.pow 2 32 :=
    BinaryFormat.convert_lt (by decide) _
  exact UInt32.toNat_ofNat_of_lt' hlt

/-- A NaN is narrowed to a NaN. -/
theorem Double.isNaN_narrow {x : Double} (h : x.isNaN = true) : x.narrow.isNaN = true := by
  rw [isNaN, unpack] at h
  split at h
  · next negative payload hnan =>
    obtain ⟨payload', hnarrow⟩ := BinaryFormat.unpack_convert_nan (g := binary32) (by decide) hnan
    rw [Single.isNaN, Single.unpack, toNat_bits_narrow, hnarrow]
  · cases h

namespace Single

/-- The bits of a widened number are the converted ones, with none cut off. -/
theorem toNat_bits_widen (x : Single) :
    x.widen.bits.toNat = convert binary32 binary64 x.bits.toNat := by
  have hlt : convert binary32 binary64 x.bits.toNat < Nat.pow 2 64 :=
    BinaryFormat.convert_lt (by decide) _
  exact UInt64.toNat_ofNat_of_lt' hlt

/-- A NaN is widened to a NaN. -/
theorem isNaN_widen {x : Single} (h : x.isNaN = true) : x.widen.isNaN = true := by
  rw [isNaN, unpack] at h
  split at h
  · next negative payload hnan =>
    obtain ⟨payload', hwiden⟩ := BinaryFormat.unpack_convert_nan (g := binary64) (by decide) hnan
    rw [Double.isNaN, Double.unpack, toNat_bits_widen, hwiden]
  · cases h

/-- A number that is widened and narrowed is the same bits. -/
theorem narrow_widen {x : Single} (h : x.isNaN = false) : x.widen.narrow = x := by
  have hnan : ∀ negative payload, binary32.unpack x.bits.toNat ≠ .nan negative payload := by
    intro negative payload hnan
    rw [isNaN, unpack, hnan] at h
    cases h
  have hlt : x.bits.toNat < Nat.pow 2 32 := x.bits.toNat_lt
  have hback := BinaryFormat.convert_convert BinaryFormat.embeds_binary32_binary64 hlt hnan
  rw [Double.narrow, toNat_bits_widen, hback]
  exact congrArg Single.mk UInt32.ofNat_toNat

/-- Widening keeps apart what is a number. -/
theorem isNaN_widen_eq (x : Single) : x.widen.isNaN = x.isNaN := by
  cases h : x.isNaN with
  | true => exact isNaN_widen h
  | false =>
    refine Bool.eq_false_iff.2 fun hwiden => ?_
    have hnarrow := Double.isNaN_narrow hwiden
    rw [narrow_widen h, h] at hnarrow
    cases hnarrow

end Single

namespace Double

/-- Some number with 32 bits equals `x`. -/
def FitsSingle (x : Double) : Prop :=
  ∃ y : Single, y.widen.same x = true

/-- A number with 32 bits equals `x` exactly if the nearest one does. -/
theorem fitsSingle_iff {x : Double} : x.FitsSingle ↔ x.narrow.widen.same x = true := by
  refine ⟨?_, fun h => ⟨x.narrow, h⟩⟩
  rintro ⟨y, hy⟩
  rcases eq_or_zero_of_same hy with ⟨rfl, hnan⟩ | ⟨negative, e, hzero⟩
  · rw [Single.narrow_widen (by rwa [Single.isNaN_widen_eq] at hnan)]
    exact hy
  · -- Both conversions keep a zero, and zeros are equal whatever their signs.
    have hnarrow :
        binary32.unpack x.narrow.bits.toNat = .finite negative 0 binary32.minExponent := by
      rw [toNat_bits_narrow]
      exact BinaryFormat.unpack_convert_zero (by decide) hzero
    have hwiden : x.narrow.widen.unpack = .finite negative 0 binary64.minExponent := by
      rw [unpack, Single.toNat_bits_widen]
      exact BinaryFormat.unpack_convert_zero (by decide) hnarrow
    rw [same, hwiden, hzero]
    rfl

end Double

end WireSchema.Number
