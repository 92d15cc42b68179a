import WireSchema.Proofs.Game.Schema
import WireSchema.Proofs.Value.Normal
import WireSchema.Proofs.Wire.Forms

/-!
# Integers are written by their mathematical value

Values have integers with and without a sign, and fields have integer types with and without a sign.
Two of the four combinations convert the integer first, and the conversions fail on what only one
side can hold. All four come down to one rule (`Value.writeInteger_apply`): an integer in the range
of the field's type is written in two's complement with the bytes of the type, and any other is
refused by name. So the tag of the value makes no difference to a field of an integer type. It does
to all other fields, which name the tag when they refuse the integer
(`Value.string_field_tells_integers_apart`).
-/

namespace WireSchema

open Writer

namespace Value

/-! ## Conversions -/

/-- The integer of a word with a sign, from the same word read without a sign. -/
theorem toInt_eq_word (n : Int64) :
    n.toInt = if 2 * n.toUInt64.toNat < 18446744073709551616 then (n.toUInt64.toNat : Int)
      else n.toUInt64.toNat - 18446744073709551616 :=
  BitVec.toInt_eq_toNat_cond n.toBitVec

/-- A negative number does not become an unsigned one. -/
theorem unsigned?_of_neg {n : Int64} (h : n.toInt < 0) : unsigned? n = none :=
  if_pos (Int64.lt_iff_toInt_lt.2 h)

/-- An integer that is not negative is converted to the same integer without a sign. -/
theorem unsigned?_of_nonneg {n : Int64} (h : 0 ≤ n.toInt) :
    ∃ m, unsigned? n = some m ∧ (m.toNat : Int) = n.toInt := by
  refine ⟨n.toUInt64, if_neg fun hn => ?_, ?_⟩
  · have hneg : n.toInt < 0 := Int64.lt_iff_toInt_lt.1 hn
    omega
  · have hlt := n.toUInt64.toNat_lt
    have hword := toInt_eq_word n
    split at hword <;> omega

/-- A number beyond the signed ones does not become one. -/
theorem signed?_of_lt {n : UInt64} (h : 9223372036854775807 < n.toNat) : signed? n = none :=
  if_pos (UInt64.lt_iff_toNat_lt.2 (show Int64.maxValue.toUInt64.toNat < n.toNat from h))

/-- An integer that leaves the top bit free is converted to the same integer with a sign. -/
theorem signed?_of_le {n : UInt64} (h : n.toNat ≤ 9223372036854775807) :
    ∃ m, signed? n = some m ∧ m.toInt = n.toNat := by
  refine ⟨n.toInt64, if_neg fun hn => ?_, ?_⟩
  · have hlt : 9223372036854775807 < n.toNat := UInt64.lt_iff_toNat_lt.1 hn
    omega
  · rw [toInt_eq_word, UInt64.toUInt64_toInt64, if_pos (by omega)]

/-! ## The rule of writing -/

/-- What a field of an integer type does with an integer: it appends its bytes if the integer is in
    range, and reports it otherwise. -/
def integerOutcome (t : IntType) (z : Int) (b : ByteArray) :
    EStateM.Result ValueError ByteArray Unit :=
  if t.min ≤ z ∧ z ≤ t.max then .ok () (b ++ (leBytesInt t.width.bytes z).toByteArray)
  else .error (.encode (.outOfRange z t)) b

/-- Writing an unsigned integer ends as the range of its type says. -/
theorem writeUInt_outcome (w : Width) (n : Nat) (b : ByteArray) :
    (writeUInt w n).mapError ValueError.encode b = integerOutcome ⟨false, w⟩ n b := by
  change _ = if 0 ≤ (n : Int) ∧ (n : Int) ≤ w.unsignedMax then _ else _
  by_cases h : w.unsignedMax < n
  · rw [if_neg (by omega), Writer.mapError, writeUInt, if_pos h]
    rfl
  · obtain ⟨h₀, h₁⟩ := (w.unsigned_bounds n).1 (by omega)
    rw [if_pos (by omega), Writer.mapError, writeUInt, if_neg h, leBytesInt_of_nonneg h₀ h₁]
    rfl

/-- Writing a signed integer ends as the range of its type says. -/
theorem writeInt_outcome (w : Width) (z : Int) (b : ByteArray) :
    (writeInt w z).mapError ValueError.encode b = integerOutcome ⟨true, w⟩ z b := by
  change _ = if w.signedMin ≤ z ∧ z ≤ w.signedMax then _ else _
  by_cases h : z < w.signedMin ∨ w.signedMax < z
  · rw [if_neg (by omega), Writer.mapError, writeInt, if_pos (by simpa using h)]
    rfl
  · rw [if_pos (by omega), Writer.mapError, writeInt, if_neg (by simpa using h)]
    rfl

/-- A negative integer is in the range of no type without a sign. -/
theorem integerOutcome_of_neg {w : Width} {z : Int} (hz : z < 0) (b : ByteArray) :
    integerOutcome ⟨false, w⟩ z b = .error (.encode (.outOfRange z ⟨false, w⟩)) b :=
  if_neg fun h => absurd (show 0 ≤ z from h.1) (by omega)

/-- An integer with more than 63 bits is in the range of no type with a sign. -/
theorem integerOutcome_of_large {w : Width} {z : Int} (hz : 9223372036854775807 < z)
    (b : ByteArray) :
    integerOutcome ⟨true, w⟩ z b = .error (.encode (.outOfRange z ⟨true, w⟩)) b := by
  refine if_neg fun h => ?_
  have hmax : z ≤ w.signedMax := h.2
  have hw : w.signedMax ≤ 9223372036854775807 := by cases w <;> decide
  omega

/-- The rule of all four combinations: a field of an integer type looks at the integer only. -/
theorem writeInteger_apply {v : Value} {z : Int} (h : v.integer? = some z) (t : IntType)
    (b : ByteArray) : v.writeInteger t b = integerOutcome t z b := by
  obtain ⟨signed, w⟩ := t
  cases v with
  | uint n =>
    cases h
    cases signed with
    | false => exact writeUInt_outcome w n.toNat b
    | true =>
      -- A number that does not fit the other signedness is out of range, and so it is reported.
      by_cases hn : n.toNat ≤ 9223372036854775807
      · obtain ⟨m, hm, hmn⟩ := signed?_of_le hn
        simp only [writeInteger, hm]
        rw [writeInt_outcome, hmn]
      · rw [integerOutcome_of_large (by omega)]
        simp only [writeInteger, signed?_of_lt (by omega : 9223372036854775807 < n.toNat)]
        rfl
  | int n =>
    cases h
    cases signed with
    | false =>
      by_cases hn : 0 ≤ n.toInt
      · obtain ⟨m, hm, hmn⟩ := unsigned?_of_nonneg hn
        simp only [writeInteger, hm]
        rw [writeUInt_outcome, hmn]
      · rw [integerOutcome_of_neg (by omega)]
        simp only [writeInteger, unsigned?_of_neg (by omega : n.toInt < 0)]
        rfl
    | true => exact writeInt_outcome w n.toInt b
  | bool | float | string | array | enumeration | message => cases h

/-- What is no integer is refused by a field of an integer type. -/
theorem writeInteger_of_none {v : Value} (h : v.integer? = none) (t : IntType) :
    v.writeInteger t = v.mismatch t.name := by
  cases v with
  | uint | int => cases h
  | bool | float | string | array | enumeration | message => rfl

/-- What a field of an integer type accepts, and what it writes. -/
theorem writeInteger_writes_iff {t : IntType} {v : Value} {e : ByteArray} :
    (v.writeInteger t).Writes e ↔ ∃ z, v.integer? = some z ∧
      (t.min ≤ z ∧ z ≤ t.max) ∧ e = (leBytesInt t.width.bytes z).toByteArray := by
  refine ⟨fun h => ?_, ?_⟩
  · have hrun := h .empty
    cases hz : v.integer? with
    | none =>
      rw [writeInteger_of_none hz] at hrun
      cases hrun
    | some z =>
      rw [writeInteger_apply hz, integerOutcome] at hrun
      split at hrun
      · next hfits => exact ⟨z, rfl, hfits, by simpa using (EStateM.Result.ok.inj hrun).2.symm⟩
      · cases hrun
  · rintro ⟨z, hz, hfits, rfl⟩ b
    rw [writeInteger_apply hz, integerOutcome, if_pos hfits]

/-- The bytes of an integer are read back as the integer, by the reader of its signedness. -/
theorem readBack_integer {t : IntType} {z : Int} (hz : t.min ≤ z ∧ z ≤ t.max) :
    (t.signed = true → (readInt t.width).Accepts z (leBytesInt t.width.bytes z).toByteArray) ∧
    (t.signed = false → ∃ n : Nat, (n : Int) = z ∧
      (readUInt t.width).Accepts n (leBytesInt t.width.bytes z).toByteArray) := by
  obtain ⟨signed, w⟩ := t
  refine ⟨?_, ?_⟩
  · rintro rfl
    exact readInt_accepts hz
  · rintro rfl
    have hfits : 0 ≤ z ∧ z ≤ (w.unsignedMax : Int) := hz
    obtain ⟨h₀, h₁⟩ := (w.unsigned_bounds z).1 hfits
    have hle : z.toNat ≤ w.unsignedMax := by omega
    refine ⟨z.toNat, Int.toNat_of_nonneg h₀, ?_⟩
    rw [leBytesInt_of_nonneg h₀ h₁]
    exact readUInt_accepts hle

variable {s : Schema} {v : Value} {z : Int}

/-- A value has an integer if its tag is one of two. -/
theorem forall_integer {P : Value → Prop} (huint : ∀ n, P (.uint n)) (hint : ∀ n, P (.int n)) :
    ∀ v : Value, v.integer?.isSome → P v := by
  intro v hv
  cases v with
  | uint n => exact huint n
  | int n => exact hint n
  | bool | float | string | array | enumeration | message => cases hv

/-- A field that takes no integers refuses them without a look at their value. -/
theorem write_integer_elsewhere (s : Schema) {kind : Kind}
    (hkind : ∀ t, kind ≠ .primitive (.int t)) :
    (∃ name, ∀ v : Value, v.integer?.isSome → v.write s kind = throw (.unknownType name)) ∨
      ∃ expected, ∀ v : Value, v.integer?.isSome → v.write s kind = v.mismatch expected := by
  cases kind with
  | primitive p =>
    refine .inr ⟨p.name, ?_⟩
    cases p with
    | int t => exact absurd rfl (hkind t)
    | single | double | bool | string => exact forall_integer (fun _ => rfl) fun _ => rfl
  | array element len =>
    exact .inr ⟨(Kind.array element len).toText, forall_integer (fun _ => rfl) fun _ => rfl⟩
  | named name =>
    cases hname : s.resolve? name with
    | none =>
      refine .inl ⟨name, ?_⟩
      exact forall_integer (fun _ => by rw [write, hname]) fun _ => by rw [write, hname]
    | some type =>
      cases type with
      | message m =>
        refine .inr ⟨"message " ++ m.name, ?_⟩
        exact forall_integer (fun _ => by rw [write, hname]) fun _ => by rw [write, hname]
      | enumeration e =>
        refine .inr ⟨"enum " ++ e.name, ?_⟩
        exact forall_integer (fun _ => by rw [write, hname]; rfl) fun _ => by rw [write, hname]; rfl
  | unsupported text =>
    exact .inl ⟨text, forall_integer (fun _ => rfl) fun _ => rfl⟩

theorem write_int (s : Schema) (v : Value) (t : IntType) :
    v.write s (.primitive (.int t)) = v.writeInteger t := by
  rw [write, writePrimitive]

/-- Two values with one integer are written alike by a field of an integer type. -/
theorem writeInteger_congr {w : Value} (hv : v.integer? = some z) (hw : w.integer? = some z)
    (t : IntType) : v.writeInteger t = w.writeInteger t :=
  funext fun b => (writeInteger_apply hv t b).trans (writeInteger_apply hw t b).symm

/-- An integer that is out of range leaves what was written before. -/
theorem write_integer_of_out_of_range (h : v.integer? = some z) {t : IntType}
    (hz : ¬(t.min ≤ z ∧ z ≤ t.max)) (b : ByteArray) :
    v.write s (.primitive (.int t)) b = .error (.encode (.outOfRange z t)) b := by
  rw [write_int, writeInteger_apply h, integerOutcome, if_neg hz]

/-- An error of writing is the one of encoding. -/
theorem encodeField_of_write_error {kind : Kind} {err : ValueError} {b : ByteArray}
    (h : v.write s kind b = .error err b) : v.encodeField s kind b = .error err b := by
  rw [encodeField, Writer.allOrNothing, h]
  simp

/-- An integer is written exactly if it is in the range of the field's type, as its bytes in two's
    complement, which are read back as the integer. Any other integer is reported with the type, and
    nothing is written. So integers of both tags are treated alike by a field of an integer type;
    all other fields refuse them, in words that differ in the tag alone. -/
theorem encodeField_integer (s : Schema) (t : IntType) {v w : Value} {z : Int}
    (hv : v.integer? = some z) (hw : w.integer? = some z) :
    (t.min ≤ z ∧ z ≤ t.max →
      let e := (leBytesInt t.width.bytes z).toByteArray
      e.size = t.width.bytes ∧
      (∀ b, v.encodeField s (.primitive (.int t)) b = .ok () (b ++ e)) ∧
      ∀ before after : ByteArray,
        let data := before ++ e ++ after
        (t.signed = true →
          readInt t.width ⟨data, before.size⟩ = .ok z ⟨data, before.size + e.size⟩) ∧
        (t.signed = false → ∃ n : Nat, (n : Int) = z ∧
          readUInt t.width ⟨data, before.size⟩ = .ok n ⟨data, before.size + e.size⟩)) ∧
    (¬(t.min ≤ z ∧ z ≤ t.max) → ∀ b,
      v.write s (.primitive (.int t)) b = .error (.encode (.outOfRange z t)) b ∧
      v.encodeField s (.primitive (.int t)) b = .error (.encode (.outOfRange z t)) b) ∧
    v.encodeField s (.primitive (.int t)) = w.encodeField s (.primitive (.int t)) ∧
    ∀ kind, (∀ t, kind ≠ .primitive (.int t)) → ∀ b,
      (∃ name, v.encodeField s kind b = .error (.unknownType name) b ∧
        w.encodeField s kind b = .error (.unknownType name) b) ∨
      ∃ expected, v.encodeField s kind b = .error (.typeMismatch expected v.describe) b ∧
        w.encodeField s kind b = .error (.typeMismatch expected w.describe) b := by
  refine ⟨fun hz => ⟨by simp, ?_, fun before after => ?_⟩, fun hz b => ?_, ?_,
    fun kind hkind b => ?_⟩
  · rw [encodeField, write_int]
    exact writes_allOrNothing_iff.2 (writeInteger_writes_iff.2 ⟨z, hv, hz, rfl⟩)
  · obtain ⟨hsigned, hunsigned⟩ := readBack_integer hz
    refine ⟨fun h => hsigned h (.between before _ after), fun h => ?_⟩
    obtain ⟨n, hn, haccepts⟩ := hunsigned h
    exact ⟨n, hn, haccepts (.between before _ after)⟩
  · have hwrite := write_integer_of_out_of_range (s := s) hv hz b
    exact ⟨hwrite, encodeField_of_write_error hwrite⟩
  · rw [encodeField, encodeField, write_int, write_int, writeInteger_congr hv hw]
  · -- Elsewhere both values are refused before their tags are told apart, but each is described.
    have hvs : v.integer?.isSome := by simp [hv]
    have hws : w.integer?.isSome := by simp [hw]
    refine (write_integer_elsewhere s hkind).imp ?_ ?_
    · rintro ⟨name, h⟩
      exact ⟨name, encodeField_of_write_error (by rw [h v hvs]; rfl),
        encodeField_of_write_error (by rw [h w hws]; rfl)⟩
    · rintro ⟨expected, h⟩
      exact ⟨expected, encodeField_of_write_error (by rw [h v hvs]; rfl),
        encodeField_of_write_error (by rw [h w hws]; rfl)⟩

/-- A field of strings refuses five with a sign and five without a sign in different words. -/
theorem string_field_tells_integers_apart :
    (uint 5).integer? = (int 5).integer? ∧
    (∀ b, (uint 5).encodeField Game.schema (.primitive .string) b =
      .error (.typeMismatch "string" "unsigned integer") b) ∧
    (∀ b, (int 5).encodeField Game.schema (.primitive .string) b =
      .error (.typeMismatch "string" "signed integer") b) ∧
    (uint 5).encodeField Game.schema (.primitive .string) ≠
      (int 5).encodeField Game.schema (.primitive .string) := by
  have huint : ∀ b, (uint 5).encodeField Game.schema (.primitive .string) b =
      .error (.typeMismatch "string" "unsigned integer") b :=
    fun b => encodeField_of_write_error rfl
  have hint : ∀ b, (int 5).encodeField Game.schema (.primitive .string) b =
      .error (.typeMismatch "string" "signed integer") b :=
    fun b => encodeField_of_write_error rfl
  refine ⟨by decide, huint, hint, fun hsame => ?_⟩
  have hrun := congrFun hsame .empty
  rw [huint, hint] at hrun
  exact absurd (EStateM.Result.error.inj hrun).1 (by decide)

/-- Bytes without a sign. -/
def u8 : IntType := ⟨false, .w8⟩

/-- Bytes with a sign. -/
def i8 : IntType := ⟨true, .w8⟩

/-- Two hundred is a byte, but not with a sign; the least byte with a sign has its top bit alone. -/
theorem encodeField_integer_bytes :
    (∀ b, (uint 200).encodeField Game.schema (.primitive (.int u8)) b =
      .ok () (b ++ [200].toByteArray)) ∧
    (∀ b, (int (-128)).encodeField Game.schema (.primitive (.int i8)) b =
      .ok () (b ++ [128].toByteArray)) ∧
    readInt .w8 ⟨[7].toByteArray ++ [128].toByteArray ++ [7].toByteArray, 1⟩ =
      .ok (-128) ⟨[7].toByteArray ++ [128].toByteArray ++ [7].toByteArray, 2⟩ ∧
    (∀ b, (int 200).encodeField Game.schema (.primitive (.int i8)) b =
      .error (.encode (.outOfRange 200 i8)) b) ∧
    (uint 200).encodeField Game.schema (.primitive (.int i8)) =
      (int 200).encodeField Game.schema (.primitive (.int i8)) := by
  have huint : (uint 200).integer? = some 200 := by decide
  have hint : (int 200).integer? = some 200 := by decide
  have hleast : (int (-128)).integer? = some (-128) := by decide
  obtain ⟨hbyte, -⟩ := encodeField_integer Game.schema u8 huint hint
  obtain ⟨hsigned, -⟩ := encodeField_integer Game.schema i8 hleast hleast
  obtain ⟨-, hout, -⟩ := encodeField_integer Game.schema i8 hint huint
  obtain ⟨-, -, hsame, -⟩ := encodeField_integer Game.schema i8 huint hint
  obtain ⟨-, hwrite, hread⟩ := hsigned (by decide)
  refine ⟨(hbyte (by decide)).2.1, hwrite, ?_, fun b => (hout (by decide) b).2, hsame⟩
  exact (hread [7].toByteArray [7].toByteArray).1 rfl

end Value

end WireSchema
