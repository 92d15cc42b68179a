import WireSchema.Proofs.Wire.Reader

/-!
# Forms of numbers, truth values, texts and counts

What each reader of the wire layer consumes, and that it accepts the same form back. Integers have
their little-endian bytes, truth values a byte that is zero or one, and texts the number of their
bytes in front of them.
-/

namespace WireSchema

open WireSchema.Number

/-! ## Bytes and integers -/

open Reader

theorem readBytes_apply (n : Nat) (c : Cursor) :
    readBytes n c =
      if c.remaining < n then .error (.error (.truncated c.index n c.remaining)) c
      else if c.data.size < c.index then .error .fault c
      else .ok (c.data.extract c.index (c.index + n)) ⟨c.data, c.index + n⟩ := by
  rw [readBytes, Run.get_bind]
  split
  · rfl
  · split <;> rfl

/-- Bytes are read if the data has them at the cursor. -/
theorem readBytes_eq_ok_iff {n : Nat} {c c' : Cursor} {b : ByteArray} :
    readBytes n c = .ok b c' ↔ b.size = n ∧ Spans c b c' := by
  rw [readBytes_apply]
  constructor
  · intro h
    have hrem : ¬ c.remaining < n := fun hlt => by rw [if_pos hlt] at h; cases h
    -- Behind the end nothing remains, so reading no bytes there is a fault of its own.
    have hidx : ¬ c.data.size < c.index := fun hlt => by rw [if_neg hrem, if_pos hlt] at h; cases h
    rw [if_neg hrem, if_neg hidx] at h
    rw [Cursor.remaining] at hrem
    cases h
    have hsize : (c.data.extract c.index (c.index + n)).size = n := by
      rw [ByteArray.size_extract]
      omega
    refine ⟨hsize, rfl, ?_, ?_, rfl⟩
    · rw [hsize]
    · show c.index + n ≤ c.data.size
      omega
  · rintro ⟨rfl, h⟩
    have := h.index_eq
    have := h.le_size
    have hrem : ¬ c.remaining < b.size := by
      rw [Cursor.remaining]
      omega
    rw [if_neg hrem, if_neg (by omega), ← h.index_eq, h.extract_eq, ← h.data_eq]

theorem readBytes_consumes (n : Nat) : (readBytes n).Consumes fun b e => b = e ∧ e.size = n := by
  intro c b c' _ h
  obtain ⟨hsize, hspan⟩ := readBytes_eq_ok_iff.1 h
  exact ⟨b, hspan, rfl, hsize⟩

theorem readBytes_accepts {n : Nat} {e : ByteArray} (h : e.size = n) :
    (readBytes n).Accepts e e :=
  fun _ _ hspan => readBytes_eq_ok_iff.2 ⟨h, hspan⟩

/-- The bytes of a number that was read from bytes. -/
theorem toByteArray_leBytes_leValue (e : ByteArray) :
    (leBytes e.size (leValue e.data.toList)).toByteArray = e := by
  have hlen : e.data.toList.length = e.size := by simp
  rw [← hlen, leBytes_leValue]
  ext1
  simp

/-- The bytes of an integer that was read from bytes. -/
theorem toByteArray_leBytesInt_leValueInt (e : ByteArray) :
    (leBytesInt e.size (leValueInt e.data.toList)).toByteArray = e := by
  have hlen : e.data.toList.length = e.size := by simp
  rw [← hlen, leBytesInt_leValueInt]
  ext1
  simp

/-- An unsigned integer is read from its bytes, the lowest first. -/
theorem readUInt_consumes (w : Width) :
    (readUInt w).Consumes fun n e => n ≤ w.unsignedMax ∧ e = (leBytes w.bytes n).toByteArray := by
  refine ((readBytes_consumes w.bytes).bind fun b => consumes_pure _).mono ?_
  rintro n _ ⟨b, e, _, ⟨rfl, hsize⟩, ⟨rfl, rfl⟩, rfl⟩
  rw [ByteArray.append_empty, ← hsize, toByteArray_leBytes_leValue]
  refine ⟨?_, rfl⟩
  have hlt := leValue_lt b.data.toList
  rw [Array.length_toList, ByteArray.size_data, hsize, Width.pow_bytes] at hlt
  omega

theorem readUInt_le {w : Width} {n : Nat} {c c' : Cursor} (h : readUInt w c = .ok n c') :
    n ≤ w.unsignedMax := by
  obtain ⟨b, c₁, hb, -⟩ := Run.bind_eq_ok_iff.1 h
  obtain ⟨e, -, hn, -⟩ := readUInt_consumes w (readBytes_eq_ok_iff.1 hb).2.start_le h
  exact hn

/-- The bytes of an unsigned integer are read as it. -/
theorem readUInt_accepts {w : Width} {n : Nat} (h : n ≤ w.unsignedMax) :
    (readUInt w).Accepts n (leBytes w.bytes n).toByteArray := by
  have hread : leValue (leBytes w.bytes n).toByteArray.data.toList = n := by
    rw [List.toList_data_toByteArray, leValue_leBytes, Width.pow_bytes]
    exact Nat.mod_eq_of_lt (by omega)
  intro c c' hspan
  rw [readUInt, Run.bind_of_ok (readBytes_accepts (by simp) hspan), hread]
  rfl

/-- A signed integer is read from its bytes, the lowest first. -/
theorem readInt_consumes (w : Width) :
    (readInt w).Consumes fun n e =>
      (w.signedMin ≤ n ∧ n ≤ w.signedMax) ∧ e = (leBytesInt w.bytes n).toByteArray := by
  refine ((readBytes_consumes w.bytes).bind fun b => consumes_pure _).mono ?_
  rintro n _ ⟨b, e, _, ⟨rfl, hsize⟩, ⟨rfl, rfl⟩, rfl⟩
  rw [ByteArray.append_empty, ← hsize, toByteArray_leBytesInt_leValueInt]
  refine ⟨?_, rfl⟩
  have hbounds := leValueInt_bounds b.data.toList
  rwa [Array.length_toList, ByteArray.size_data, hsize, ← Width.signed_bounds] at hbounds

theorem readInt_bounds {w : Width} {n : Int} {c c' : Cursor} (h : readInt w c = .ok n c') :
    w.signedMin ≤ n ∧ n ≤ w.signedMax := by
  obtain ⟨b, c₁, hb, -⟩ := Run.bind_eq_ok_iff.1 h
  obtain ⟨e, -, hn, -⟩ := readInt_consumes w (readBytes_eq_ok_iff.1 hb).2.start_le h
  exact hn

/-- The bytes of a signed integer are read as it. -/
theorem readInt_accepts {w : Width} {n : Int} (h : w.signedMin ≤ n ∧ n ≤ w.signedMax) :
    (readInt w).Accepts n (leBytesInt w.bytes n).toByteArray := by
  have hread : leValueInt (leBytesInt w.bytes n).toByteArray.data.toList = n := by
    rw [List.toList_data_toByteArray]
    exact leValueInt_leBytesInt ((Width.signed_bounds w n).1 h).1 ((Width.signed_bounds w n).1 h).2
  intro c c' hspan
  rw [readInt, Run.bind_of_ok (readBytes_accepts (by simp) hspan), hread]
  rfl

/-! ## Numbers of fixed types -/

section

variable {β : Type} {w : Width} {of : Nat → β} {toNat : β → Nat}

/-- A type whose values are the numbers of a width is read in the form of its numbers. -/
theorem readUInt_map_consumes (h : ∀ n, n ≤ w.unsignedMax → toNat (of n) = n) :
    (of <$> readUInt w).Consumes fun v e => e = (leBytes w.bytes (toNat v)).toByteArray := by
  refine ((readUInt_consumes w).map of).mono ?_
  rintro _ _ ⟨n, ⟨hn, rfl⟩, rfl⟩
  rw [h n hn]

theorem readUInt_map_accepts (hle : ∀ v, toNat v ≤ w.unsignedMax) (hof : ∀ v, of (toNat v) = v)
    (v : β) : (of <$> readUInt w).Accepts v (leBytes w.bytes (toNat v)).toByteArray := by
  have := (readUInt_accepts (hle v)).map of
  rwa [hof] at this

theorem readInt_map_accepts {ofInt : Int → β} {toInt : β → Int}
    (hbounds : ∀ v, w.signedMin ≤ toInt v ∧ toInt v ≤ w.signedMax)
    (hof : ∀ v, ofInt (toInt v) = v) (v : β) :
    (ofInt <$> readInt w).Accepts v (leBytesInt w.bytes (toInt v)).toByteArray := by
  have := (readInt_accepts (hbounds v)).map ofInt
  rwa [hof] at this

end

theorem readU8_consumes : readU8.Consumes fun v e => e = (leBytes 1 v.toNat).toByteArray :=
  readUInt_map_consumes fun _ h => UInt8.toNat_ofNat_of_lt' (Nat.lt_succ_of_le h)

theorem readU8_accepts (v : UInt8) : readU8.Accepts v (leBytes 1 v.toNat).toByteArray :=
  readUInt_map_accepts (fun v => Nat.le_of_lt_succ v.toNat_lt) (fun _ => UInt8.ofNat_toNat) v

theorem readU16_accepts (v : UInt16) : readU16.Accepts v (leBytes 2 v.toNat).toByteArray :=
  readUInt_map_accepts (fun v => Nat.le_of_lt_succ v.toNat_lt) (fun _ => UInt16.ofNat_toNat) v

theorem readU32_consumes : readU32.Consumes fun v e => e = (leBytes 4 v.toNat).toByteArray :=
  readUInt_map_consumes fun _ h => UInt32.toNat_ofNat_of_lt' (Nat.lt_succ_of_le h)

theorem readU32_accepts (v : UInt32) : readU32.Accepts v (leBytes 4 v.toNat).toByteArray :=
  readUInt_map_accepts (fun v => Nat.le_of_lt_succ v.toNat_lt) (fun _ => UInt32.ofNat_toNat) v

theorem readU64_consumes : readU64.Consumes fun v e => e = (leBytes 8 v.toNat).toByteArray :=
  readUInt_map_consumes fun _ h => UInt64.toNat_ofNat_of_lt' (Nat.lt_succ_of_le h)

theorem readU64_accepts (v : UInt64) : readU64.Accepts v (leBytes 8 v.toNat).toByteArray :=
  readUInt_map_accepts (fun v => Nat.le_of_lt_succ v.toNat_lt) (fun _ => UInt64.ofNat_toNat) v

theorem readI8_accepts (v : Int8) : readI8.Accepts v (leBytesInt 1 v.toInt).toByteArray :=
  readInt_map_accepts (fun v => ⟨v.le_toInt, Int.le_of_lt_add_one v.toInt_lt⟩)
    (fun v => v.ofInt_toInt) v

theorem readI16_accepts (v : Int16) : readI16.Accepts v (leBytesInt 2 v.toInt).toByteArray :=
  readInt_map_accepts (fun v => ⟨v.le_toInt, Int.le_of_lt_add_one v.toInt_lt⟩)
    (fun v => v.ofInt_toInt) v

theorem readI32_accepts (v : Int32) : readI32.Accepts v (leBytesInt 4 v.toInt).toByteArray :=
  readInt_map_accepts (fun v => ⟨v.le_toInt, Int.le_of_lt_add_one v.toInt_lt⟩)
    (fun v => v.ofInt_toInt) v

theorem readI64_accepts (v : Int64) : readI64.Accepts v (leBytesInt 8 v.toInt).toByteArray :=
  readInt_map_accepts (fun v => ⟨v.le_toInt, Int.le_of_lt_add_one v.toInt_lt⟩)
    (fun v => v.ofInt_toInt) v

theorem readSingle_consumes :
    readSingle.Consumes fun x e => e = (leBytes 4 x.bits.toNat).toByteArray := by
  refine (readU32_consumes.map Single.mk).mono ?_
  rintro _ _ ⟨v, rfl, rfl⟩
  rfl

theorem readSingle_accepts (x : Single) :
    readSingle.Accepts x (leBytes 4 x.bits.toNat).toByteArray :=
  (readU32_accepts x.bits).map Single.mk

theorem readDouble_consumes :
    readDouble.Consumes fun x e => e = (leBytes 8 x.bits.toNat).toByteArray := by
  refine (readU64_consumes.map Double.mk).mono ?_
  rintro _ _ ⟨v, rfl, rfl⟩
  rfl

theorem readDouble_accepts (x : Double) :
    readDouble.Accepts x (leBytes 8 x.bits.toNat).toByteArray :=
  (readU64_accepts x.bits).map Double.mk

/-! ## Truth values -/

/-- Only zero and one are truth values. -/
theorem readBool_consumes : readBool.Consumes fun b e => e = (leBytes 1 b.toNat).toByteArray := by
  intro c b c' hc h
  rw [readBool, Run.get_bind] at h
  obtain ⟨v, c₁, hv, hb⟩ := Run.bind_eq_ok_iff.1 h
  obtain ⟨e, he, rfl⟩ := readU8_consumes hc hv
  split at hb
  · next h0 =>
    cases hb
    exact ⟨_, he, by rw [h0]; rfl⟩
  · split at hb
    · next h1 =>
      cases hb
      exact ⟨_, he, by rw [h1]; rfl⟩
    · cases hb

theorem readBool_accepts (b : Bool) : readBool.Accepts b (leBytes 1 b.toNat).toByteArray := by
  intro c c' h
  rw [readBool, Run.get_bind]
  cases b with
  | false =>
    rw [Run.bind_of_ok (readU8_accepts 0 h)]
    rfl
  | true =>
    rw [Run.bind_of_ok (readU8_accepts 1 h)]
    rfl

/-! ## Lengths, texts and sequences -/

theorem readLen_consumes :
    readLen.Consumes fun n e => n ≤ Width.w32.unsignedMax ∧ e = (leBytes 4 n).toByteArray :=
  readUInt_consumes .w32

theorem readLen_accepts {n : Nat} (h : n ≤ Width.w32.unsignedMax) :
    readLen.Accepts n (leBytes 4 n).toByteArray :=
  readUInt_accepts (w := .w32) h

theorem readString_apply (c : Cursor) :
    readString c = (readLen >>= fun len => get >>= fun c' =>
      if c'.remaining < len then Reader.fail (.lengthOverrun c.index len c'.remaining)
      else readBytes len >>= fun bytes =>
        match String.fromUTF8? bytes with
        | some s => pure s
        | none => Reader.fail (.invalidUtf8 c.index)) c := rfl

/-- Bytes are a text if they are its encoding. -/
theorem fromUTF8?_eq_some_iff {b : ByteArray} {s : String} :
    String.fromUTF8? b = some s ↔ b = s.toUTF8 := by
  rw [String.fromUTF8?]
  constructor
  · intro h
    split at h
    · cases h
      rfl
    · cases h
  · rintro rfl
    rw [String.toUTF8_eq_toByteArray, dif_pos s.isValidUTF8]
    rfl

/-- A text is read from its length and its encoding. -/
theorem readString_consumes :
    readString.Consumes fun s e => s.utf8ByteSize ≤ Width.w32.unsignedMax ∧
      e = (leBytes 4 s.utf8ByteSize).toByteArray ++ s.toUTF8 := by
  intro c s c' hc h
  rw [readString_apply] at h
  obtain ⟨n, c₁, hn, h⟩ := Run.bind_eq_ok_iff.1 h
  obtain ⟨e, he, hle, rfl⟩ := readLen_consumes hc hn
  rw [Run.get_bind] at h
  split at h
  · cases h
  · obtain ⟨b, c₂, hb, h⟩ := Run.bind_eq_ok_iff.1 h
    obtain ⟨hsize, hspan⟩ := readBytes_eq_ok_iff.1 hb
    cases hs : String.fromUTF8? b with
    | none =>
      rw [hs] at h
      cases h
    | some s' =>
      rw [hs] at h
      cases h
      -- Decoding UTF-8 loses nothing, so the bytes are those of the text.
      rw [fromUTF8?_eq_some_iff.1 hs] at hsize hspan
      have hlen : n = s.utf8ByteSize := hsize.symm
      exact ⟨_, he.append hspan, hlen ▸ hle, by rw [hlen]⟩

/-- The length of a text and its encoding are read as it. -/
theorem readString_accepts {s : String} (h : s.utf8ByteSize ≤ Width.w32.unsignedMax) :
    readString.Accepts s ((leBytes 4 s.utf8ByteSize).toByteArray ++ s.toUTF8) := by
  intro c c' hspan
  obtain ⟨c₁, h₁, h₂⟩ := hspan.split
  have hrem : ¬ c₁.remaining < s.utf8ByteSize := by
    rw [h₂.remaining_eq]
    exact Nat.not_lt.2 (Nat.le_add_right _ _)
  have hbytes : readBytes s.utf8ByteSize c₁ = .ok s.toUTF8 c' := readBytes_accepts rfl h₂
  rw [readString_apply, Run.bind_of_ok (readLen_accepts h h₁), Run.get_bind, if_neg hrem,
    Run.bind_of_ok hbytes, fromUTF8?_eq_some_iff.2 rfl]
  rfl

/-- A count is taken when the bytes behind it can hold that many elements. -/
theorem readCount_eq_ok_iff {minSize n : Nat} {c c' : Cursor} :
    readCount minSize c = .ok n c' ↔
      readLen c = .ok n c' ∧ sizeMul n (max minSize 1) ≤ c'.remaining := by
  rw [readCount, Run.get_bind]
  constructor
  · intro h
    obtain ⟨n', c₁, hn, h⟩ := Run.bind_eq_ok_iff.1 h
    rw [Run.get_bind] at h
    split at h
    · cases h
    · next hrem =>
      cases h
      exact ⟨hn, Nat.le_of_not_lt hrem⟩
  · rintro ⟨hn, hrem⟩
    rw [Run.bind_of_ok hn, Run.get_bind, if_neg (Nat.not_lt.2 hrem)]
    rfl

/-- A count that is let through is not more than the bytes behind it. It has 32 bits, so the bytes
    that it claims are not cut short by the limit on sizes. -/
theorem readCount_le_remaining {minSize n : Nat} {c c' : Cursor}
    (h : readCount minSize c = .ok n c') : n ≤ c'.remaining := by
  obtain ⟨hlen, hclaim⟩ := readCount_eq_ok_iff.1 h
  have hlimit : n ≤ sizeLimit := Nat.le_trans (readUInt_le hlen) (by decide)
  have hmul : n ≤ n * max minSize 1 := Nat.le_mul_of_pos_right n (by omega)
  exact Nat.le_trans (Nat.le_min.2 ⟨hmul, hlimit⟩) hclaim

theorem readCount_consumes (minSize : Nat) :
    (readCount minSize).Consumes fun n e =>
      n ≤ Width.w32.unsignedMax ∧ e = (leBytes 4 n).toByteArray :=
  fun _ _ _ hc h => readLen_consumes hc (readCount_eq_ok_iff.1 h).1

/-- The count of elements that follow it is taken. -/
theorem readCount_of_spans {minSize n : Nat} {c c' c'' : Cursor} {e : ByteArray}
    (hn : n ≤ Width.w32.unsignedMax) (hspan : Spans c (leBytes 4 n).toByteArray c')
    (hspan' : Spans c' e c'') (he : n * max minSize 1 ≤ e.size) :
    readCount minSize c = .ok n c' := by
  refine readCount_eq_ok_iff.2 ⟨readLen_accepts hn hspan, ?_⟩
  have := sizeMul_le n (max minSize 1)
  rw [hspan'.remaining_eq]
  omega

end WireSchema
