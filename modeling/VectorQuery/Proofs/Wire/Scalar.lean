import VectorQuery.Proofs.Text.Utf8
import VectorQuery.Wire.Decoder

/-!
# Scalars survive the wire

What is written for a number, a key or a scalar is read back, whatever bytes come after it. Whole
numbers below `2 ^ 64` take ten bytes at most, which is as many as a reader accepts.
-/

namespace VectorQuery.Wire

namespace Varint

theorem encode_of_lt {n : Nat} (h : n < 128) : encode n = [UInt8.ofNat n] := by
  rw [encode, if_pos h]

theorem encode_of_le {n : Nat} (h : 128 ≤ n) :
    encode n = UInt8.ofNat (n % 128 + 128) :: encode (n / 128) := by
  rw [encode, if_neg (by omega)]

theorem encode_ne_nil (n : Nat) : encode n ≠ [] := by
  rw [encode]
  split <;> exact List.cons_ne_nil _ _

theorem length_encode_le_two {n : Nat} (h : n < 16384) : (encode n).length ≤ 2 := by
  by_cases hn : n < 128
  · rw [encode_of_lt hn]
    exact Nat.le_succ 1
  · rw [encode_of_le (Nat.le_of_not_lt hn), encode_of_lt (by omega)]
    exact Nat.le_refl 2

theorem decodeWithin_encode (room : Nat) : ∀ (n : Nat) (rest : List UInt8),
    n < Nat.pow 128 (room + 1) →
    decodeWithin (room + 1) (encode n ++ rest) = some (n, rest) := by
  induction room with
  | zero =>
    intro n rest h
    replace h : n < 128 := h
    rw [encode_of_lt (by omega), List.singleton_append, decodeWithin,
      Text.Utf8.toNat_ofNat (by omega), if_pos (by omega)]
  | succ room ih =>
    intro n rest h
    by_cases hn : n < 128
    · rw [encode_of_lt hn, List.singleton_append, decodeWithin,
        Text.Utf8.toNat_ofNat (by omega), if_pos hn]
    · have hrest : n / 128 < Nat.pow 128 (room + 1) := (Nat.div_lt_iff_lt_mul (by decide)).2 h
      rw [encode_of_le (by omega), List.cons_append, decodeWithin,
        Text.Utf8.toNat_ofNat (by omega), if_neg (by omega), ih _ _ hrest]
      show some (n % 128 + 128 - 128 + 128 * (n / 128), rest) = _
      rw [show n % 128 + 128 - 128 + 128 * (n / 128) = n by omega]

/-- A number of at most 64 bits is read back. -/
theorem decode?_encode {n : Nat} (h : n < UInt64.size) (rest : List UInt8) :
    decode? (encode n ++ rest) = some (n, rest) := by
  rw [decode?, decodeWithin_encode 9 n rest (Nat.lt_trans h (by decide))]
  exact if_pos h

end Varint

theorem ofCode?_code (type : WireType) : WireType.ofCode? type.code = some type := by
  cases type <;> rfl

theorem code_lt (type : WireType) : type.code < 8 := by
  cases type <;> decide

/-- The key of a field is read back when its number is positive and below `2 ^ 29`. -/
theorem key?_keyBytes {number : Nat} (hpos : 0 < number) (hlt : number < Nat.pow 2 29)
    (type : WireType) (rest : List UInt8) :
    key? (keyBytes number type ++ rest) = some (number, type, rest) := by
  have hcode := code_lt type
  replace hlt : number < 536870912 := hlt
  have hsize : ¬(UInt32.size ≤ number * 8 + type.code ∨ (number * 8 + type.code) / 8 = 0) := by
    show ¬(4294967296 ≤ _ ∨ _)
    omega
  have hkey : number * 8 + type.code < UInt64.size := by
    show _ < 18446744073709551616
    omega
  unfold key? keyBytes
  rw [Varint.decode?_encode hkey]
  simp only [Option.bind_eq_bind, Option.bind_some, if_neg hsize]
  rw [show (number * 8 + type.code) % 8 = type.code by omega,
    show (number * 8 + type.code) / 8 = number by omega, ofCode?_code]
  rfl

theorem take?_append (bytes rest : List UInt8) :
    take? bytes.length (bytes ++ rest) = some (bytes, rest) := by
  rw [take?, if_pos (by simp), List.splitAt_eq]
  simp

/-- Bytes with their length in front are read back. -/
theorem delimited?_delimited {bytes : List UInt8} (h : bytes.length < UInt64.size)
    (rest : List UInt8) : delimited? (delimited bytes ++ rest) = some (bytes, rest) := by
  rw [delimited?, delimited, List.append_assoc, Varint.decode?_encode h]
  exact take?_append bytes rest

theorem length_fixedBytes (count : Nat) : ∀ n, (fixedBytes count n).length = count := by
  induction count with
  | zero =>
    intro n
    rfl
  | succ count ih =>
    intro n
    rw [fixedBytes, List.length_cons, ih]

theorem natOfBytes_fixedBytes (count : Nat) : ∀ n, n < Nat.pow 256 count →
    natOfBytes (fixedBytes count n) = n := by
  induction count with
  | zero =>
    intro n h
    obtain rfl : n = 0 := Nat.lt_one_iff.1 h
    rfl
  | succ count ih =>
    intro n h
    have hrest : n / 256 < Nat.pow 256 count := (Nat.div_lt_iff_lt_mul (by decide)).2 h
    have hfold : natOfBytes (fixedBytes (count + 1) n) =
        (UInt8.ofNat (n % 256)).toNat + 256 * natOfBytes (fixedBytes count (n / 256)) := rfl
    rw [hfold, ih _ hrest, Text.Utf8.toNat_ofNat (Nat.mod_lt _ (by decide)), Nat.mod_add_div]

/-- The bytes of a number of a fixed width are read back. -/
theorem take?_fixedBytes (count : Nat) {n : Nat} (h : n < Nat.pow 256 count) (rest : List UInt8) :
    ∃ bytes, take? count (fixedBytes count n ++ rest) = some (bytes, rest) ∧
      natOfBytes bytes = n := by
  have htake := take?_append (fixedBytes count n) rest
  rw [length_fixedBytes] at htake
  exact ⟨fixedBytes count n, htake, natOfBytes_fixedBytes count n h⟩

/-! ## Bits of numbers -/

theorem ofBits_toBits {f : Number.Format} (x : Number.Binary f) :
    Number.Binary.ofBits x.toBits = x := by
  have hpos := f.patterns_pos
  have hlt := x.magnitude.isLt
  have hdiv : x.toBits / f.patterns = x.negative.toNat := by
    rw [Number.Binary.toBits, Nat.mul_comm, Nat.mul_add_div hpos, Nat.div_eq_of_lt hlt,
      Nat.add_zero]
  have hmod : x.toBits % f.patterns = x.magnitude := by
    rw [Number.Binary.toBits, Nat.mul_comm, Nat.mul_add_mod, Nat.mod_eq_of_lt hlt]
  obtain ⟨negative, magnitude⟩ := x
  unfold Number.Binary.ofBits Number.Binary.ofPattern
  simp only [hdiv, hmod]
  cases negative <;> rfl

theorem toBits_lt {f : Number.Format} (x : Number.Binary f) : x.toBits < 2 * f.patterns := by
  have hlt := x.magnitude.isLt
  unfold Number.Binary.toBits
  cases x.negative with
  | false =>
    rw [Bool.toNat_false]
    omega
  | true =>
    rw [Bool.toNat_true]
    omega

/-- Of a number that is written with sixty-four bits the low ones are read back. -/
theorem int32_ofNat_toUInt64 (n : Int32) : Int32.ofNat n.toInt64.toUInt64.toNat = n := by
  rw [← Int32.toBitVec_inj]
  show BitVec.ofNat 32 (n.toBitVec.signExtend 64).toNat = n.toBitVec
  rw [BitVec.ofNat_toNat]
  ext i hi
  rw [BitVec.getElem_setWidth, BitVec.getLsbD_signExtend]
  simp only [hi, if_true, BitVec.getLsbD_eq_getElem]
  rw [decide_eq_true (by omega : i < 64), Bool.true_and]

theorem int64_ofNat_toUInt64 (n : Int64) : Int64.ofNat n.toUInt64.toNat = n := by
  rw [← Int64.toBitVec_inj]
  show BitVec.ofNat 64 n.toBitVec.toNat = n.toBitVec
  rw [BitVec.ofNat_toNat, BitVec.setWidth_eq]

/-! ## Scalars -/

namespace Scalar

/-- The type of a scalar. -/
def type : Scalar → ScalarType
  | bool _ => .bool
  | int32 _ => .int32
  | uint32 _ => .uint32
  | int64 _ => .int64
  | float _ => .float
  | double _ => .double
  | string _ => .string

end Scalar

theorem wireType_type (s : Scalar) : s.type.wireType = s.wireType := by
  cases s <;> rfl

theorem bytes_ne_nil (s : Scalar) : s.bytes ≠ [] := by
  cases s with
  | float x => exact List.cons_ne_nil _ _
  | double x => exact List.cons_ne_nil _ _
  | string s => exact List.append_ne_nil_of_left_ne_nil (Varint.encode_ne_nil _) _
  | _ => exact Varint.encode_ne_nil _

/-- What is written for a scalar is read back. -/
theorem scalar?_bytes (s : Scalar) (h : s.bytes.length < UInt64.size) (rest : List UInt8) :
    s.type.scalar? (s.bytes ++ rest) = some (s, rest) := by
  cases s with
  | bool b =>
    show (Varint.decode? (Varint.encode b.toNat ++ rest)).map _ = _
    rw [Varint.decode?_encode (by cases b <;> decide)]
    cases b <;> rfl
  | int32 n =>
    show (Varint.decode? (Varint.encode n.toInt64.toUInt64.toNat ++ rest)).map _ = _
    rw [Varint.decode?_encode (UInt64.toNat_lt _)]
    show some (Scalar.int32 (Int32.ofNat n.toInt64.toUInt64.toNat), rest) = _
    rw [int32_ofNat_toUInt64]
  | uint32 n =>
    show (Varint.decode? (Varint.encode n.toNat ++ rest)).map _ = _
    rw [Varint.decode?_encode (Nat.lt_trans n.toNat_lt (by decide))]
    show some (Scalar.uint32 (UInt32.ofNat n.toNat), rest) = _
    rw [UInt32.ofNat_toNat]
  | int64 n =>
    show (Varint.decode? (Varint.encode n.toUInt64.toNat ++ rest)).map _ = _
    rw [Varint.decode?_encode (UInt64.toNat_lt _)]
    show some (Scalar.int64 (Int64.ofNat n.toUInt64.toNat), rest) = _
    rw [int64_ofNat_toUInt64]
  | float x =>
    obtain ⟨bytes, htake, hbits⟩ := take?_fixedBytes 4 (toBits_lt x) rest
    simp only [Scalar.type, ScalarType.scalar?, Scalar.bytes]
    rw [htake, Option.map_some, hbits, ofBits_toBits]
  | double x =>
    obtain ⟨bytes, htake, hbits⟩ := take?_fixedBytes 8 (toBits_lt x) rest
    simp only [Scalar.type, ScalarType.scalar?, Scalar.bytes]
    rw [htake, Option.map_some, hbits, ofBits_toBits]
  | string s =>
    have hlength : (Text.Utf8.encode s).length < UInt64.size := by
      refine Nat.lt_of_le_of_lt ?_ h
      show _ ≤ (Varint.encode _ ++ Text.Utf8.encode s).length
      rw [List.length_append]
      exact Nat.le_add_left _ _
    show (delimited? (delimited (Text.Utf8.encode s) ++ rest) >>= _) = _
    rw [delimited?_delimited hlength]
    show (Text.Utf8.text? (Text.Utf8.encode s) >>= _) = _
    rw [Text.Utf8.text?_encode]
    rfl

/-- A run of scalars is read back. -/
theorem run?_flatMap_bytes (type : ScalarType) (values : List Scalar) :
    ∀ fuel, (∀ s ∈ values, s.type = type) →
    (values.flatMap Scalar.bytes).length < UInt64.size →
    (values.flatMap Scalar.bytes).length ≤ fuel →
    type.run? fuel (values.flatMap Scalar.bytes) = some values := by
  induction values with
  | nil =>
    intro fuel _ _ _
    cases fuel <;> rfl
  | cons s rest ih =>
    intro fuel htype hsize hfuel
    have hlength : 0 < s.bytes.length := List.length_pos_iff.2 (bytes_ne_nil s)
    rw [List.flatMap_cons, List.length_append] at hsize hfuel
    obtain ⟨hs, hrest⟩ := List.forall_mem_cons.1 htype
    obtain ⟨fuel, rfl⟩ := Nat.exists_eq_succ_of_ne_zero (show fuel ≠ 0 by omega)
    have hscalar := scalar?_bytes s (by omega) (rest.flatMap Scalar.bytes)
    rw [List.flatMap_cons]
    obtain ⟨b, bytes, hbytes⟩ := List.exists_cons_of_ne_nil
      (List.append_ne_nil_of_left_ne_nil (bytes_ne_nil s) (rest.flatMap Scalar.bytes))
    rw [hbytes, ← hs, ScalarType.run?, ← hbytes, hscalar]
    · show (s.type.run? fuel (rest.flatMap Scalar.bytes)).map (s :: ·) = _
      rw [hs, ih fuel hrest (by omega) (by omega)]
      rfl
    · intro h
      cases h

theorem field?_bytes (s : Scalar) (h : s.bytes.length < UInt64.size) (rest : List UInt8) :
    s.type.field? s.wireType (s.bytes ++ rest) = some (.scalar s, rest) := by
  rw [ScalarType.field?, wireType_type, if_pos rfl, scalar?_bytes s h]
  rfl

end VectorQuery.Wire
