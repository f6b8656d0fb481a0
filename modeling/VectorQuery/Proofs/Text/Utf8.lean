import VectorQuery.Text.Utf8

/-!
# Text survives UTF-8

The bytes of a character take the machine from between characters to between characters, and on the
way it emits that character and nothing else. So the bytes of a text are read as its characters.
-/

namespace VectorQuery.Text.Utf8

theorem toNat_ofNat {n : Nat} (h : n < 256) : (UInt8.ofNat n).toNat = n :=
  Nat.mod_eq_of_lt h

theorem decodeFrom_ascii {n : Nat} (h : n < 0x80) (rest : List UInt8) :
    decodeFrom .start (UInt8.ofNat n :: rest) = .char (Char.ofNat n) :: decodeFrom .start rest := by
  have hlt : UInt8.ofNat n < 0x80 := by
    rw [UInt8.lt_iff_toNat_lt, toNat_ofNat (by omega)]
    exact h
  rw [decodeFrom, step, first, if_pos hlt, toNat_ofNat (by omega)]
  rfl

/-- A leading byte leads into a character. -/
theorem decodeFrom_leading {b : UInt8} {state : State} (h : first b = .inr state)
    (rest : List UInt8) : decodeFrom .start (b :: rest) = decodeFrom state rest := by
  rw [decodeFrom, step, h]
  rfl

/-- A byte that continues a character, with more of them to come. -/
theorem decodeFrom_inside {n : Nat} {least greatest : UInt8} (hn : n < 64)
    (hleast : least.toNat ≤ n + 128) (hgreatest : n + 128 ≤ greatest.toNat) (value owed : Nat)
    (rest : List UInt8) :
    decodeFrom (.inside value (owed + 1) least greatest) (UInt8.ofNat (n + 128) :: rest) =
      decodeFrom (.inside (value * 64 + n) owed 0x80 0xBF) rest := by
  have hwithin : least ≤ UInt8.ofNat (n + 128) ∧ UInt8.ofNat (n + 128) ≤ greatest := by
    rw [UInt8.le_iff_toNat_le, UInt8.le_iff_toNat_le, toNat_ofNat (by omega)]
    exact ⟨hleast, hgreatest⟩
  rw [decodeFrom, step, if_pos hwithin, toNat_ofNat (by omega), Nat.add_sub_cancel]
  rfl

/-- The byte that completes a character. -/
theorem decodeFrom_last {n : Nat} {least greatest : UInt8} (hn : n < 64)
    (hleast : least.toNat ≤ n + 128) (hgreatest : n + 128 ≤ greatest.toNat) (value : Nat)
    (rest : List UInt8) :
    decodeFrom (.inside value 0 least greatest) (UInt8.ofNat (n + 128) :: rest) =
      .char (Char.ofNat (value * 64 + n)) :: decodeFrom .start rest := by
  have hwithin : least ≤ UInt8.ofNat (n + 128) ∧ UInt8.ofNat (n + 128) ≤ greatest := by
    rw [UInt8.le_iff_toNat_le, UInt8.le_iff_toNat_le, toNat_ofNat (by omega)]
    exact ⟨hleast, hgreatest⟩
  rw [decodeFrom, step, if_pos hwithin, toNat_ofNat (by omega), Nat.add_sub_cancel]
  rfl

/-! ## Leading bytes -/

/-- What a byte leads to, in terms of its number. -/
theorem first_ofNat {n : Nat} (h : n < 256) : first (UInt8.ofNat n) =
    if n < 0x80 then .inl (.char (Char.ofNat n))
    else if n < 0xC2 then .inl .stray
    else if n < 0xE0 then .inr (.inside (n - 0xC0) 0 0x80 0xBF)
    else if n = 0xE0 then .inr (.inside 0 1 0xA0 0xBF)
    else if n = 0xED then .inr (.inside 0xD 1 0x80 0x9F)
    else if n < 0xF0 then .inr (.inside (n - 0xE0) 1 0x80 0xBF)
    else if n = 0xF0 then .inr (.inside 0 2 0x90 0xBF)
    else if n < 0xF4 then .inr (.inside (n - 0xF0) 2 0x80 0xBF)
    else if n = 0xF4 then .inr (.inside 4 2 0x80 0x8F)
    else .inl .stray := by
  unfold first
  simp only [UInt8.lt_iff_toNat_lt, ← UInt8.toNat_inj, toNat_ofNat h]
  rfl

/-! ## Characters -/

variable {c : Char} (rest : List UInt8)

theorem decodeFrom_two (hleast : 0x80 ≤ c.toNat) (hgreatest : c.toNat < 0x800) :
    decodeFrom .start (UInt8.ofNat (c.toNat / 64 % 32 + 192) ::
      UInt8.ofNat (c.toNat % 64 + 128) :: rest) = .char c :: decodeFrom .start rest := by
  have hfirst : first (UInt8.ofNat (c.toNat / 64 % 32 + 192)) =
      .inr (.inside (c.toNat / 64) 0 0x80 0xBF) := by
    rw [first_ofNat (by omega), if_neg (by omega), if_neg (by omega), if_pos (by omega),
      show c.toNat / 64 % 32 + 192 - 0xC0 = c.toNat / 64 by omega]
  rw [decodeFrom_leading hfirst, decodeFrom_last (Nat.mod_lt _ (by decide)) (Nat.le_add_left _ _)
    (Nat.add_le_add_right (Nat.le_of_lt_succ (Nat.mod_lt _ (by decide))) _),
    show c.toNat / 64 * 64 + c.toNat % 64 = c.toNat by omega, Char.ofNat_toNat]

theorem decodeFrom_three (hleast : 0x800 ≤ c.toNat) (hgreatest : c.toNat < 0x10000) :
    decodeFrom .start (UInt8.ofNat (c.toNat / 4096 % 16 + 224) ::
      UInt8.ofNat (c.toNat / 64 % 64 + 128) :: UInt8.ofNat (c.toNat % 64 + 128) :: rest) =
      .char c :: decodeFrom .start rest := by
  have hvalid : c.toNat < 0xD800 ∨ 0xDFFF < c.toNat ∧ c.toNat < 0x110000 := c.valid
  -- the second byte is bounded by the first one, lest there be overlong forms and surrogates
  obtain ⟨least, greatest, hfirst, hlow, hhigh⟩ : ∃ least greatest : UInt8,
      first (UInt8.ofNat (c.toNat / 4096 % 16 + 224)) =
        .inr (.inside (c.toNat / 4096) 1 least greatest) ∧
      least.toNat ≤ c.toNat / 64 % 64 + 128 ∧ c.toNat / 64 % 64 + 128 ≤ greatest.toNat := by
    rw [first_ofNat (by omega), if_neg (by omega), if_neg (by omega), if_neg (by omega)]
    by_cases hzero : c.toNat / 4096 = 0
    · refine ⟨0xA0, 0xBF, ?_, ?_, ?_⟩
      · rw [if_pos (by omega), hzero]
      · show 160 ≤ _
        omega
      · show _ ≤ 191
        omega
    by_cases hsurrogate : c.toNat / 4096 = 13
    · refine ⟨0x80, 0x9F, ?_, ?_, ?_⟩
      · rw [if_neg (by omega), if_pos (by omega), hsurrogate]
      · show 128 ≤ _
        omega
      · show _ ≤ 159
        omega
    · refine ⟨0x80, 0xBF, ?_, ?_, ?_⟩
      · rw [if_neg (by omega), if_neg (by omega), if_pos (by omega),
          show c.toNat / 4096 % 16 + 224 - 0xE0 = c.toNat / 4096 by omega]
      · show 128 ≤ _
        omega
      · show _ ≤ 191
        omega
  rw [decodeFrom_leading hfirst, decodeFrom_inside (Nat.mod_lt _ (by decide)) hlow hhigh,
    decodeFrom_last (Nat.mod_lt _ (by decide)) (Nat.le_add_left _ _)
      (Nat.add_le_add_right (Nat.le_of_lt_succ (Nat.mod_lt _ (by decide))) _),
    show (c.toNat / 4096 * 64 + c.toNat / 64 % 64) * 64 + c.toNat % 64 = c.toNat by omega,
    Char.ofNat_toNat]

theorem decodeFrom_four (hleast : 0x10000 ≤ c.toNat) :
    decodeFrom .start (UInt8.ofNat (c.toNat / 262144 % 8 + 240) ::
      UInt8.ofNat (c.toNat / 4096 % 64 + 128) :: UInt8.ofNat (c.toNat / 64 % 64 + 128) ::
      UInt8.ofNat (c.toNat % 64 + 128) :: rest) = .char c :: decodeFrom .start rest := by
  have hvalid : c.toNat < 0xD800 ∨ 0xDFFF < c.toNat ∧ c.toNat < 0x110000 := c.valid
  obtain ⟨least, greatest, hfirst, hlow, hhigh⟩ : ∃ least greatest : UInt8,
      first (UInt8.ofNat (c.toNat / 262144 % 8 + 240)) =
        .inr (.inside (c.toNat / 262144) 2 least greatest) ∧
      least.toNat ≤ c.toNat / 4096 % 64 + 128 ∧ c.toNat / 4096 % 64 + 128 ≤ greatest.toNat := by
    rw [first_ofNat (by omega), if_neg (by omega), if_neg (by omega), if_neg (by omega),
      if_neg (by omega), if_neg (by omega), if_neg (by omega)]
    by_cases hzero : c.toNat / 262144 = 0
    · refine ⟨0x90, 0xBF, ?_, ?_, ?_⟩
      · rw [if_pos (by omega), hzero]
      · show 144 ≤ _
        omega
      · show _ ≤ 191
        omega
    by_cases hfour : c.toNat / 262144 = 4
    · refine ⟨0x80, 0x8F, ?_, ?_, ?_⟩
      · rw [if_neg (by omega), if_neg (by omega), if_pos (by omega), hfour]
      · show 128 ≤ _
        omega
      · show _ ≤ 143
        omega
    · refine ⟨0x80, 0xBF, ?_, ?_, ?_⟩
      · rw [if_neg (by omega), if_pos (by omega),
          show c.toNat / 262144 % 8 + 240 - 0xF0 = c.toNat / 262144 by omega]
      · show 128 ≤ _
        omega
      · show _ ≤ 191
        omega
  rw [decodeFrom_leading hfirst, decodeFrom_inside (Nat.mod_lt _ (by decide)) hlow hhigh,
    decodeFrom_inside (Nat.mod_lt _ (by decide)) (Nat.le_add_left _ _)
      (Nat.add_le_add_right (Nat.le_of_lt_succ (Nat.mod_lt _ (by decide))) _),
    decodeFrom_last (Nat.mod_lt _ (by decide)) (Nat.le_add_left _ _)
      (Nat.add_le_add_right (Nat.le_of_lt_succ (Nat.mod_lt _ (by decide))) _),
    show ((c.toNat / 262144 * 64 + c.toNat / 4096 % 64) * 64 + c.toNat / 64 % 64) * 64 +
      c.toNat % 64 = c.toNat by omega, Char.ofNat_toNat]

/-- The bytes of a character are read as that character. -/
theorem decodeFrom_encodeChar (c : Char) (rest : List UInt8) :
    decodeFrom .start (String.utf8EncodeChar c ++ rest) = .char c :: decodeFrom .start rest := by
  have hval : c.val.toNat = c.toNat := rfl
  rw [String.utf8EncodeChar.eq_1, hval]
  by_cases hone : c.toNat ≤ 127
  · rw [if_pos hone]
    refine (decodeFrom_ascii (Nat.lt_succ_of_le hone) rest).trans ?_
    rw [Char.ofNat_toNat]
  by_cases htwo : c.toNat ≤ 2047
  · rw [if_neg hone, if_pos htwo]
    exact decodeFrom_two rest (by omega) (by omega)
  by_cases hthree : c.toNat ≤ 65535
  · rw [if_neg hone, if_neg htwo, if_pos hthree]
    exact decodeFrom_three rest (by omega) (by omega)
  · rw [if_neg hone, if_neg htwo, if_neg hthree]
    exact decodeFrom_four rest (by omega)

/-- The bytes of a text are read as its characters. -/
theorem decode_encode (s : String) : decode (encode s) = s.toList.map .char := by
  unfold decode encode
  induction s.toList with
  | nil => rfl
  | cons c cs ih => rw [List.flatMap_cons, decodeFrom_encodeChar, ih, List.map_cons]

theorem text?_encode (s : String) : text? (encode s) = some s := by
  have hchars : ∀ cs : List Char, (cs.map Symbol.char).mapM Symbol.char? = some cs := by
    intro cs
    induction cs with
    | nil => rfl
    | cons c cs ih => simp [Symbol.char?, ih]
  rw [text?, decode_encode, hchars, Option.map_some, String.ofList_toList]

end VectorQuery.Text.Utf8
