import VectorQuery.Text.Base64

/-!
# Reading base64

A reader that takes the standard alphabet, padding where it is due and nothing else. It reads what
is written for bytes as these bytes, and it reads no other text.
-/

namespace VectorQuery.Text.Base64

/-- The characters for the values from zero to sixty-three. -/
def alphabet : List Char :=
  ['A', 'B', 'C', 'D', 'E', 'F', 'G', 'H', 'I', 'J', 'K', 'L', 'M', 'N', 'O', 'P', 'Q', 'R', 'S',
    'T', 'U', 'V', 'W', 'X', 'Y', 'Z', 'a', 'b', 'c', 'd', 'e', 'f', 'g', 'h', 'i', 'j', 'k', 'l',
    'm', 'n', 'o', 'p', 'q', 'r', 's', 't', 'u', 'v', 'w', 'x', 'y', 'z', '0', '1', '2', '3', '4',
    '5', '6', '7', '8', '9', '+', '/']

/-- The value that a character stands for. -/
def value? (c : Char) : Option Nat := if c ∈ alphabet then some (alphabet.idxOf c) else none

/-- The byte for two characters; the bits that no byte takes are zero. -/
def oneByte? (x y : Nat) : Option (List UInt8) :=
  if y % 16 = 0 then some [UInt8.ofNat (x * 4 + y / 16)] else none

/-- The bytes for three characters; the bits that no byte takes are zero. -/
def twoBytes? (x y z : Nat) : Option (List UInt8) :=
  if z % 4 = 0 then some [UInt8.ofNat (x * 4 + y / 16), UInt8.ofNat (y % 16 * 16 + z / 4)]
  else none

/-- The bytes for four characters. -/
def threeBytes (x y z w : Nat) : List UInt8 :=
  [UInt8.ofNat (x * 4 + y / 16), UInt8.ofNat (y % 16 * 16 + z / 4), UInt8.ofNat (z % 4 * 64 + w)]

/-- The bytes that characters stand for. -/
def decodeChars? : List Char → Option (List UInt8)
  | [] => some []
  | [a, b, '=', '='] => do oneByte? (← value? a) (← value? b)
  | [a, b, c, '='] => do twoBytes? (← value? a) (← value? b) (← value? c)
  | a :: b :: c :: d :: rest => do
    return threeBytes (← value? a) (← value? b) (← value? c) (← value? d) ++ (← decodeChars? rest)
  | _ => none

/-- The bytes that a text stands for. -/
def decode? (s : String) : Option (List UInt8) := decodeChars? s.toList

/-! ## Digits -/

theorem value?_digit {n : Nat} (h : n < 64) : value? (digit n) = some n := by
  have hall : (List.range 64).all (fun n => value? (digit n) = some n) = true := by decide +kernel
  exact of_decide_eq_true (List.all_eq_true.1 hall n (List.mem_range.2 h))

theorem digit_of_value? {c : Char} {n : Nat} (h : value? c = some n) : n < 64 ∧ digit n = c := by
  have hall : alphabet.all (fun c => alphabet.idxOf c < 64 ∧ digit (alphabet.idxOf c) = c) := by
    decide +kernel
  unfold value? at h
  split at h
  · rename_i hc
    cases h
    exact of_decide_eq_true (List.all_eq_true.1 hall c hc)
  · cases h

theorem value?_padding : value? '=' = none := by decide

theorem digit_ne_padding {n : Nat} (h : n < 64) : digit n ≠ '=' := by
  intro heq
  have hvalue := value?_digit h
  rw [heq, value?_padding] at hvalue
  cases hvalue

theorem decodeChars?_cons {a b c d : Char} {x y z w : Nat} (ha : value? a = some x)
    (hb : value? b = some y) (hc : value? c = some z) (hd : value? d = some w) (rest : List Char) :
    decodeChars? (a :: b :: c :: d :: rest) =
      (decodeChars? rest).map (threeBytes x y z w ++ ·) := by
  have hne : d ≠ '=' := by
    rintro rfl
    rw [value?_padding] at hd
    cases hd
  rw [decodeChars?, ha, hb, hc, hd]
  · cases decodeChars? rest <;> rfl
  · intro _ heq
    exact absurd heq hne
  · intro heq
    exact absurd heq hne

/-! ## Bytes -/

theorem ofNat_of_eq {n : Nat} {a : UInt8} (h : n = a.toNat) : UInt8.ofNat n = a := by
  rw [h, UInt8.ofNat_toNat]

theorem toNat_ofNat_of_lt {n : Nat} (h : n < 256) : (UInt8.ofNat n).toNat = n := by
  rw [UInt8.toNat_ofNat', Nat.mod_eq_of_lt h]

theorem oneByte?_toNat (a : UInt8) :
    oneByte? (a.toNat * 16 / 64) (a.toNat * 16 % 64) = some [a] := by
  have ha := a.toNat_lt
  rw [oneByte?, if_pos (by omega), ofNat_of_eq (a := a) (by omega)]

theorem twoBytes?_toNat (a b : UInt8) :
    twoBytes? ((a.toNat * 256 + b.toNat) * 4 / 4096) ((a.toNat * 256 + b.toNat) * 4 / 64 % 64)
      ((a.toNat * 256 + b.toNat) * 4 % 64) = some [a, b] := by
  have ha := a.toNat_lt
  have hb := b.toNat_lt
  rw [twoBytes?, if_pos (by omega), ofNat_of_eq (a := a) (by omega),
    ofNat_of_eq (a := b) (by omega)]

theorem threeBytes_toNat (a b c : UInt8) (n : Nat)
    (h : n = (a.toNat * 256 + b.toNat) * 256 + c.toNat) :
    threeBytes (n / 262144) (n / 4096 % 64) (n / 64 % 64) (n % 64) = [a, b, c] := by
  have ha := a.toNat_lt
  have hb := b.toNat_lt
  have hc := c.toNat_lt
  rw [threeBytes, ofNat_of_eq (a := a) (by omega), ofNat_of_eq (a := b) (by omega),
    ofNat_of_eq (a := c) (by omega)]

theorem encodeChars_oneByte? {x y : Nat} {bytes : List UInt8} (hx : x < 64) (hy : y < 64)
    (h : oneByte? x y = some bytes) : encodeChars bytes = [digit x, digit y, '=', '='] := by
  unfold oneByte? at h
  split at h
  · cases h
    have hbyte := toNat_ofNat_of_lt (n := x * 4 + y / 16) (by omega)
    rw [encodeChars, hbyte]
    have hfirst : (x * 4 + y / 16) * 16 / 64 = x := by omega
    have hsecond : (x * 4 + y / 16) * 16 % 64 = y := by omega
    rw [hfirst, hsecond]
  · cases h

theorem encodeChars_twoBytes? {x y z : Nat} {bytes : List UInt8} (hx : x < 64) (hy : y < 64)
    (hz : z < 64) (h : twoBytes? x y z = some bytes) :
    encodeChars bytes = [digit x, digit y, digit z, '='] := by
  unfold twoBytes? at h
  split at h
  · cases h
    have hbyte := toNat_ofNat_of_lt (n := x * 4 + y / 16) (by omega)
    have hbyte' := toNat_ofNat_of_lt (n := y % 16 * 16 + z / 4) (by omega)
    rw [encodeChars, hbyte, hbyte']
    have hsum : ((x * 4 + y / 16) * 256 + (y % 16 * 16 + z / 4)) * 4 = x * 4096 + y * 64 + z := by
      omega
    rw [hsum]
    have hfirst : (x * 4096 + y * 64 + z) / 4096 = x := by omega
    have hsecond : (x * 4096 + y * 64 + z) / 64 % 64 = y := by omega
    have hthird : (x * 4096 + y * 64 + z) % 64 = z := by omega
    rw [hfirst, hsecond, hthird]
  · cases h

theorem encodeChars_threeBytes {x y z w : Nat} (hx : x < 64) (hy : y < 64) (hz : z < 64)
    (hw : w < 64) (rest : List UInt8) : encodeChars (threeBytes x y z w ++ rest) =
      digit x :: digit y :: digit z :: digit w :: encodeChars rest := by
  have hbyte := toNat_ofNat_of_lt (n := x * 4 + y / 16) (by omega)
  have hbyte' := toNat_ofNat_of_lt (n := y % 16 * 16 + z / 4) (by omega)
  have hbyte'' := toNat_ofNat_of_lt (n := z % 4 * 64 + w) (by omega)
  rw [threeBytes, List.cons_append, List.cons_append, List.cons_append, List.nil_append,
    encodeChars, hbyte, hbyte', hbyte'']
  have hsum : ((x * 4 + y / 16) * 256 + (y % 16 * 16 + z / 4)) * 256 + (z % 4 * 64 + w) =
      x * 262144 + y * 4096 + z * 64 + w := by omega
  rw [hsum]
  have hfirst : (x * 262144 + y * 4096 + z * 64 + w) / 262144 = x := by omega
  have hsecond : (x * 262144 + y * 4096 + z * 64 + w) / 4096 % 64 = y := by omega
  have hthird : (x * 262144 + y * 4096 + z * 64 + w) / 64 % 64 = z := by omega
  have hfourth : (x * 262144 + y * 4096 + z * 64 + w) % 64 = w := by omega
  rw [hfirst, hsecond, hthird, hfourth]

/-! ## Reading back -/

theorem decodeChars?_encodeChars (bytes : List UInt8) :
    decodeChars? (encodeChars bytes) = some bytes := by
  induction bytes using encodeChars.induct with
  | case1 => rfl
  | case2 a =>
    have ha := a.toNat_lt
    rw [encodeChars, decodeChars?, value?_digit (by omega), value?_digit (by omega)]
    exact oneByte?_toNat a
  | case3 a b =>
    have ha := a.toNat_lt
    have hb := b.toNat_lt
    rw [encodeChars, decodeChars?, value?_digit (by omega), value?_digit (by omega),
      value?_digit (by omega)]
    · exact twoBytes?_toNat a b
    · exact digit_ne_padding (by omega)
  | case4 a b c rest ih =>
    have ha := a.toNat_lt
    have hb := b.toNat_lt
    have hc := c.toNat_lt
    rw [encodeChars, decodeChars?_cons (value?_digit (by omega)) (value?_digit (by omega))
      (value?_digit (by omega)) (value?_digit (by omega)), ih, threeBytes_toNat a b c _ rfl]
    rfl

theorem eq_encodeChars_of_decodeChars? {s : List Char} {bytes : List UInt8}
    (h : decodeChars? s = some bytes) : s = encodeChars bytes := by
  induction s using decodeChars?.induct generalizing bytes with
  | case1 =>
    cases h
    rfl
  | case2 a b =>
    simp only [decodeChars?, Option.bind_eq_bind, Option.bind_eq_some_iff] at h
    obtain ⟨x, hx, y, hy, h⟩ := h
    obtain ⟨hxlt, rfl⟩ := digit_of_value? hx
    obtain ⟨hylt, rfl⟩ := digit_of_value? hy
    rw [encodeChars_oneByte? hxlt hylt h]
  | case3 a b c hne =>
    rw [decodeChars?] at h
    · simp only [Option.bind_eq_bind, Option.bind_eq_some_iff] at h
      obtain ⟨x, hx, y, hy, z, hz, h⟩ := h
      obtain ⟨hxlt, rfl⟩ := digit_of_value? hx
      obtain ⟨hylt, rfl⟩ := digit_of_value? hy
      obtain ⟨hzlt, rfl⟩ := digit_of_value? hz
      rw [encodeChars_twoBytes? hxlt hylt hzlt h]
    · exact hne
  | case4 a b c d rest hne hne' ih =>
    rw [decodeChars?] at h
    · simp only [Option.bind_eq_bind, Option.bind_eq_some_iff, Option.pure_def,
        Option.some.injEq] at h
      obtain ⟨x, hx, y, hy, z, hz, w, hw, bytes', hrest, rfl⟩ := h
      obtain ⟨hxlt, rfl⟩ := digit_of_value? hx
      obtain ⟨hylt, rfl⟩ := digit_of_value? hy
      obtain ⟨hzlt, rfl⟩ := digit_of_value? hz
      obtain ⟨hwlt, rfl⟩ := digit_of_value? hw
      rw [encodeChars_threeBytes hxlt hylt hzlt hwlt, ih hrest]
    · exact hne
    · exact hne'
  | case5 s h₁ h₂ h₃ h₄ =>
    rw [decodeChars?] at h
    · cases h
    all_goals assumption

/-- A text is read as bytes exactly when it is what is written for them. -/
theorem decode?_eq_some_iff {s : String} {bytes : List UInt8} :
    decode? s = some bytes ↔ s = encode bytes := by
  constructor
  · intro h
    rw [encode, ← eq_encodeChars_of_decodeChars? h, String.ofList_toList]
  · rintro rfl
    rw [decode?, encode, String.toList_ofList, decodeChars?_encodeChars]

theorem encode_injective {a b : List UInt8} (h : encode a = encode b) : a = b := by
  have ha : decode? (encode b) = some a := decode?_eq_some_iff.2 h.symm
  have hb : decode? (encode b) = some b := decode?_eq_some_iff.2 rfl
  exact Option.some.inj (ha.symm.trans hb)

/-! ## Characters -/

theorem digit_mem_alphabet {n : Nat} (h : n < 64) : digit n ∈ alphabet := by
  have hvalue := value?_digit h
  unfold value? at hvalue
  split at hvalue
  · assumption
  · cases hvalue

theorem mem_encodeChars {bytes : List UInt8} {c : Char} (h : c ∈ encodeChars bytes) :
    c ∈ alphabet ∨ c = '=' := by
  induction bytes using encodeChars.induct with
  | case1 => cases h
  | case2 a =>
    have ha := a.toNat_lt
    simp only [encodeChars, List.mem_cons, List.not_mem_nil, or_false] at h
    rcases h with rfl | rfl | rfl | rfl
    · exact .inl (digit_mem_alphabet (by omega))
    · exact .inl (digit_mem_alphabet (by omega))
    · exact .inr rfl
    · exact .inr rfl
  | case3 a b =>
    have ha := a.toNat_lt
    have hb := b.toNat_lt
    simp only [encodeChars, List.mem_cons, List.not_mem_nil, or_false] at h
    rcases h with rfl | rfl | rfl | rfl
    · exact .inl (digit_mem_alphabet (by omega))
    · exact .inl (digit_mem_alphabet (by omega))
    · exact .inl (digit_mem_alphabet (by omega))
    · exact .inr rfl
  | case4 a b c rest ih =>
    have ha := a.toNat_lt
    have hb := b.toNat_lt
    have hc := c.toNat_lt
    simp only [encodeChars, List.mem_cons] at h
    rcases h with rfl | rfl | rfl | rfl | h
    · exact .inl (digit_mem_alphabet (by omega))
    · exact .inl (digit_mem_alphabet (by omega))
    · exact .inl (digit_mem_alphabet (by omega))
    · exact .inl (digit_mem_alphabet (by omega))
    · exact ih h

theorem not_mem_encodeChars {c : Char} (h : c ∉ '=' :: alphabet) (bytes : List UInt8) :
    c ∉ encodeChars bytes := by
  intro hc
  rcases mem_encodeChars hc with hc | rfl
  · exact h (List.mem_cons_of_mem _ hc)
  · exact h (List.mem_cons_self ..)

end VectorQuery.Text.Base64
