import Mathlib.Tactic

/-!
Hexadecimal text of bytes and of 32-bit values.

* `Hex.decode`: pairs of hexadecimal digits to bytes, `none` on an odd length
  and on any other character;
* `Hex.leftpad_toDigits`: a number below `16 ^ k` printed in base 16 and padded
  with zeros to `k` characters is its `k` digits;
* `Hex.decode_word`: eight digits decode to the four bytes of a 32-bit value,
  the highest first;
* `Hex.decode_toUpper_encode`: bytes printed in upper case decode to themselves.
-/

namespace Hex

/-- The value of a hexadecimal digit of either case. -/
def digit? (c : Char) : Option ℕ :=
  if '0' ≤ c ∧ c ≤ '9' then some (c.toNat - '0'.toNat)
  else if 'a' ≤ c ∧ c ≤ 'f' then some (c.toNat - 'a'.toNat + 10)
  else if 'A' ≤ c ∧ c ≤ 'F' then some (c.toNat - 'A'.toNat + 10)
  else none

/-- The bytes written by pairs of hexadecimal digits. -/
def decode : List Char → Option (List UInt8)
  | [] => some []
  | [_] => none
  | hi :: lo :: cs => do
    let h ← digit? hi
    let l ← digit? lo
    let bs ← decode cs
    return UInt8.ofNat (16 * h + l) :: bs

/-- The last `k` base-16 digits of `n`, the highest first. -/
def digits : ℕ → ℕ → List ℕ
  | 0, _ => []
  | k + 1, n => digits k (n / 16) ++ [n % 16]

/-- The bytes of a 32-bit value, the lowest first. -/
def littleEndian (n : UInt32) : List UInt8 :=
  [n.toUInt8, (n >>> 8).toUInt8, (n >>> 16).toUInt8, (n >>> 24).toUInt8]

@[simp] lemma length_littleEndian (n : UInt32) : (littleEndian n).length = 4 := rfl

lemma digit?_digitChar {d : ℕ} (hd : d < 16) : digit? (Nat.digitChar d) = some d := by
  interval_cases d <;> decide

/-! ### Printing in base 16 -/

/-- The digits of zero are the padding. -/
lemma map_digits_zero (k : ℕ) : (digits k 0).map Nat.digitChar = List.replicate k '0' := by
  induction k with
  | zero => rfl
  | succ k ih =>
      rw [digits, List.map_append, Nat.zero_div, ih, List.replicate_succ']
      rfl

lemma leftpad_append_singleton (k : ℕ) (c d : Char) (l : List Char) :
    List.leftpad (k + 1) c (l ++ [d]) = List.leftpad k c l ++ [d] := by
  simp [List.leftpad]

/-- **Padded printing**: the text of a number below `16 ^ k`, padded with
zeros to `k` characters, is its `k` digits. -/
theorem leftpad_toDigits (k : ℕ) : ∀ n : ℕ, n < 16 ^ k → 0 < k →
    List.leftpad k '0' (Nat.toDigits 16 n) = (digits k n).map Nat.digitChar := by
  induction k with
  | zero =>
      intro n _ hk
      exact absurd hk (lt_irrefl 0)
  | succ k ih =>
      intro n hn _
      rw [pow_succ] at hn
      rw [Nat.toDigits_eq_if (by norm_num), digits, List.map_append, List.map_singleton]
      split_ifs with h
      · -- one digit, the padding supplies the others
        rw [Nat.mod_eq_of_lt h, Nat.div_eq_of_lt h, ← List.nil_append [Nat.digitChar n],
          leftpad_append_singleton, map_digits_zero]
        simp [List.leftpad]
      · have hk : 0 < k := by
          rcases Nat.eq_zero_or_pos k with rfl | hk
          · rw [pow_zero] at hn
            omega
          · exact hk
        rw [leftpad_append_singleton, ih (n / 16) (by omega) hk]

/-- The byte of a 32-bit value at bit `8 * i`. -/
lemma ofNat_shift (n s : UInt32) (hs : s.toNat < 32) :
    UInt8.ofNat (n.toNat / 2 ^ s.toNat % 256) = (n >>> s).toUInt8 := by
  rw [← UInt8.toNat_inj]
  calc (UInt8.ofNat (n.toNat / 2 ^ s.toNat % 256)).toNat
      = n.toNat / 2 ^ s.toNat % 256 := by rw [UInt8.toNat_ofNat', Nat.mod_mod]
    _ = (n >>> s).toNat % 256 := by
        rw [UInt32.toNat_shiftRight, Nat.mod_eq_of_lt hs, Nat.shiftRight_eq_div_pow]
    _ = ((n >>> s).toUInt8).toNat := (UInt32.toNat_toUInt8 _).symm

/-- **The four bytes of a 32-bit value**: its eight hexadecimal digits decode
to its bytes, the highest first. -/
theorem decode_word (n : UInt32) :
    decode ((digits 8 n.toNat).map Nat.digitChar) = some (littleEndian n).reverse := by
  have hd : ∀ m : ℕ, digit? (Nat.digitChar (m % 16)) = some (m % 16) :=
    fun m => digit?_digitChar (Nat.mod_lt m (by norm_num))
  have hbyte : ∀ m : ℕ, 16 * (m / 16 % 16) + m % 16 = m % 256 := fun m => by omega
  have h0 : UInt8.ofNat (n.toNat % 256) = n.toUInt8 := by
    rw [← UInt8.toNat_inj, UInt8.toNat_ofNat', UInt32.toNat_toUInt8, Nat.mod_mod]
  have h1 := ofNat_shift n 8 (by decide)
  have h2 := ofNat_shift n 16 (by decide)
  have h3 := ofNat_shift n 24 (by decide)
  simp only [digits, List.nil_append, List.cons_append, List.map_cons, List.map_nil, decode, hd,
    Option.bind_eq_bind, Option.bind_some, pure, hbyte]
  simp only [Nat.div_div_eq_div_mul]
  rw [littleEndian, ← h0, ← h1, ← h2, ← h3]
  rfl

/-! ### Bytes to text -/

/-- The text of bytes, two digits for each. -/
def encode (bs : List UInt8) : List Char :=
  bs.flatMap fun b => [Nat.digitChar (b.toNat / 16), Nat.digitChar (b.toNat % 16)]

/-- Digits are read in either case. -/
lemma digit?_toUpper {d : ℕ} (hd : d < 16) : digit? (Nat.digitChar d).toUpper = some d := by
  interval_cases d <;> decide

/-- **The text of bytes in upper case** is read back. -/
theorem decode_toUpper_encode (bs : List UInt8) :
    decode ((encode bs).map Char.toUpper) = some bs := by
  induction bs with
  | nil => rfl
  | cons b bs ih =>
      have hb : b.toNat < 256 := b.toNat_lt
      have hvalue : UInt8.ofNat (16 * (b.toNat / 16) + b.toNat % 16) = b := by
        rw [Nat.div_add_mod, UInt8.ofNat_toNat]
      have hcons : (encode (b :: bs)).map Char.toUpper = (Nat.digitChar (b.toNat / 16)).toUpper ::
          (Nat.digitChar (b.toNat % 16)).toUpper :: (encode bs).map Char.toUpper := rfl
      rw [hcons, decode, digit?_toUpper (by omega), digit?_toUpper (by omega)]
      simp only [ih, Option.bind_eq_bind, Option.bind_some, pure, hvalue]

end Hex
