import SopepApp.ReadData.Dialogs

/-!
Numbers that are typed into text fields, and their texts.

* `intParse_toString`: `int.parse` reads the text of an int of 64 bits back;
* `doubleParse`, `numParse`: `double.parse` and `num.parse` over
  `double.tryParse`.
-/

namespace SopepApp.Numbers

open Dart ReadData.Dialogs

/-! ### The text of an int -/

/-- The value of a digit after others. -/
lemma digitsValue_append {cs : List Char} {n d : ℕ} (hcs : digitsValue 10 cs = some n)
    (hd : d < 10) : digitsValue 10 (cs ++ [Nat.digitChar d]) = some (n * 10 + d) := by
  have hne : cs ≠ [] := by
    rintro rfl
    exact absurd hcs (by simp [digitsValue])
  rw [digitsValue, if_neg hne] at hcs
  rw [digitsValue, if_neg (by simp), List.foldlM_append, hcs]
  simp [Hex.digit?_digitChar (by omega : d < 16), hd]

/-- The digits of a number. -/
lemma digitsValue_toDigits (n : ℕ) : digitsValue 10 (Nat.toDigits 10 n) = some n := by
  induction n using Nat.strong_induction_on with
  | _ n ih =>
      rw [Nat.toDigits_eq_if (by decide)]
      split_ifs with h
      · simp [digitsValue, Hex.digit?_digitChar (by omega : n < 16), h]
      · have hinit := ih (n / 10) (by omega)
        rw [digitsValue_append hinit (Nat.mod_lt n (by decide))]
        congr 1
        omega

lemma isBlank_of_isDigit {c : Char} (h : c.isDigit) : isBlank c = false := by
  have hrange : 48 ≤ c.toNat ∧ c.toNat ≤ 57 := by
    simpa [Char.isDigit, Char.le_def, UInt32.le_iff_toNat_le] using h
  rw [isBlank, decide_eq_false_iff_not]
  simp only [List.mem_cons, List.not_mem_nil, or_false]
  omega

/-- A text without blanks at its ends. -/
lemma trim_eq_self {cs : List Char} (h : ∀ c ∈ cs, isBlank c = false) : trim cs = cs := by
  have hid : ∀ {l : List Char}, (∀ c ∈ l, isBlank c = false) →
      l.dropWhile isBlank = l := by
    intro l hl
    cases l with
    | nil => rfl
    | cons c l => rw [List.dropWhile_cons_of_neg (by simp [hl c (by simp)])]
  rw [trim, hid h, hid fun c hc => h c (List.mem_reverse.mp hc), List.reverse_reverse]

/-- The sign of a literal, and what follows. -/
def splitSign : List Char → ℤ × List Char
  | '-' :: cs => (-1, cs)
  | '+' :: cs => (1, cs)
  | cs => (1, cs)

/-- The digits of a hexadecimal literal. -/
def hexadecimal? : List Char → Option (List Char)
  | '0' :: 'x' :: cs => some cs
  | '0' :: 'X' :: cs => some cs
  | _ => none

/-- The value of decimal digits under a sign. -/
def decimal (sign : ℤ) (digits : List Char) : Except Error ℤ :=
  match digitsValue 10 digits with
  | some n =>
    if -2 ^ 63 ≤ sign * n ∧ sign * n < 2 ^ 63 then .ok (sign * n) else .error .formatException
  | none => .error .formatException

lemma intParse_decimal {source : String}
    (h : hexadecimal? (splitSign (trim source.toList)).2 = none) :
    intParse source =
      decimal (splitSign (trim source.toList)).1 (splitSign (trim source.toList)).2 := by
  rw [intParse]
  dsimp only
  split
  next cs hcs =>
    have hsome : hexadecimal? (splitSign (trim source.toList)).2 = some cs := hcs
    rw [h] at hsome
    exact absurd hsome (by simp)
  next => rfl

lemma splitSign_of_isDigit {cs : List Char} (h : ∀ c ∈ cs, c.isDigit) : splitSign cs = (1, cs) := by
  rw [splitSign.eq_3]
  all_goals
    rintro rest rfl
    exact absurd (h _ List.mem_cons_self) (by decide)

lemma hexadecimal?_of_isDigit {cs : List Char} (h : ∀ c ∈ cs, c.isDigit) :
    hexadecimal? cs = none := by
  rw [hexadecimal?.eq_3]
  all_goals
    rintro rest rfl
    exact absurd (h _ (List.mem_cons_of_mem _ List.mem_cons_self)) (by decide)

/-- **The text of an int** of 64 bits is read back. -/
theorem intParse_toString {n : ℤ} (h : -2 ^ 63 ≤ n ∧ n < 2 ^ 63) :
    intParse (toString n) = .ok n := by
  have hdigit : ∀ k, ∀ c ∈ Nat.toDigits 10 k, c.isDigit :=
    fun k c hc => Nat.isDigit_of_mem_toDigits (by decide) (by decide) hc
  have hblank : ∀ k, ∀ c ∈ Nat.toDigits 10 k, isBlank c = false :=
    fun k c hc => isBlank_of_isDigit (hdigit k c hc)
  rcases lt_or_ge n 0 with hneg | hpos
  · have htext : (toString n).toList = '-' :: Nat.toDigits 10 (-n).toNat := by
      rw [Int.toString_eq_repr, Int.repr_eq_if, if_neg (by omega), String.toList_append,
        Nat.toList_repr]
      rfl
    have hsplit : splitSign (trim (toString n).toList) = (-1, Nat.toDigits 10 (-n).toNat) := by
      rw [htext, trim_eq_self (List.forall_mem_cons.mpr ⟨by decide, hblank _⟩)]
      rfl
    rw [intParse_decimal (by rw [hsplit]; exact hexadecimal?_of_isDigit (hdigit _)), hsplit,
      decimal, digitsValue_toDigits]
    dsimp only
    rw [Int.toNat_of_nonneg (by omega), neg_one_mul, neg_neg, if_pos h]
  · have htext : (toString n).toList = Nat.toDigits 10 n.toNat := by
      rw [Int.toString_eq_repr, Int.repr_eq_if, if_pos hpos, Nat.toList_repr]
    have hsplit : splitSign (trim (toString n).toList) = (1, Nat.toDigits 10 n.toNat) := by
      rw [htext, trim_eq_self (hblank _), splitSign_of_isDigit (hdigit _)]
    rw [intParse_decimal (by rw [hsplit]; exact hexadecimal?_of_isDigit (hdigit _)), hsplit,
      decimal, digitsValue_toDigits]
    dsimp only
    rw [Int.toNat_of_nonneg hpos, one_mul, if_pos h]

/-- What is read has 64 bits. -/
lemma bounds_of_intParse {source : String} {n : ℤ} (h : intParse source = .ok n) :
    -2 ^ 63 ≤ n ∧ n < 2 ^ 63 := by
  have hwrap : ∀ k : ℤ, -2 ^ 63 ≤ int64 k ∧ int64 k < 2 ^ 63 := by
    intro k
    have hlow := Int.le_bmod (x := k) (m := 2 ^ 64) (by decide)
    have hhigh := Int.bmod_lt (x := k) (m := 2 ^ 64) (by decide)
    rw [int64]
    norm_num at hlow hhigh ⊢
    omega
  rw [intParse] at h
  dsimp only at h
  split at h
  · split at h
    · split_ifs at h
      obtain rfl := Except.ok.inj h
      exact hwrap _
    · exact absurd h (by simp)
  · split at h
    · split_ifs at h with hrange
      obtain rfl := Except.ok.inj h
      exact hrange
    · exact absurd h (by simp)

/-- Any other text is a `FormatException`. -/
lemma intParse_cases (source : String) :
    intParse source = .error .formatException ∨ ∃ n, intParse source = .ok n := by
  rw [intParse]
  dsimp only
  split
  · split
    · split_ifs
      · exact Or.inr ⟨_, rfl⟩
      · exact Or.inl rfl
    · exact Or.inl rfl
  · split
    · split_ifs
      · exact Or.inr ⟨_, rfl⟩
      · exact Or.inl rfl
    · exact Or.inl rfl

/-! ### The other parsers -/

variable (doubleTryParse : String → Option UInt64)

/-- `double.parse` over `double.tryParse`. -/
def doubleParse (source : String) : Except Error UInt64 :=
  match doubleTryParse source with
  | some bits => .ok bits
  | none => .error .formatException

lemma doubleParse_cases (source : String) :
    doubleParse doubleTryParse source = .error .formatException ∨
      ∃ bits, doubleParse doubleTryParse source = .ok bits := by
  rw [doubleParse]
  cases doubleTryParse source with
  | none => exact Or.inl rfl
  | some bits => exact Or.inr ⟨bits, rfl⟩

/-- `num.parse`: an int, or else a double. -/
def numParse (source : String) : Except Error Value :=
  match intParse source with
  | .ok n => .ok (.int n)
  | .error _ => (doubleParse doubleTryParse source).map .double

end SopepApp.Numbers
