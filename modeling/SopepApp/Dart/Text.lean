import SopepApp.Dart.Effect

/-!
Texts of Dart, handled by their characters.

* `substring`: `String.substring`, a `RangeError` outside the text;
* `substring_fromEnd_iff`: a cut at fixed offsets from the end returns whatever
  word is put there exactly when the text after the word has the length assumed;
* `indexOf`: `String.indexOf`, with the steps that lead to a first occurrence;
* `utf8`, `ofUtf8`: the bytes of a text in UTF-8.
-/

namespace Dart

/-! ### Cuts -/

/-- `text.substring(start, end)`. -/
def substring (text : String) (start stop : ℤ) : Except Error String :=
  (getRange text.toList start stop).map String.ofList

/-- A substring that does not throw. -/
lemma substring_eq_ok_iff {text word : String} {start stop : ℤ} :
    substring text start stop = .ok word ↔
      (0 ≤ start ∧ start ≤ stop ∧ stop ≤ text.length) ∧
        (text.toList.drop start.toNat).take (stop - start).toNat = word.toList := by
  rw [substring, getRange, String.length_toList]
  split_ifs with h
  · simp [h, Except.map, ← String.toList_inj]
  · simp [h, Except.map]

/-- The characters before a word, the word, and those after it. -/
lemma substring_append (before word after : String) :
    substring (before ++ word ++ after) before.length (before.length + word.length) = .ok word := by
  refine substring_eq_ok_iff.mpr ⟨⟨by omega, by omega, ?_⟩, ?_⟩
  · rw [String.length_append, String.length_append]
    omega
  · have hwidth : ((before.length : ℤ) + word.length - before.length).toNat =
        word.toList.length := by
      rw [String.length_toList]
      omega
    rw [Int.toNat_natCast, hwidth, ← String.length_toList, String.toList_append,
      String.toList_append, List.append_assoc, List.drop_left, List.take_left]

/-- The last characters. -/
lemma substring_last {text : String} {width : ℕ} (h : width ≤ text.length) :
    substring text (text.length - width) text.length =
      .ok (String.ofList (text.toList.drop (text.length - width))) := by
  refine substring_eq_ok_iff.mpr ⟨⟨by omega, by omega, le_rfl⟩, ?_⟩
  have hstart : ((text.length : ℤ) - width).toNat = text.length - width := by omega
  have hwidth : ((text.length : ℤ) - (text.length - width)).toNat = width := by omega
  rw [hstart, hwidth, String.toList_ofList, List.take_of_length_le]
  rw [List.length_drop, String.length_toList]
  omega

/-- The first characters. -/
lemma substring_first {text : String} {n : ℕ} (h : n ≤ text.length) :
    substring text 0 n = .ok (String.ofList (text.toList.take n)) := by
  refine substring_eq_ok_iff.mpr ⟨⟨le_rfl, by omega, by omega⟩, ?_⟩
  rw [Int.toNat_zero, List.drop_zero, sub_zero, Int.toNat_natCast, String.toList_ofList]

/-- The characters after them. -/
lemma substring_rest {text : String} {n : ℕ} (h : n ≤ text.length) :
    substring text n text.length = .ok (String.ofList (text.toList.drop n)) := by
  have hlast : substring text (text.length - (text.length - n : ℕ)) text.length =
      .ok (String.ofList (text.toList.drop (text.length - (text.length - n)))) :=
    substring_last (by omega)
  rwa [Nat.cast_sub h, sub_sub_cancel, Nat.sub_sub_self h] at hlast

/-- A join that is cut at one of its separators. -/
lemma intercalate_append {separator : String} {parts rest : List String} (h : rest ≠ []) :
    separator.intercalate (parts ++ rest) =
      String.join (parts.map fun part => part ++ separator) ++ separator.intercalate rest := by
  induction parts with
  | nil => rw [List.nil_append, List.map_nil, String.join_nil, String.empty_append]
  | cons part parts ih =>
      rw [List.cons_append, String.intercalate_cons_of_ne_nil (List.append_ne_nil_of_right_ne_nil _ h),
        ih, List.map_cons, String.join_cons, String.append_assoc, String.append_assoc,
        String.append_assoc]

section Window

variable {α : Type} {xs ys : List α} {n width : ℕ}

/-- Outside a word the text does not depend on it. -/
lemma getElem?_window {w w' : List α} (hw : w.length = width) (hw' : w'.length = width) {i : ℕ}
    (hi : i < xs.length ∨ xs.length + width ≤ i) :
    (xs ++ w ++ ys)[i]? = (xs ++ w' ++ ys)[i]? := by
  rcases hi with hi | hi
  · rw [List.append_assoc, List.append_assoc, List.getElem?_append_left hi,
      List.getElem?_append_left hi]
  · have hlen : (xs ++ w).length = (xs ++ w').length := by
      rw [List.length_append, List.length_append, hw, hw']
    have hle : (xs ++ w).length ≤ i := by
      rw [List.length_append, hw]
      exact hi
    rw [List.getElem?_append_right hle, List.getElem?_append_right (hlen ▸ hle), hlen]

/-- **A window that shows two words apart** stands where the words do. -/
lemma window_eq_length {a b : α} (hab : a ≠ b) (hwidth : 0 < width)
    (ha : ((xs ++ List.replicate width a ++ ys).drop n).take width = List.replicate width a)
    (hb : ((xs ++ List.replicate width b ++ ys).drop n).take width = List.replicate width b) :
    n = xs.length := by
  by_contra hne
  -- a character of the window that is not one of the word
  obtain ⟨j, hj, hout⟩ : ∃ j < width, n + j < xs.length ∨ xs.length + width ≤ n + j := by
    rcases Nat.lt_or_gt_of_ne hne with hlt | hgt
    · exact ⟨0, hwidth, Or.inl hlt⟩
    · exact ⟨width - 1, by omega, Or.inr (by omega)⟩
  have hshown : ∀ c : α, ((xs ++ List.replicate width c ++ ys).drop n).take width =
      List.replicate width c → (xs ++ List.replicate width c ++ ys)[n + j]? = some c := by
    intro c hc
    have hat := congrArg (fun l => l[j]?) hc
    rwa [List.getElem?_take_of_lt hj, List.getElem?_drop, List.getElem?_replicate_of_lt hj] at hat
  have hsame : (xs ++ List.replicate width a ++ ys)[n + j]? =
      (xs ++ List.replicate width b ++ ys)[n + j]? :=
    getElem?_window List.length_replicate List.length_replicate hout
  rw [hshown a ha, hshown b hb] at hsame
  exact hab (Option.some.inj hsame)

end Window

/-- **A cut at fixed offsets from the end** returns every word of its width
exactly when the text after the word is as long as the offset assumes. -/
theorem substring_fromEnd_iff {before after : String} {width fromEnd : ℕ} (hwidth : 0 < width) :
    (∀ word : String, word.length = width →
      substring (before ++ word ++ after)
        ((before ++ word ++ after).length - (fromEnd + width : ℕ))
        ((before ++ word ++ after).length - fromEnd) = .ok word) ↔
      after.length = fromEnd := by
  have hlength : ∀ word : String, word.length = width →
      (before ++ word ++ after).length = before.length + width + after.length := by
    intro word hword
    rw [String.length_append, String.length_append, hword]
  constructor
  · intro h
    -- the window that the cut shows, for a word of one character
    have hcut : ∀ c : Char, fromEnd ≤ before.length + after.length ∧
        ((before.toList ++ List.replicate width c ++ after.toList).drop
          (before.length + after.length - fromEnd)).take width = List.replicate width c := by
      intro c
      have hword : (String.ofList (List.replicate width c)).length = width := by
        rw [String.length_ofList, List.length_replicate]
      obtain ⟨⟨hstart, -, -⟩, hshown⟩ := substring_eq_ok_iff.mp (h _ hword)
      rw [hlength _ hword] at hstart hshown
      push_cast at hstart hshown
      have hn : ((before.length : ℤ) + width + after.length - (fromEnd + width)).toNat =
          before.length + after.length - fromEnd := by
        omega
      have hk : ((before.length : ℤ) + width + after.length - fromEnd -
          (before.length + width + after.length - (fromEnd + width))).toNat = width := by
        omega
      rw [hn, hk, String.toList_append, String.toList_append, String.toList_ofList] at hshown
      exact ⟨by omega, hshown⟩
    have hplace := window_eq_length (by decide : 'A' ≠ 'B') hwidth (hcut 'A').2 (hcut 'B').2
    have hinside := (hcut 'A').1
    rw [String.length_toList] at hplace
    omega
  · intro h word hword
    have hplace := substring_append before word after
    have hstart : (((before ++ word ++ after).length : ℤ) - (fromEnd + width : ℕ)) =
        before.length := by
      rw [hlength word hword, h]
      omega
    have hstop : (((before ++ word ++ after).length : ℤ) - fromEnd) =
        before.length + word.length := by
      rw [hlength word hword, h, hword]
      omega
    rw [hstart, hstop]
    exact hplace

/-! ### Occurrences -/

section IndexOf

variable {α : Type} [DecidableEq α]

/-- `text.indexOf(pattern)`: where the pattern first occurs, or `-1`. -/
def indexOf (pattern : List α) : List α → ℤ
  | [] => if pattern = [] then 0 else -1
  | x :: xs =>
    if pattern <+: x :: xs then 0
    else if indexOf pattern xs < 0 then -1 else indexOf pattern xs + 1

variable {pattern text : List α}

/-- A pattern that the text begins with. -/
lemma indexOf_append_self (pattern text : List α) : indexOf pattern (pattern ++ text) = 0 := by
  cases h : pattern ++ text with
  | nil => rw [indexOf, if_pos (List.append_eq_nil_iff.mp h).1]
  | cons x xs => rw [indexOf, if_pos (h ▸ List.prefix_append pattern text)]

/-- A character at which the pattern does not begin. -/
lemma indexOf_cons {x : α} (h : ¬ pattern <+: x :: text) (hfound : 0 ≤ indexOf pattern text) :
    indexOf pattern (x :: text) = indexOf pattern text + 1 := by
  rw [indexOf, if_neg h, if_neg (by omega)]

/-- **A text without the first character of the pattern** is passed over. -/
lemma indexOf_append {first : α} {before : List α} (h : first ∉ before)
    (hfound : 0 ≤ indexOf (first :: pattern) text) :
    indexOf (first :: pattern) (before ++ text) =
      before.length + indexOf (first :: pattern) text := by
  induction before with
  | nil => simp
  | cons x before ih =>
      obtain ⟨hx, hbefore⟩ := not_or.mp (List.mem_cons.not.mp h)
      have hrest := ih hbefore
      have hno : ¬ first :: pattern <+: x :: (before ++ text) := by
        rw [List.cons_prefix_cons]
        exact fun hbegins => hx hbegins.1
      rw [List.cons_append, indexOf_cons hno (by omega), hrest, List.length_cons]
      push_cast
      omega

/-- **A pattern after a text that has its first character once**, where another
character follows than in the pattern. -/
lemma indexOf_append_cons {first next other : α} {before between : List α}
    (hbefore : first ∉ before) (hbetween : first ∉ other :: between) (hne : next ≠ other)
    (rest : List α) :
    indexOf (first :: next :: pattern)
        (before ++ first :: other :: between ++ (first :: next :: pattern ++ rest)) =
      (before ++ first :: other :: between).length := by
  have hself := indexOf_append_self (first :: next :: pattern) rest
  have hlast := indexOf_append hbetween hself.ge
  rw [hself, add_zero] at hlast
  -- the pattern does not begin at the one occurrence of its first character
  have hno : ¬ first :: next :: pattern <+:
      first :: (other :: between ++ (first :: next :: pattern ++ rest)) := by
    rw [List.cons_append, List.cons_prefix_cons, List.cons_prefix_cons]
    exact fun hbegins => hne hbegins.2.1
  have hletter := indexOf_cons hno (by omega)
  have hall := indexOf_append hbefore (hletter.ge.trans' (by omega))
  rw [List.append_assoc, List.cons_append, hall, hletter, hlast, List.length_append,
    List.length_cons]
  push_cast
  rfl

omit [DecidableEq α] in
/-- A pattern does not begin in a text without its first character. -/
lemma infix_append_iff {first : α} {before : List α} (h : first ∉ before) :
    first :: pattern <:+: before ++ text ↔ first :: pattern <:+: text := by
  induction before with
  | nil => rw [List.nil_append]
  | cons x before ih =>
      obtain ⟨hx, hbefore⟩ := not_or.mp (List.mem_cons.not.mp h)
      rw [List.cons_append, List.infix_cons_iff, List.cons_prefix_cons, ih hbefore]
      exact or_iff_right fun hbegins => hx hbegins.1

/-- **A pattern is found exactly if the text contains it**, and inside the text. -/
lemma indexOf_nonneg_iff : 0 ≤ indexOf pattern text ↔ pattern <:+: text := by
  induction text with
  | nil =>
      rw [indexOf, List.infix_nil]
      split_ifs with h <;> simp [h]
  | cons x xs ih =>
      rw [indexOf, List.infix_cons_iff, ← ih]
      split_ifs with hbegins hrest
      · simp [hbegins]
      · simp [hbegins, hrest]
      · simp only [hbegins, false_or]
        omega

lemma indexOf_le_length : indexOf pattern text ≤ text.length := by
  induction text with
  | nil =>
      rw [indexOf]
      split_ifs <;> simp
  | cons x xs ih =>
      rw [indexOf, List.length_cons]
      split_ifs <;> omega

end IndexOf

/-! ### UTF-8 -/

/-- The UTF-8 bytes of a text. -/
def utf8 (s : String) : List UInt8 := s.toByteArray.data.toList

/-- The text with these UTF-8 bytes. -/
def ofUtf8 (bs : List UInt8) : Option String := String.fromUTF8? ⟨bs.toArray⟩

lemma ofUtf8_utf8 (s : String) : ofUtf8 (utf8 s) = some s := by
  have harray : (⟨(utf8 s).toArray⟩ : ByteArray) = s.toByteArray := by
    rw [utf8, Array.toArray_toList]
  rw [ofUtf8, harray, String.fromUTF8?, dif_pos s.isValidUTF8]
  exact congrArg some (String.toByteArray_inj.mp rfl)

end Dart
