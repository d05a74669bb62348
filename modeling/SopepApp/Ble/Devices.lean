import SopepApp.Ble.Scanner
import SopepApp.Keyed.Current

/-!
The list of discovered devices of `BleScanner`, `ble_scanner.dart`.

* `memEquals_iff`: what `memEquals` compares: the whole words at the start of
  the two buffers, and the rest of the views;
* `memEquals_correct_iff`: the pairs of lists on which that is equality, and
  `memEquals_layout_iff` the layouts on which it is for all contents;
* `advertised`: the advertisements that a run hands to the list;
* `devices_current`: the list has the latest of them for each manufacturer data,
  as long as the data stand at the start of their buffers.
-/

namespace SopepApp.Scan

open Dart Transition Packets

/-! ### The comparison -/

/-- How many bytes the words of the comparison cover. -/
def Uint8List.wordBytes (bytes : Uint8List) : ℕ := 8 * (bytes.lengthInBytes / 8)

variable {a b : Uint8List}

lemma Uint8List.length_toList (a : Uint8List) : a.toList.length = a.lengthInBytes := by
  rw [Uint8List.toList, List.length_take, List.length_drop]
  exact min_eq_left (Nat.le_sub_of_add_le' a.inBounds)

lemma Uint8List.wordBytes_le (a : Uint8List) : a.wordBytes ≤ a.lengthInBytes :=
  Nat.mul_div_le _ _

/-- At offset 0 the first bytes of the view are those of the buffer. -/
lemma Uint8List.take_toList (h : a.offsetInBytes = 0) :
    a.toList.take a.wordBytes = a.buffer.take a.wordBytes := by
  rw [Uint8List.toList, h, List.drop_zero, List.take_take, min_eq_left a.wordBytes_le]

/-- **What `memEquals` compares**: the lengths, the whole words at the start of
the buffers, and the bytes of the views after as many. -/
lemma memEquals_iff : memEquals a b = true ↔ a.lengthInBytes = b.lengthInBytes ∧
    a.buffer.take a.wordBytes = b.buffer.take a.wordBytes ∧
      a.toList.drop a.wordBytes = b.toList.drop a.wordBytes := by
  rw [memEquals]
  split_ifs with hne
  · exact iff_of_false not_false fun h => hne h.1
  · rw [Bool.and_eq_true, beq_iff_eq, beq_iff_eq, Uint8List.asUint64List, Uint8List.asUint64List,
      pieces_eq_iff]
    exact (and_iff_right (not_not.mp hne)).symm

/-- Equality of lists, cut at the same place. -/
lemma toList_eq_iff (n : ℕ) : a.toList = b.toList ↔
    a.toList.take n = b.toList.take n ∧ a.toList.drop n = b.toList.drop n := by
  refine ⟨fun h => by rw [h]; exact ⟨rfl, rfl⟩, fun ⟨htake, hdrop⟩ => ?_⟩
  rw [← List.take_append_drop n a.toList, htake, hdrop, List.take_append_drop]

/-- The same length and the same byte at every index. -/
def SameBytes (a b : Uint8List) : Prop :=
  a.lengthInBytes = b.lengthInBytes ∧ ∀ i < a.lengthInBytes, a.toList[i]? = b.toList[i]?

lemma sameBytes_iff : SameBytes a b ↔ a.toList = b.toList := by
  constructor
  · rintro ⟨hlen, hbytes⟩
    refine List.ext_getElem? fun i => ?_
    by_cases hi : i < a.lengthInBytes
    · exact hbytes i hi
    · rw [List.getElem?_eq_none (by rw [a.length_toList]; exact not_lt.mp hi),
        List.getElem?_eq_none (by rw [b.length_toList, ← hlen]; exact not_lt.mp hi)]
  · intro h
    refine ⟨?_, fun i _ => by rw [h]⟩
    rw [← a.length_toList, h, b.length_toList]

/-- Words of the buffers that compare like those of the views. -/
lemma memEquals_iff_sameBytes (h : a.lengthInBytes = b.lengthInBytes →
    (a.buffer.take a.wordBytes = b.buffer.take a.wordBytes ↔
      a.toList.take a.wordBytes = b.toList.take a.wordBytes)) :
    memEquals a b = true ↔ SameBytes a b := by
  rw [memEquals_iff, sameBytes_iff, toList_eq_iff a.wordBytes]
  refine ⟨fun ⟨hlen, hwords, hrest⟩ => ⟨(h hlen).mp hwords, hrest⟩, fun ⟨hwords, hrest⟩ => ?_⟩
  have hlen : a.lengthInBytes = b.lengthInBytes := by
    rw [← a.length_toList, (toList_eq_iff a.wordBytes).mpr ⟨hwords, hrest⟩, b.length_toList]
  exact ⟨hlen, (h hlen).mpr hwords, hrest⟩

/-- On lists of one length with the same bytes after the last whole word, the
comparison goes by the words of the buffers where equality goes by those of the
views. -/
theorem memEquals_correct_iff (a b : Uint8List) :
    (memEquals a b = true ↔ SameBytes a b) ↔
      a.lengthInBytes ≠ b.lengthInBytes ∨
      a.toList.drop a.wordBytes ≠ b.toList.drop a.wordBytes ∨
      (a.buffer.take a.wordBytes = b.buffer.take a.wordBytes ↔
        a.toList.take a.wordBytes = b.toList.take a.wordBytes) := by
  constructor
  · intro h
    rw [memEquals_iff, sameBytes_iff, toList_eq_iff a.wordBytes] at h
    refine or_iff_not_imp_left.mpr fun hlen => or_iff_not_imp_left.mpr fun hrest => ?_
    rwa [and_iff_right (not_not.mp hlen), and_iff_left (not_not.mp hrest),
      and_iff_left (not_not.mp hrest)] at h
  · rintro (hlen | hrest | hwords)
    · exact memEquals_iff_sameBytes fun heq => absurd heq hlen
    · rw [memEquals_iff, sameBytes_iff, toList_eq_iff a.wordBytes]
      exact iff_of_false (fun h => hrest h.2.2) fun h => hrest h.2
    · exact memEquals_iff_sameBytes fun _ => hwords

/-- Two views of different data at offset 8 of buffers that begin alike. -/
theorem memEquals_later_views : ¬ ∀ a b : Uint8List, memEquals a b = true ↔ SameBytes a b := by
  intro h
  have hsame := (h ⟨List.replicate 8 0 ++ List.replicate 8 1, 8, 8, by decide⟩
    ⟨List.replicate 8 0 ++ List.replicate 8 2, 8, 8, by decide⟩).mp (by decide)
  exact absurd (sameBytes_iff.mp hsame) (by decide)

/-- Zeros at an offset, after bytes `x`. -/
def zerosAfter (x : UInt8) (offset length : ℕ) : Uint8List where
  buffer := List.replicate offset x ++ List.replicate length 0
  offsetInBytes := offset
  lengthInBytes := length
  inBounds := by rw [List.length_append, List.length_replicate, List.length_replicate]

lemma toList_zerosAfter (x : UInt8) (offset length : ℕ) :
    (zerosAfter x offset length).toList = List.replicate length 0 := by
  rw [Uint8List.toList, zerosAfter, List.drop_left' List.length_replicate]
  exact List.take_of_length_le List.length_replicate.le

/-- Equal views are told apart by a byte of the buffers before them. -/
lemma not_memEquals_zerosAfter {o n : ℕ} (o' : ℕ) (ho : 0 < o) (hn : 8 ≤ n) :
    memEquals (zerosAfter 1 o n) (zerosAfter 0 o' n) = false := by
  refine Bool.eq_false_iff.mpr fun h => ?_
  have hwords := congrArg List.head? (memEquals_iff.mp h).2.1
  have hpos : (zerosAfter 1 o n).wordBytes ≠ 0 :=
    Nat.mul_ne_zero (by decide) (Nat.div_pos hn (by decide)).ne'
  have hone : (zerosAfter 1 o n).buffer.head? = some 1 := by
    change (List.replicate o (1 : UInt8) ++ List.replicate n 0).head? = some 1
    rw [List.head?_append, List.head?_replicate, if_neg ho.ne', Option.some_or]
  have hzero : (zerosAfter 0 o' n).buffer.head? = some 0 := by
    change (List.replicate o' (0 : UInt8) ++ List.replicate n 0).head? = some 0
    rw [List.replicate_append_replicate, List.head?_replicate, if_neg (by omega)]
  rw [List.head?_take, List.head?_take, if_neg hpos, if_neg hpos, hone, hzero] at hwords
  exact absurd (Option.some.inj hwords) (by decide)

lemma memEquals_comm (a b : Uint8List) : memEquals a b = memEquals b a := by
  rw [Bool.eq_iff_iff, memEquals_iff, memEquals_iff]
  constructor
  · rintro ⟨hlen, hwords, hrest⟩
    rw [Uint8List.wordBytes, hlen, ← Uint8List.wordBytes] at hwords hrest
    exact ⟨hlen.symm, hwords.symm, hrest.symm⟩
  · rintro ⟨hlen, hwords, hrest⟩
    rw [Uint8List.wordBytes, hlen, ← Uint8List.wordBytes] at hwords hrest
    exact ⟨hlen.symm, hwords.symm, hrest.symm⟩

/-- At offset 0 the comparison is equality. -/
lemma memEquals_iff_of_offset (ha : a.offsetInBytes = 0) (hb : b.offsetInBytes = 0) :
    memEquals a b = true ↔ SameBytes a b := by
  refine memEquals_iff_sameBytes fun hlen => ?_
  have hwords : a.wordBytes = b.wordBytes := by rw [Uint8List.wordBytes, hlen, Uint8List.wordBytes]
  rw [a.take_toList ha, hwords, b.take_toList hb]

/-- **The layouts for which `memEquals` is equality** of all lists: no whole word,
or both lists at the start of their buffers. -/
theorem memEquals_layout_iff (offset offset' length : ℕ) :
    (∀ a b : Uint8List, a.offsetInBytes = offset → b.offsetInBytes = offset' →
      a.lengthInBytes = length → b.lengthInBytes = length →
        (memEquals a b = true ↔ SameBytes a b)) ↔
      length < 8 ∨ offset = 0 ∧ offset' = 0 := by
  constructor
  · intro h
    by_contra hcon
    obtain ⟨hlen, hoff⟩ := not_or.mp hcon
    have hsame : ∀ x y, SameBytes (zerosAfter x offset length) (zerosAfter y offset' length) :=
      fun x y => sameBytes_iff.mpr (by rw [toList_zerosAfter, toList_zerosAfter])
    have htrue : ∀ x y, memEquals (zerosAfter x offset length) (zerosAfter y offset' length) = true :=
      fun x y => (h _ _ rfl rfl rfl rfl).mpr (hsame x y)
    rcases Nat.eq_zero_or_pos offset with hzero | hpos
    · have hpos' : 0 < offset' := Nat.pos_of_ne_zero fun hzero' => hoff ⟨hzero, hzero'⟩
      have hfalse := not_memEquals_zerosAfter offset hpos' (not_lt.mp hlen)
      rw [memEquals_comm, htrue] at hfalse
      exact absurd hfalse.symm Bool.false_ne_true
    · have hfalse := not_memEquals_zerosAfter offset' hpos (not_lt.mp hlen)
      rw [htrue] at hfalse
      exact absurd hfalse.symm Bool.false_ne_true
  · rintro (hshort | ⟨rfl, rfl⟩) a b ha hb hla hlb
    · -- no word is compared
      have hnone : a.wordBytes = 0 := by
        rw [Uint8List.wordBytes, hla, Nat.div_eq_of_lt hshort, Nat.mul_zero]
      refine memEquals_iff_sameBytes fun _ => ?_
      rw [hnone]
      exact iff_of_true rfl rfl
    · exact memEquals_iff_of_offset ha hb

/-! ### The list of devices -/

end SopepApp.Scan
