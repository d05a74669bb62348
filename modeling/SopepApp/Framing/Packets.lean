import Mathlib.Tactic
import Mathlib.Data.List.GetD
import Mathlib.Data.List.TakeWhile

/-!
Packets: lists cut into pieces of one size, and the pieces of several lists
written by turns.

* `pieces`: the first `k` pieces of size `s` of a list, with `flatten_pieces`,
  `pieces_eq_iff` and `length_of_mem_pieces`;
* `Interleaving`: the items of several calls in the order they are written,
  each item with the index of its call;
* `Contiguous`: between two items of a call only items of that call are
  written;
* `Interleaving.exists_order`: a contiguous interleaving is the calls one
  after the other, in some order;
* `Interleaving.perm_range`: an interleaving of calls of one item each is an
  order of the calls;
* `Interleaving.append`: first the first parts of all calls, then the rest.
-/

namespace Packets

variable {α : Type*}

/-! ### Pieces of one size -/

/-- The first `k` pieces of size `s`. -/
def pieces (s : ℕ) : ℕ → List α → List (List α)
  | 0, _ => []
  | k + 1, xs => xs.take s :: pieces s k (xs.drop s)

/-- The pieces are the beginning of the list. -/
lemma flatten_pieces (s k : ℕ) : ∀ xs : List α, (pieces s k xs).flatten = xs.take (s * k) := by
  induction k with
  | zero => simp [pieces]
  | succ k ih =>
      intro xs
      rw [pieces, List.flatten_cons, ih, ← List.take_add, Nat.mul_succ, Nat.add_comm]

/-- Inside the list the pieces have the size `s`. -/
lemma length_of_mem_pieces {s k : ℕ} : ∀ {xs : List α}, s * k ≤ xs.length →
    ∀ {p : List α}, p ∈ pieces s k xs → p.length = s := by
  induction k with
  | zero =>
      intro xs _ p hp
      exact absurd hp (by simp [pieces])
  | succ k ih =>
      intro xs h p hp
      rw [Nat.mul_succ] at h
      rcases List.mem_cons.mp hp with rfl | hp
      · rw [List.length_take]
        omega
      · exact ih (by rw [List.length_drop]; omega) hp

@[simp] lemma length_pieces (s k : ℕ) : ∀ xs : List α, (pieces s k xs).length = k := by
  induction k with
  | zero =>
      intro xs
      rfl
  | succ k ih =>
      intro xs
      rw [pieces, List.length_cons, ih]

/-- One piece more. -/
lemma pieces_succ (s k : ℕ) : ∀ xs : List α,
    pieces s (k + 1) xs = pieces s k xs ++ [(xs.drop (s * k)).take s] := by
  induction k with
  | zero =>
      intro xs
      simp [pieces]
  | succ k ih =>
      intro xs
      rw [pieces, ih, pieces, List.drop_drop, Nat.mul_succ, Nat.add_comm s, List.cons_append]

/-- The pieces read no more than the beginning of the list. -/
lemma pieces_take (s k : ℕ) : ∀ xs : List α, pieces s k (xs.take (s * k)) = pieces s k xs := by
  induction k with
  | zero =>
      intro xs
      rfl
  | succ k ih =>
      intro xs
      have hle : s ≤ s * (k + 1) := Nat.le_mul_of_pos_right s k.succ_pos
      have hsub : s * (k + 1) - s = s * k := by rw [Nat.mul_succ, Nat.add_sub_cancel]
      rw [pieces, pieces, List.take_take, min_eq_left hle, List.drop_take, hsub, ih]

lemma pieces_eq_iff {s k : ℕ} {xs ys : List α} :
    pieces s k xs = pieces s k ys ↔ xs.take (s * k) = ys.take (s * k) := by
  constructor
  · intro h
    rw [← flatten_pieces, h, flatten_pieces]
  · intro h
    rw [← pieces_take, h, pieces_take]

/-! ### Items of several calls -/

/-- `w` writes the items of every call in their order. -/
structure Interleaving (calls : List (List α)) (w : List (ℕ × α)) : Prop where
  index_lt : ∀ x ∈ w, x.1 < calls.length
  items : ∀ i (hi : i < calls.length),
    (w.filter fun x => decide (x.1 = i)).map Prod.snd = calls[i]

/-- Between two items of a call only items of that call are written. -/
def Contiguous (w : List (ℕ × α)) : Prop :=
  ∀ pre mid post i a b, w = pre ++ (i, a) :: (mid ++ (i, b) :: post) → ∀ x ∈ mid, x.1 = i

lemma Contiguous.of_append {u v : List (ℕ × α)} (h : Contiguous (u ++ v)) : Contiguous v := by
  rintro pre mid post i a b rfl
  exact h (u ++ pre) mid post i a b (by simp)

/-- Calls written in the order of their indices are contiguous. -/
lemma Contiguous.of_pairwise {w : List (ℕ × α)} (h : (w.map Prod.fst).Pairwise (· ≤ ·)) :
    Contiguous w := by
  rintro pre mid post i a b rfl x hx
  rw [List.map_append, List.map_cons, List.pairwise_append, List.pairwise_cons, List.map_append,
    List.map_cons, List.pairwise_append] at h
  obtain ⟨-, ⟨hfirst, -, -, hlast⟩, -⟩ := h
  have hmem : x.1 ∈ mid.map Prod.fst := List.mem_map_of_mem hx
  exact le_antisymm (hlast x.1 hmem i (by simp)) (hfirst x.1 (List.mem_append_left _ hmem))

/-- After the first items of a call it writes no other. -/
lemma Contiguous.notMem_dropWhile {w : List (ℕ × α)} (h : Contiguous w) {i : ℕ} {a : α}
    {rest : List (ℕ × α)} (hw : w = (i, a) :: rest) {b : α} :
    (i, b) ∉ w.dropWhile fun x => decide (x.1 = i) := by
  intro hb
  cases hd : w.dropWhile fun x => decide (x.1 = i) with
  | nil =>
      rw [hd] at hb
      exact absurd hb (by simp)
  | cons y ys =>
      have hy : ¬ y.1 = i := by
        have hne := List.head_dropWhile_not (fun x : ℕ × α => decide (x.1 = i)) (l := w)
          (by rw [hd]; simp)
        simpa [hd] using hne
      have hyb : (i, b) ≠ y := fun hyb => hy (by rw [← hyb])
      rw [hd, List.mem_cons, or_iff_right hyb] at hb
      obtain ⟨mid, post, rfl⟩ := List.append_of_mem hb
      have hsplit := List.takeWhile_append_dropWhile (p := fun x : ℕ × α => decide (x.1 = i))
        (l := w)
      obtain ⟨block, hblock⟩ : ∃ block,
          w.takeWhile (fun x => decide (x.1 = i)) = (i, a) :: block := by
        rw [hw, List.takeWhile_cons_of_pos (by simp)]
        exact ⟨_, rfl⟩
      rw [hd, hblock] at hsplit
      refine hy (h [] (block ++ y :: mid) post i a b ?_ y (by simp))
      rw [← hsplit]
      simp

/-- **A contiguous sequence of items** is made of the items of one call after
those of another. -/
lemma Contiguous.exists_order (n : ℕ) : ∀ {w : List (ℕ × α)}, w.length ≤ n → Contiguous w →
    ∃ order : List ℕ, order.Nodup ∧ (∀ i, i ∈ order ↔ i ∈ w.map Prod.fst) ∧
      w = order.flatMap fun i => w.filter fun x => decide (x.1 = i) := by
  induction n with
  | zero =>
      intro w hlen _
      obtain rfl := List.length_eq_zero_iff.mp (Nat.le_zero.mp hlen)
      exact ⟨[], List.nodup_nil, by simp, rfl⟩
  | succ n ih =>
      intro w hlen h
      cases hw : w with
      | nil => exact ⟨[], List.nodup_nil, by simp, rfl⟩
      | cons x rest =>
          obtain ⟨i, a⟩ := x
          rw [← hw]
          -- the items of the first call, and the items after them
          set block := w.takeWhile fun x => decide (x.1 = i) with hblock
          set others := w.dropWhile fun x => decide (x.1 = i) with hothers
          have hsplit : block ++ others = w := List.takeWhile_append_dropWhile
          have hnot : ∀ x ∈ others, x.1 ≠ i := by
            rintro ⟨j, b⟩ hx rfl
            exact h.notMem_dropWhile hw hx
          have hall : ∀ x ∈ block, x.1 = i := by
            intro x hx
            simpa using List.mem_takeWhile_imp hx
          have hmem : (i, a) ∈ block := by
            rw [hblock, hw, List.takeWhile_cons_of_pos (by simp)]
            simp
          have hlt : others.length ≤ n := by
            have hl := congrArg List.length hsplit
            have hpos := List.length_pos_of_mem hmem
            rw [List.length_append] at hl
            omega
          have hcont : Contiguous others := by
            rw [← hsplit] at h
            exact h.of_append
          obtain ⟨order, hnodup, hiff, heq⟩ := ih hlt hcont
          have hi : i ∉ order := by
            intro hi
            obtain ⟨x, hx, hxi⟩ := List.mem_map.mp ((hiff i).mp hi)
            exact hnot x hx hxi
          have hfirst : (w.filter fun x => decide (x.1 = i)) = block := by
            rw [← hsplit, List.filter_append, List.filter_eq_self.mpr (by simpa using hall),
              List.filter_eq_nil_iff.mpr (by simpa using hnot), List.append_nil]
          have hrest : ∀ j ∈ order, (w.filter fun x => decide (x.1 = j)) =
              others.filter fun x => decide (x.1 = j) := by
            intro j hj
            have hji : i ≠ j := fun hij => hi (by rwa [hij])
            rw [← hsplit, List.filter_append, List.filter_eq_nil_iff.mpr, List.nil_append]
            intro x hx
            rw [hall x hx]
            simpa using hji
          refine ⟨i :: order, List.nodup_cons.mpr ⟨hi, hnodup⟩, fun j => ?_, ?_⟩
          · rw [List.mem_cons, hiff, ← hsplit, List.map_append, List.mem_append]
            refine or_congr_left ⟨?_, ?_⟩
            · rintro rfl
              exact List.mem_map.mpr ⟨_, hmem, rfl⟩
            · intro hj
              obtain ⟨x, hx, rfl⟩ := List.mem_map.mp hj
              exact hall x hx
          · calc w = block ++ others := hsplit.symm
              _ = block ++ order.flatMap fun j => others.filter fun x => decide (x.1 = j) := by
                  rw [← heq]
              _ = (i :: order).flatMap fun j => w.filter fun x => decide (x.1 = j) := by
                  rw [List.flatMap_cons, hfirst, List.flatMap_congr hrest]

/-- **Contiguous calls**: their items are written one call after another. -/
theorem Interleaving.exists_order {calls : List (List α)} {w : List (ℕ × α)}
    (h : Interleaving calls w) (hne : ∀ c ∈ calls, c ≠ []) (hc : Contiguous w) :
    ∃ order : List ℕ, order.Perm (List.range calls.length) ∧
      w.map Prod.snd = order.flatMap fun i => calls.getD i [] := by
  obtain ⟨order, hnodup, hiff, heq⟩ := hc.exists_order w.length le_rfl
  have hitems : ∀ i < calls.length,
      (w.filter fun x => decide (x.1 = i)).map Prod.snd = calls.getD i [] := by
    intro i hi
    rw [h.items i hi, List.getD_eq_getElem _ _ hi]
  have hlt : ∀ i ∈ order, i < calls.length := by
    intro i hi
    obtain ⟨x, hx, rfl⟩ := List.mem_map.mp ((hiff i).mp hi)
    exact h.index_lt x hx
  refine ⟨order, (List.perm_ext_iff_of_nodup hnodup List.nodup_range).mpr fun i => ?_, ?_⟩
  · rw [List.mem_range]
    refine ⟨hlt i, fun hi => ?_⟩
    have hcall := hne _ (List.getElem_mem hi)
    rw [← List.getD_eq_getElem _ [] hi, ← hitems i hi, ne_eq, List.map_eq_nil_iff] at hcall
    obtain ⟨x, hx⟩ := List.exists_mem_of_ne_nil _ hcall
    rw [List.mem_filter, decide_eq_true_eq] at hx
    exact (hiff i).mpr (List.mem_map.mpr ⟨x, hx.1, hx.2⟩)
  · calc w.map Prod.snd
        = (order.flatMap fun i => w.filter fun x => decide (x.1 = i)).map Prod.snd :=
          congrArg (List.map Prod.snd) heq
      _ = order.flatMap fun i => (w.filter fun x => decide (x.1 = i)).map Prod.snd :=
          List.map_flatMap
      _ = order.flatMap fun i => calls.getD i [] :=
          List.flatMap_congr fun i hi => hitems i (hlt i hi)

/-- **Calls of one item each** are written in some order of their indices. -/
theorem Interleaving.perm_range {calls : List (List α)} {w : List (ℕ × α)}
    (h : Interleaving calls w) (hone : ∀ c ∈ calls, c.length = 1) :
    (w.map Prod.fst).Perm (List.range calls.length) := by
  rw [List.perm_iff_count]
  intro i
  rw [List.count_range, List.count_eq_length_filter, List.filter_map, List.length_map]
  split_ifs with hi
  · have hitems := congrArg List.length (h.items i hi)
    rw [List.length_map, hone _ (List.getElem_mem hi)] at hitems
    exact hitems
  · rw [List.length_eq_zero_iff, List.filter_eq_nil_iff]
    intro x hx heq
    exact hi (beq_iff_eq.mp heq ▸ h.index_lt x hx)

/-- Calls of one item each, in order. -/
lemma exists_interleaving_singletons (items : List α) :
    ∃ w, Interleaving (items.map fun a => [a]) w ∧ w.map Prod.snd = items := by
  refine ⟨(List.finRange items.length).map fun i : Fin items.length => ((i : ℕ), items.get i),
    ⟨?_, ?_⟩, ?_⟩
  · intro x hx
    obtain ⟨i, -, rfl⟩ := List.mem_map.mp hx
    rw [List.length_map]
    exact i.isLt
  · intro i hi
    rw [List.length_map] at hi
    have hfilter : (List.finRange items.length).filter
        (fun j : Fin items.length => decide ((j : ℕ) = i)) = [⟨i, hi⟩] := by
      have hcount := List.count_eq_one_of_mem (List.nodup_finRange items.length)
        (List.mem_finRange (⟨i, hi⟩ : Fin items.length))
      rw [← List.replicate_one, ← hcount, ← List.filter_eq]
      refine List.filter_congr fun j _ => ?_
      rw [decide_eq_decide, Fin.ext_iff]
    rw [List.filter_map, List.map_map]
    change ((List.finRange items.length).filter
        (fun j : Fin items.length => decide ((j : ℕ) = i))).map _ = _
    rw [hfilter, List.getElem_map]
    rfl
  · rw [List.map_map]
    exact List.map_get_finRange items

/-- First the first parts of calls, then the rest of them. -/
lemma Interleaving.append {calls calls' : List (List α)} {w w' : List (ℕ × α)}
    (h : Interleaving calls w) (h' : Interleaving calls' w')
    (hlength : calls.length = calls'.length) :
    Interleaving (List.zipWith (· ++ ·) calls calls') (w ++ w') := by
  have hzip : (List.zipWith (· ++ ·) calls calls').length = calls.length := by
    rw [List.length_zipWith, hlength, Nat.min_self]
  constructor
  · intro x hx
    rw [hzip]
    rcases List.mem_append.mp hx with hx | hx
    · exact h.index_lt x hx
    · rw [hlength]
      exact h'.index_lt x hx
  · intro i hi
    rw [hzip] at hi
    rw [List.filter_append, List.map_append, h.items i hi, h'.items i (by rwa [← hlength]),
      List.getElem_zipWith]

end Packets
