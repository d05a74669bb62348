import Mathlib.Tactic

/-!
Streams of frames between delimiters.

A frame is a body, non-empty and free of the delimiter, with a delimiter on
each side. A receiver collects symbols and completes a body at each delimiter
that finds it with symbols pending.

* `Delimited.split`: the bodies completed by a stream and the symbols left
  pending; `split_append` makes it independent of the cutting of the stream;
* `split_frames`: a concatenation of frames completes exactly its bodies and
  leaves nothing pending;
* `completed`: the bodies completed in each chunk of a stream;
* `ends`, `OneEnd`: the positions at which the frames of a stream end, and no
  two of them in one chunk; `completed_le_one_iff`: then and only then no chunk
  completes two bodies;
* `flatMap_getLast_iff`: keeping the last element of each list keeps
  everything exactly when no list has two elements.
-/

namespace Delimited

variable {α : Type*} [DecidableEq α]

/-- The bodies completed by a stream read with `raw` pending, and the symbols
pending after it. -/
def split (d : α) : List α → List α → List (List α) × List α
  | raw, [] => ([], raw)
  | raw, b :: bs =>
    if b = d then
      if raw = [] then split d [] bs else (raw :: (split d [] bs).1, (split d [] bs).2)
    else split d (raw ++ [b]) bs

/-- A body: non-empty and free of the delimiter. -/
structure IsBody (d : α) (c : List α) : Prop where
  ne_nil : c ≠ []
  notMem : d ∉ c

/-- The frame of a body. -/
def frame (d : α) (c : List α) : List α := d :: (c ++ [d])

omit [DecidableEq α] in
@[simp] lemma length_frame (d : α) (c : List α) : (frame d c).length = c.length + 2 := by
  simp [frame]

@[simp] lemma split_nil (d : α) (raw : List α) : split d raw [] = ([], raw) := rfl

/-- A stream read in two parts. -/
theorem split_append (d : α) (s t : List α) : ∀ raw : List α,
    split d raw (s ++ t) =
      ((split d raw s).1 ++ (split d (split d raw s).2 t).1,
        (split d (split d raw s).2 t).2) := by
  induction s with
  | nil => simp
  | cons b s ih =>
      intro raw
      rw [List.cons_append, split, split]
      split_ifs with hb hraw
      · exact ih []
      · rw [ih []]
        simp
      · exact ih _

/-- Symbols other than the delimiter are collected. -/
lemma split_of_notMem {d : α} (c : List α) (raw : List α) (hc : d ∉ c) :
    split d raw c = ([], raw ++ c) := by
  induction c generalizing raw with
  | nil => simp
  | cons b c ih =>
      have hb : b ≠ d := fun h => hc (by simp [h])
      rw [split, if_neg hb, ih _ fun h => hc (List.mem_cons_of_mem b h)]
      simp

/-- A delimiter completes what is pending. -/
lemma split_delim {d : α} {raw : List α} (hraw : raw ≠ []) (s : List α) :
    split d raw (d :: s) = (raw :: (split d [] s).1, (split d [] s).2) := by
  rw [split, if_pos rfl, if_neg hraw]

/-- A delimiter with nothing pending is skipped. -/
lemma split_delim_nil (d : α) (s : List α) : split d [] (d :: s) = split d [] s := by
  rw [split, if_pos rfl, if_pos rfl]

/-- A body completes at the delimiter after it. -/
lemma split_body_append {d : α} {c : List α} (hc : IsBody d c) (s : List α) :
    split d [] (c ++ d :: s) = (c :: (split d [] s).1, (split d [] s).2) := by
  rw [split_append, split_of_notMem c [] hc.notMem, List.nil_append, List.nil_append,
    split_delim hc.ne_nil]

/-- A frame completes its body. -/
lemma split_frame_append {d : α} {c : List α} (hc : IsBody d c) (s : List α) :
    split d [] (frame d c ++ s) = (c :: (split d [] s).1, (split d [] s).2) := by
  rw [frame, List.cons_append, split_delim_nil, List.append_assoc, List.singleton_append,
    split_body_append hc]

/-- **A stream of frames** completes exactly its bodies, in order, and leaves
nothing pending. -/
theorem split_frames {d : α} {cs : List (List α)} (hcs : ∀ c ∈ cs, IsBody d c) :
    split d [] (cs.flatMap (frame d)) = (cs, []) := by
  induction cs with
  | nil => rfl
  | cons c cs ih =>
      rw [List.flatMap_cons, split_frame_append (hcs c (by simp)),
        ih fun c' hc' => hcs c' (List.mem_cons_of_mem c hc')]

/-! ### Chunks -/

/-- The bodies completed in each chunk of a stream. -/
def completed (d : α) : List α → List (List α) → List (List (List α))
  | _, [] => []
  | raw, c :: cs => (split d raw c).1 :: completed d (split d raw c).2 cs

@[simp] lemma length_completed (d : α) (chunks : List (List α)) : ∀ raw : List α,
    (completed d raw chunks).length = chunks.length := by
  induction chunks with
  | nil => simp [completed]
  | cons c cs ih =>
      intro raw
      rw [completed, List.length_cons, List.length_cons, ih]

/-- The bodies completed do not depend on the chunks. -/
lemma flatten_completed (d : α) (chunks : List (List α)) : ∀ raw : List α,
    (completed d raw chunks).flatten = (split d raw chunks.flatten).1 := by
  induction chunks with
  | nil => simp [completed]
  | cons c cs ih =>
      intro raw
      rw [completed, List.flatten_cons, List.flatten_cons, ih, split_append]

/-- The bodies completed in one chunk, from what the chunks before it leave
pending. -/
lemma mem_completed_iff (d : α) (chunks : List (List α)) (l : List (List α)) : ∀ raw : List α,
    l ∈ completed d raw chunks ↔
      ∃ pre c post, chunks = pre ++ c :: post ∧
        l = (split d (split d raw pre.flatten).2 c).1 := by
  induction chunks with
  | nil => simp [completed]
  | cons c cs ih =>
      intro raw
      rw [completed, List.mem_cons, ih]
      constructor
      · rintro (rfl | ⟨pre, c', post, rfl, rfl⟩)
        · exact ⟨[], c, cs, rfl, by simp⟩
        · refine ⟨c :: pre, c', post, rfl, ?_⟩
          rw [List.flatten_cons, split_append]
      · rintro ⟨pre, c', post, h, rfl⟩
        cases pre with
        | nil =>
            obtain ⟨rfl, rfl⟩ := List.cons.inj h
            exact Or.inl (by simp)
        | cons p pre =>
            obtain ⟨rfl, rfl⟩ := List.cons.inj h
            refine Or.inr ⟨pre, c', post, rfl, ?_⟩
            rw [List.flatten_cons, split_append]

/-! ### The ends of the frames -/

/-- The positions at which consecutive frames end, the first frame starting at
position `n`. -/
def ends : ℕ → List (List α) → List ℕ
  | _, [] => []
  | n, f :: fs => (n + f.length) :: ends (n + f.length) fs

omit [DecidableEq α] in
lemma le_of_mem_ends {fs : List (List α)} : ∀ {n e : ℕ}, e ∈ ends n fs → n ≤ e := by
  induction fs with
  | nil => simp [ends]
  | cons f fs ih =>
      intro n e he
      rcases List.mem_cons.mp he with rfl | he
      · omega
      · have h := ih he
        omega

/-- A proper part of a frame completes nothing. -/
lemma split_of_lt_frame {d : α} {c p s : List α} (hc : IsBody d c) (h : p ++ s = frame d c)
    (hlt : p.length < (frame d c).length) : (split d [] p).1 = [] := by
  cases p with
  | nil => rfl
  | cons b p =>
      rw [frame, List.cons_append] at h
      obtain ⟨rfl, h⟩ := List.cons.inj h
      have hs : s ≠ [] := by
        rintro rfl
        rw [List.append_nil] at h
        rw [h, length_frame] at hlt
        simp at hlt
      have hp : p <+: c := by
        have hpc : p <+: c ++ [b] := ⟨s, h⟩
        refine List.prefix_of_prefix_length_le hpc (List.prefix_append _ _) ?_
        have hlen := congrArg List.length h
        have hpos := List.length_pos_of_ne_nil hs
        rw [List.length_append, List.length_append, List.length_singleton] at hlen
        omega
      rw [split_delim_nil, split_of_notMem p [] fun hm => hc.notMem (hp.subset hm)]

/-- A part of a stream of frames completes one body for each frame that ends
in it. -/
lemma length_split_prefix {d : α} {cs : List (List α)} (hcs : ∀ c ∈ cs, IsBody d c) :
    ∀ {p s : List α} (n : ℕ), p ++ s = cs.flatMap (frame d) →
      (split d [] p).1.length =
        (ends n (cs.map (frame d))).countP (fun e => decide (e ≤ n + p.length)) := by
  induction cs with
  | nil =>
      intro p s n h
      rw [List.flatMap_nil, List.append_eq_nil_iff] at h
      simp [h.1, ends]
  | cons c cs ih =>
      intro p s n h
      have hc := hcs c (by simp)
      have hcs' : ∀ c' ∈ cs, IsBody d c' := fun c' hc' => hcs c' (List.mem_cons_of_mem c hc')
      rw [List.flatMap_cons] at h
      rw [List.map_cons, ends, List.countP_cons]
      by_cases hlt : p.length < (frame d c).length
      · -- the part stops inside the first frame
        obtain ⟨q, hq, -⟩ | ⟨q, hq, -⟩ := List.append_eq_append_iff.mp h
        · have hnone : ∀ e ∈ ends (n + (frame d c).length) (cs.map (frame d)),
              ¬ decide (e ≤ n + p.length) = true := by
            intro e he
            have hle := le_of_mem_ends he
            rw [decide_eq_true_eq]
            omega
          rw [split_of_lt_frame hc hq.symm hlt, List.countP_eq_zero.mpr hnone,
            if_neg (by rw [decide_eq_true_eq]; omega)]
          rfl
        · rw [hq, List.length_append] at hlt
          omega
      · -- the part holds the first frame
        obtain ⟨q, rfl, hq⟩ : ∃ q, p = frame d c ++ q ∧ q ++ s = cs.flatMap (frame d) := by
          obtain ⟨q, hq, hs⟩ | ⟨q, hq, hs⟩ := List.append_eq_append_iff.mp h
          · have hlen := congrArg List.length hq
            rw [List.length_append] at hlen
            have hq0 : q = [] := List.length_eq_zero_iff.mp (by omega)
            subst hq0
            exact ⟨[], by simpa using hq.symm, by simpa using hs⟩
          · exact ⟨q, hq, hs.symm⟩
        rw [split_frame_append hc, List.length_cons, ih hcs' (n + (frame d c).length) hq,
          List.length_append, if_pos (by rw [decide_eq_true_eq]; omega), Nat.add_assoc n]

/-- The ends in an interval of positions. -/
lemma countP_ends_interval (l : List ℕ) {lo hi : ℕ} (h : lo ≤ hi) :
    l.countP (fun e => decide (e ≤ hi)) =
      l.countP (fun e => decide (e ≤ lo)) + l.countP (fun e => decide (lo < e ∧ e ≤ hi)) := by
  induction l with
  | nil => rfl
  | cons e l ih =>
      rw [List.countP_cons, List.countP_cons, List.countP_cons, ih]
      simp only [decide_eq_true_eq]
      split_ifs <;> omega

/-- No chunk of the stream of `frames` holds the ends of two frames. -/
def OneEnd (frames chunks : List (List α)) : Prop :=
  ∀ pre c post, chunks = pre ++ c :: post →
    (ends 0 frames).countP (fun e =>
      decide (pre.flatten.length < e ∧ e ≤ pre.flatten.length + c.length)) ≤ 1

/-- **One end a chunk**: no chunk of a stream of frames completes two bodies
exactly when no chunk holds the ends of two frames. -/
theorem completed_le_one_iff {d : α} {cs chunks : List (List α)} (hcs : ∀ c ∈ cs, IsBody d c)
    (hcut : chunks.flatten = cs.flatMap (frame d)) :
    (∀ l ∈ completed d [] chunks, l.length ≤ 1) ↔ OneEnd (cs.map (frame d)) chunks := by
  have key : ∀ pre c post, chunks = pre ++ c :: post →
      (split d (split d [] pre.flatten).2 c).1.length =
        (ends 0 (cs.map (frame d))).countP (fun e =>
          decide (pre.flatten.length < e ∧ e ≤ pre.flatten.length + c.length)) := by
    rintro pre c post rfl
    rw [List.flatten_append, List.flatten_cons] at hcut
    have hpre := length_split_prefix hcs 0 hcut
    rw [← List.append_assoc] at hcut
    have hprec := length_split_prefix hcs 0 hcut
    rw [split_append, List.length_append, hpre, Nat.zero_add, Nat.zero_add, List.length_append,
      countP_ends_interval _ (Nat.le_add_right pre.flatten.length c.length)] at hprec
    omega
  constructor
  · intro h pre c post hsplit
    rw [← key pre c post hsplit]
    exact h _ ((mem_completed_iff d chunks _ []).mpr ⟨pre, c, post, hsplit, rfl⟩)
  · intro h l hl
    obtain ⟨pre, c, post, hsplit, rfl⟩ := (mem_completed_iff d chunks l []).mp hl
    rw [key pre c post hsplit]
    exact h pre c post hsplit

/-! ### One element of each list -/

section Last

variable {β : Type*}

lemma length_getLast?_toList_le (l : List β) : l.getLast?.toList.length ≤ l.length := by
  cases l with
  | nil => simp
  | cons b l => simp [List.getLast?_cons]

/-- Keeping the last element of each list loses an element as soon as a list
has two. -/
lemma length_flatMap_getLast (ls : List (List β)) :
    (ls.flatMap fun l => l.getLast?.toList).length ≤ ls.flatten.length ∧
      ((ls.flatMap fun l => l.getLast?.toList).length = ls.flatten.length →
        ∀ l ∈ ls, l.length ≤ 1) := by
  induction ls with
  | nil => simp
  | cons l ls ih =>
      obtain ⟨hle, heq⟩ := ih
      have hl := length_getLast?_toList_le l
      rw [List.flatMap_cons, List.flatten_cons, List.length_append, List.length_append]
      refine ⟨by omega, fun h => ?_⟩
      have hone : l.length ≤ 1 := by
        cases hlast : l.getLast? with
        | none =>
            rw [List.getLast?_eq_none_iff] at hlast
            simp [hlast]
        | some b =>
            rw [hlast] at h hl
            simp only [Option.toList_some, List.length_singleton] at h hl
            omega
      intro l' hl'
      rcases List.mem_cons.mp hl' with rfl | hl'
      · exact hone
      · exact heq (by omega) l' hl'

/-- **Keeping the last element of each list** keeps everything exactly when no
list has two elements. -/
theorem flatMap_getLast_iff (ls : List (List β)) :
    (ls.flatMap fun l => l.getLast?.toList) = ls.flatten ↔ ∀ l ∈ ls, l.length ≤ 1 := by
  constructor
  · intro h
    exact (length_flatMap_getLast ls).2 (congrArg List.length h)
  · intro h
    have hone : ∀ l ∈ ls, l.getLast?.toList = id l := by
      intro l hl
      rcases l with _ | ⟨b, _ | ⟨b', l⟩⟩
      · rfl
      · rfl
      · have hle := h _ hl
        simp at hle
    calc (ls.flatMap fun l => l.getLast?.toList) = ls.flatMap id := List.flatMap_congr hone
      _ = ls.flatten := List.flatMap_id

end Last

end Delimited
