import Mathlib.Tactic
import Mathlib.Data.List.Dedup

/-!
Lists with one entry for each key, as a stream of records keeps them up to
date.

* `put`: a record takes the place of the entry with its key, or is added;
* `Current as l`: `l` has the latest record of each key among `as`, in the
  order in which the keys were first seen;
* `Current.put`: one record more keeps the list current, `Current.foldl` a
  whole stream of them.
-/

namespace Keyed

variable {α κ : Type*} [DecidableEq κ] (key : α → κ)

/-- `a` takes the place of the entry with its key, or is added. -/
def put (l : List α) (a : α) : List α :=
  match l.findIdx? fun b => decide (key b = key a) with
  | some i => l.set i a
  | none => l ++ [a]

/-- `l` has one entry for each key among the records `as`. -/
structure Current (as l : List α) : Prop where
  nodup : (l.map key).Nodup
  mem_iff : ∀ k, k ∈ l.map key ↔ k ∈ as.map key
  /-- each entry is the latest record of its key -/
  latest : ∀ b ∈ l, (as.filter fun a => key a = key b).getLast? = some b
  /-- the keys are in the order in which they were first seen -/
  order : (l.map key).Pairwise fun k k' => (as.map key).idxOf k < (as.map key).idxOf k'

variable {key} {as l : List α} {a b : α}

lemma Current.nil : Current key ([] : List α) [] := by
  refine ⟨List.nodup_nil, ?_, ?_, List.Pairwise.nil⟩ <;> simp

/-! ### One record more -/

lemma put_of_notMem (h : key a ∉ l.map key) : put key l a = l ++ [a] := by
  have hnone : l.findIdx? (fun b => decide (key b = key a)) = none := by
    rw [List.findIdx?_eq_none_iff]
    intro b hb
    exact decide_eq_false fun hkey => h (hkey ▸ List.mem_map_of_mem hb)
  rw [put, hnone]

/-- The entry that is replaced. -/
lemma put_of_mem (h : key a ∈ l.map key) :
    ∃ pre old post, l = pre ++ old :: post ∧ key old = key a ∧ put key l a = pre ++ a :: post := by
  obtain ⟨b, hb, hkey⟩ := List.mem_map.mp h
  have hsome : (l.findIdx? fun b => decide (key b = key a)).isSome := by
    rw [List.findIdx?_isSome, List.any_eq_true]
    exact ⟨b, hb, decide_eq_true hkey⟩
  obtain ⟨i, hi⟩ := Option.isSome_iff_exists.mp hsome
  obtain ⟨hlt, hfound, -⟩ := List.findIdx?_eq_some_iff_getElem.mp hi
  refine ⟨l.take i, l[i], l.drop (i + 1), ?_, of_decide_eq_true hfound, ?_⟩
  · rw [List.getElem_cons_drop, List.take_append_drop]
  · rw [put, hi]
    exact List.set_eq_take_append_cons_drop.trans (if_pos hlt)

/-- The keys keep their places; a new one comes last. -/
lemma map_put (l : List α) (a : α) :
    (put key l a).map key = if key a ∈ l.map key then l.map key else l.map key ++ [key a] := by
  split_ifs with h
  · obtain ⟨pre, old, post, rfl, hkey, hput⟩ := put_of_mem h
    rw [hput, List.map_append, List.map_append, List.map_cons, List.map_cons, hkey]
  · rw [put_of_notMem h, List.map_append, List.map_singleton]

/-- The entries: the new record and the ones with other keys. -/
lemma mem_put (hl : (l.map key).Nodup) (hb : b ∈ put key l a) :
    b = a ∨ b ∈ l ∧ key b ≠ key a := by
  by_cases h : key a ∈ l.map key
  · obtain ⟨pre, old, post, rfl, hkey, hput⟩ := put_of_mem h
    rw [List.map_append, List.map_cons, List.nodup_middle, List.nodup_cons, hkey,
      ← List.map_append] at hl
    rw [hput, List.mem_append, List.mem_cons, or_left_comm, ← List.mem_append] at hb
    refine hb.imp_right fun hmem => ⟨?_, fun heq => hl.1 (heq ▸ List.mem_map_of_mem hmem)⟩
    rw [List.mem_append, List.mem_cons, or_left_comm, ← List.mem_append]
    exact Or.inr hmem
  · rw [put_of_notMem h, List.mem_append, List.mem_singleton] at hb
    exact hb.symm.imp_right fun hmem => ⟨hmem, fun heq => h (heq ▸ List.mem_map_of_mem hmem)⟩

/-- **One record more**: the list with the record put in is current. -/
theorem Current.put (h : Current key as l) (a : α) :
    Current key (as ++ [a]) (put key l a) := by
  have hidx : ∀ k ∈ l.map key, ((as ++ [a]).map key).idxOf k = (as.map key).idxOf k := by
    intro k hk
    rw [List.map_append, List.idxOf_append_of_mem ((h.mem_iff k).mp hk)]
  have horder : (l.map key).Pairwise fun k k' =>
      ((as ++ [a]).map key).idxOf k < ((as ++ [a]).map key).idxOf k' := by
    refine h.order.imp_of_mem fun hk hk' hlt => ?_
    rwa [hidx _ hk, hidx _ hk']
  refine ⟨?_, fun k => ?_, fun b hb => ?_, ?_⟩
  · rw [map_put]
    split_ifs with hmem
    · exact h.nodup
    · exact h.nodup.append (List.nodup_singleton _) (List.disjoint_singleton.mpr hmem)
  · rw [map_put, List.map_append, List.map_singleton, List.mem_append, ← h.mem_iff,
      List.mem_singleton]
    split_ifs with hmem
    · exact ⟨Or.inl, fun hk => hk.elim id fun heq => heq ▸ hmem⟩
    · rw [List.mem_append, List.mem_singleton]
  · rw [List.filter_append]
    rcases mem_put h.nodup hb with rfl | ⟨hold, hne⟩
    · rw [List.filter_cons_of_pos (by simp), List.filter_nil, List.getLast?_concat]
    · rw [List.filter_cons_of_neg (by simpa using hne.symm), List.filter_nil, List.append_nil]
      exact h.latest b hold
  · rw [map_put]
    split_ifs with hmem
    · exact horder
    · refine List.pairwise_append.mpr ⟨horder, List.pairwise_singleton _ _, fun k hk k' hk' => ?_⟩
      -- a key not seen before has its first place after all the others
      obtain rfl := List.mem_singleton.mp hk'
      have hnew : key a ∉ as.map key := fun hold => hmem ((h.mem_iff _).mpr hold)
      rw [hidx k hk, List.map_append, List.idxOf_append_of_notMem hnew]
      exact Nat.lt_add_right _ (List.idxOf_lt_length_of_mem ((h.mem_iff k).mp hk))

/-- **A stream of records**, put in one after the other. -/
theorem Current.foldl (h : Current key as l) (bs : List α) :
    Current key (as ++ bs) (bs.foldl (Keyed.put key) l) := by
  induction bs generalizing as l with
  | nil => rwa [List.append_nil]
  | cons b bs ih =>
      rw [List.append_cons, List.foldl_cons]
      exact ih (h.put b)

end Keyed
