import SopepApp.Transition.Run

/-!
Sections of a sequence.

Some elements of a sequence open a section and some close one. An element that
opens discards a section that is already open; what is closed without being
open is ignored.

* `openSection`: the section open after a sequence, and `sections` the sections
  it has closed, in order;
* `openSection_eq_some_iff`, `mem_sections_iff`: where the sections stand in
  the sequence.
-/

namespace Sections

open Transition

variable {α : Type*}

/-- A closed section: its first element, what stands between, its last. -/
@[ext]
structure Section (α : Type*) where
  first : α
  inner : List α
  last : α

variable (opens closes : α → Bool)

/-- The open section after one more element: its first element and what
follows. -/
def advance (cur : Option (α × List α)) (x : α) : Option (α × List α) :=
  if opens x then some (x, [])
  else if closes x then none
  else cur.map fun c => (c.1, c.2 ++ [x])

/-- The section an element closes. -/
def closedBy (cur : Option (α × List α)) (x : α) : List (Section α) :=
  if opens x then []
  else if closes x then (cur.map fun c => ⟨c.1, c.2, x⟩).toList
  else []

/-- The section open after a sequence. -/
def openSection (xs : List α) : Option (α × List α) := run (advance opens closes) none xs

/-- The sections closed in a sequence. -/
def sections (xs : List α) : List (Section α) :=
  outputs (advance opens closes) (closedBy opens closes) none xs

variable {opens closes} {xs : List α} {x : α}

@[simp] lemma openSection_nil : openSection opens closes [] = none := rfl

@[simp] lemma sections_nil : sections opens closes [] = [] := rfl

@[simp] lemma openSection_concat :
    openSection opens closes (xs ++ [x]) = advance opens closes (openSection opens closes xs) x :=
  run_concat _ _ _ _

@[simp] lemma sections_concat :
    sections opens closes (xs ++ [x]) =
      sections opens closes xs ++ closedBy opens closes (openSection opens closes xs) x :=
  outputs_concat _ _ _

/-- Where an element stands in a sequence with one more at the end. -/
lemma concat_eq_append_cons {s : α} {pre inner : List α} :
    xs ++ [x] = pre ++ s :: inner ↔
      (inner = [] ∧ pre = xs ∧ s = x) ∨ ∃ inner', inner = inner' ++ [x] ∧ xs = pre ++ s :: inner' := by
  refine ⟨fun h => ?_, ?_⟩
  · rcases List.eq_nil_or_concat inner with rfl | ⟨inner', y, rfl⟩
    · obtain ⟨rfl, hx⟩ := List.append_inj' h rfl
      exact Or.inl ⟨rfl, rfl, (List.singleton_inj.mp hx).symm⟩
    · rw [List.concat_eq_append, ← List.cons_append, ← List.append_assoc] at h
      obtain ⟨heq, hx⟩ := List.append_inj' h rfl
      obtain rfl := List.singleton_inj.mp hx
      exact Or.inr ⟨inner', List.concat_eq_append, heq⟩
  · rintro (⟨rfl, rfl, rfl⟩ | ⟨inner', rfl, rfl⟩)
    · rfl
    · simp

/-- The open section begins with the last element that opens, after the last
that closes. -/
theorem openSection_eq_some_iff {s : α} {inner : List α} :
    openSection opens closes xs = some (s, inner) ↔
      ∃ pre, xs = pre ++ s :: inner ∧ opens s = true ∧
        ∀ y ∈ inner, opens y = false ∧ closes y = false := by
  induction xs using List.reverseRecOn generalizing inner with
  | nil => simp
  | append_singleton xs x ih =>
      rw [openSection_concat, advance]
      simp only [concat_eq_append_cons]
      refine ⟨fun h => ?_, ?_⟩
      · split_ifs at h with ho hc
        · obtain ⟨rfl, rfl⟩ := Prod.mk.inj (Option.some.inj h)
          exact ⟨xs, Or.inl ⟨rfl, rfl, rfl⟩, ho, by simp⟩
        · obtain ⟨⟨s', inner'⟩, hopen, heq⟩ := Option.map_eq_some_iff.mp h
          obtain ⟨rfl, rfl⟩ := Prod.mk.inj heq
          obtain ⟨pre, hxs, hs, hinner⟩ := ih.mp hopen
          refine ⟨pre, Or.inr ⟨inner', rfl, hxs⟩, hs, fun y hy => ?_⟩
          rcases List.mem_append.mp hy with hy | hy
          · exact hinner y hy
          · rw [List.mem_singleton.mp hy]
            exact ⟨Bool.eq_false_iff.mpr ho, Bool.eq_false_iff.mpr hc⟩
      · rintro ⟨pre, ⟨rfl, rfl, rfl⟩ | ⟨inner', rfl, hxs⟩, hs, hinner⟩
        · rw [if_pos hs]
        · obtain ⟨ho, hc⟩ := hinner x (by simp)
          rw [if_neg (by simp [ho]), if_neg (by simp [hc]),
            ih.mpr ⟨pre, hxs, hs, fun y hy => hinner y (by simp [hy])⟩]
          rfl

/-- The section an element closes is the open one. -/
lemma mem_closedBy_iff {cur : Option (α × List α)} {c : Section α} :
    c ∈ closedBy opens closes cur x ↔
      cur = some (c.first, c.inner) ∧ c.last = x ∧ opens x = false ∧ closes x = true := by
  rw [closedBy]
  cases opens x with
  | true => simp
  | false =>
      cases closes x with
      | false => simp
      | true =>
          cases cur with
          | none => simp
          | some o =>
              obtain ⟨s, inner⟩ := o
              simp [Section.ext_iff, Prod.ext_iff, eq_comm]
              tauto

/-- The closed sections are the stretches of the sequence from an element that
opens to one that closes, with neither between. -/
theorem mem_sections_iff {c : Section α} :
    c ∈ sections opens closes xs ↔
      ∃ pre post, xs = pre ++ c.first :: (c.inner ++ c.last :: post) ∧ opens c.first = true ∧
        (∀ y ∈ c.inner, opens y = false ∧ closes y = false) ∧
        opens c.last = false ∧ closes c.last = true := by
  induction xs using List.reverseRecOn with
  | nil => simp
  | append_singleton xs x ih =>
      rw [sections_concat, List.mem_append, ih, mem_closedBy_iff, openSection_eq_some_iff]
      refine ⟨?_, ?_⟩
      · rintro (⟨pre, post, rfl, h⟩ | ⟨⟨pre, rfl, hs, hinner⟩, rfl, ho, hc⟩)
        · exact ⟨pre, post ++ [x], by simp, h⟩
        · exact ⟨pre, [], by simp, hs, hinner, ho, hc⟩
      · rintro ⟨pre, post, heq, hs, hinner, ho, hc⟩
        rcases List.eq_nil_or_concat post with rfl | ⟨post, y, rfl⟩
        · have hsplit : xs ++ [x] = (pre ++ c.first :: c.inner) ++ [c.last] := by simp [heq]
          obtain ⟨rfl, hx⟩ := List.append_inj' hsplit rfl
          obtain rfl := List.singleton_inj.mp hx
          exact Or.inr ⟨⟨pre, rfl, hs, hinner⟩, rfl, ho, hc⟩
        · have hsplit : xs ++ [x] = (pre ++ c.first :: (c.inner ++ c.last :: post)) ++ [y] := by
            simp [heq]
          exact Or.inl ⟨pre, post, (List.append_inj' hsplit rfl).1, hs, hinner, ho, hc⟩

end Sections
