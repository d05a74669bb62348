import SopepApp.Framing.Packets
import SopepApp.Transition.Run

/-!
Files that are written at the same time.

A write opens its file, which creates it or empties it, and then puts its
content there piece by piece, each piece where the last one of that write has
ended. Several writes may be under way at once, and each keeps its own place.

* `Op`: an operation on a file; `Write.IsOps`: those of a write;
* `Interleaved`: the operations of several writes, those of each in order;
* `Files`, `step`: the files by their paths, and one operation on them;
* `run_apply`: what a file holds depends on the operations on it alone;
* `writes_run`: pieces of one content leave it right wherever they go;
* `run_of_agree`: writes to one file that agree in content do not disturb each
  other, and `intact_iff_agree`: no others leave what each of them has written.
-/

namespace Disk

open Transition Packets

variable {P U : Type*}

/-- The files by their paths; a path without a file has no content. -/
abbrev Files (P U : Type*) := P → Option (List U)

/-- An operation on a file. -/
inductive Op (P U : Type*) where
  /-- it is opened for writing: created, or emptied -/
  | truncate (path : P)
  /-- a piece is put at a place -/
  | write (path : P) (offset : ℕ) (piece : List U)

def Op.path : Op P U → P
  | truncate path => path
  | write path _ _ => path

variable {ops : List (Op P U)} {path : P} {content : List U}

/-! ### Writes -/

/-- The operation puts a piece of the content at its place. -/
def Op.SliceOf (content : List U) : Op P U → Prop
  | truncate _ => False
  | write _ offset piece => piece <+: content.drop offset

/-- The operation puts something at the position. -/
def Op.Covers (j : ℕ) : Op P U → Prop
  | truncate _ => False
  | write _ offset piece => offset ≤ j ∧ j < offset + piece.length

/-- A content to be written to a path. -/
structure Write (P U : Type*) where
  path : P
  content : List U

/-- The pieces put one behind the other. -/
def slices (path : P) : ℕ → List (List U) → List (Op P U)
  | _, [] => []
  | offset, piece :: pieces => .write path offset piece :: slices path (offset + piece.length) pieces

/-- The operations of a write, its content in pieces of any size. -/
def Write.IsOps (w : Write P U) (ops : List (Op P U)) : Prop :=
  ∃ pieces : List (List U), ops = .truncate w.path :: slices w.path 0 pieces ∧
    pieces.flatten = w.content

lemma path_of_mem_slices {pieces : List (List U)} : ∀ {offset : ℕ},
    ∀ op ∈ slices path offset pieces, op.path = path ∧ op ≠ .truncate path := by
  induction pieces with
  | nil => simp [slices]
  | cons piece pieces ih =>
      intro offset op hop
      rcases List.mem_cons.mp hop with rfl | hop
      · exact ⟨rfl, by simp⟩
      · exact ih op hop

/-- They are pieces of the whole. -/
lemma sliceOf_of_mem_slices {pieces : List (List U)} : ∀ {before : List U},
    ∀ op ∈ slices path before.length pieces, op.SliceOf (before ++ pieces.flatten) := by
  induction pieces with
  | nil => simp [slices]
  | cons piece pieces ih =>
      intro before op hop
      rw [slices] at hop
      rcases List.mem_cons.mp hop with rfl | hop
      · exact ⟨pieces.flatten, by simp⟩
      · rw [← List.length_append] at hop
        have hlater := ih op hop
        rwa [List.append_assoc] at hlater

/-- They cover the whole. -/
lemma covers_of_mem_slices {pieces : List (List U)} : ∀ {offset j : ℕ}, offset ≤ j →
    j < offset + pieces.flatten.length → ∃ op ∈ slices path offset pieces, op.Covers j := by
  induction pieces with
  | nil =>
      intro offset j hle hlt
      rw [List.flatten_nil, List.length_nil] at hlt
      omega
  | cons piece pieces ih =>
      intro offset j hle hlt
      rw [List.flatten_cons, List.length_append] at hlt
      rcases lt_or_ge j (offset + piece.length) with hj | hj
      · exact ⟨_, List.mem_cons_self, hle, hj⟩
      · obtain ⟨op, hop, hcovers⟩ := ih hj (by omega)
        exact ⟨op, List.mem_cons_of_mem _ hop, hcovers⟩

lemma Write.IsOps.path_eq {w : Write P U} (h : w.IsOps ops) : ∀ op ∈ ops, op.path = w.path := by
  obtain ⟨pieces, rfl, -⟩ := h
  intro op hop
  rcases List.mem_cons.mp hop with rfl | hop
  · rfl
  · exact (path_of_mem_slices op hop).1

/-- An operation of a write that does not open its file puts a piece of its
content. -/
lemma Write.IsOps.sliceOf {w : Write P U} (h : w.IsOps ops) {op : Op P U} (hop : op ∈ ops)
    (hne : op ≠ .truncate w.path) : op.SliceOf w.content := by
  obtain ⟨pieces, rfl, hflatten⟩ := h
  have hmem := (List.mem_cons.mp hop).resolve_left hne
  have hslice : op.SliceOf ([] ++ pieces.flatten) := sliceOf_of_mem_slices op hmem
  rwa [List.nil_append, hflatten] at hslice

/-- The operations of writes that are under way at once. -/
def Interleaved (writes : List (Write P U)) (ops : List (Op P U)) : Prop :=
  ∃ calls w, List.Forall₂ Write.IsOps writes calls ∧ Interleaving calls w ∧ ops = w.map Prod.snd

variable {writes : List (Write P U)}

/-- An operation is one of its call. -/
lemma mem_call {calls : List (List (Op P U))} {w : List (ℕ × Op P U)}
    (hcalls : List.Forall₂ Write.IsOps writes calls) (hw : Interleaving calls w)
    {x : ℕ × Op P U} (hx : x ∈ w) :
    ∃ h : x.1 < writes.length, ∃ call, writes[x.1].IsOps call ∧ x.2 ∈ call := by
  have hlt := hw.index_lt x hx
  have hlt' : x.1 < writes.length := by rwa [hcalls.length_eq]
  refine ⟨hlt', calls[x.1], hcalls.get hlt' hlt, ?_⟩
  rw [← hw.items x.1 hlt]
  exact List.mem_map_of_mem (List.mem_filter.mpr ⟨hx, decide_eq_true rfl⟩)

/-- Every write opens its file. -/
lemma exists_opening {calls : List (List (Op P U))} {w : List (ℕ × Op P U)}
    (hcalls : List.Forall₂ Write.IsOps writes calls) (hw : Interleaving calls w)
    {write : Write P U} (hwrite : write ∈ writes) : ∃ x ∈ w, x.2 = .truncate write.path := by
  obtain ⟨i, hi, rfl⟩ := List.getElem_of_mem hwrite
  have hi' : i < calls.length := by rwa [← hcalls.length_eq]
  obtain ⟨pieces, hcall, -⟩ := hcalls.get hi hi'
  simp only [List.get_eq_getElem] at hcall
  have hmem : .truncate writes[i].path ∈ calls[i] := by
    rw [hcall]
    exact List.mem_cons_self
  rw [← hw.items i hi'] at hmem
  obtain ⟨x, hx, heq⟩ := List.mem_map.mp hmem
  exact ⟨x, (List.mem_filter.mp hx).1, heq⟩

/-- If the writes to a file agree, what they put there are pieces of one content. -/
lemma sliceOf_of_agree {calls : List (List (Op P U))} {w : List (ℕ × Op P U)}
    (hcalls : List.Forall₂ Write.IsOps writes calls) (hw : Interleaving calls w)
    {write : Write P U}
    (hagree : ∀ a ∈ writes, a.path = write.path → a.content = write.content)
    {x : ℕ × Op P U} (hx : x ∈ w) (hon : x.2.path = write.path)
    (hne : x.2 ≠ .truncate write.path) : x.2.SliceOf write.content := by
  obtain ⟨hk, call, hcall, hxcall⟩ := mem_call hcalls hw hx
  have hsame : writes[x.1].path = write.path := by rw [← hcall.path_eq _ hxcall, hon]
  rw [← hagree _ (List.getElem_mem hk) hsame]
  exact hcall.sliceOf hxcall (hsame ▸ hne)

/-- The last item with a property. -/
lemma exists_last {α : Type*} {l : List α} {Q : α → Prop} (h : ∃ x ∈ l, Q x) :
    ∃ pre x post, l = pre ++ x :: post ∧ Q x ∧ ∀ y ∈ post, ¬ Q y := by
  induction l using List.reverseRecOn with
  | nil => exact absurd h (by simp)
  | append_singleton l a ih =>
      by_cases ha : Q a
      · exact ⟨l, a, [], rfl, ha, by simp⟩
      · obtain ⟨x, hx, hQ⟩ := h
        have hxl : x ∈ l := by
          rcases List.mem_append.mp hx with hx | hx
          · exact hx
          · rw [List.mem_singleton.mp hx] at hQ
            exact absurd hQ ha
        obtain ⟨pre, x, post, rfl, hQ, hpost⟩ := ih ⟨x, hxl, hQ⟩
        refine ⟨pre, x, post ++ [a], by simp, hQ, fun y hy => ?_⟩
        rcases List.mem_append.mp hy with hy | hy
        · exact hpost y hy
        · rwa [List.mem_singleton.mp hy]

/-- After a write has opened its file all its pieces are put. -/
lemma slices_after {calls : List (List (Op P U))} {pre post : List (ℕ × Op P U)}
    {x : ℕ × Op P U} (hcalls : List.Forall₂ Write.IsOps writes calls)
    (hw : Interleaving calls (pre ++ x :: post)) (hx : x.2 = .truncate path) :
    ∃ h : x.1 < writes.length, writes[x.1].path = path ∧ ∃ pieces : List (List U),
      pieces.flatten = writes[x.1].content ∧ ∀ op ∈ slices path 0 pieces, op ∈ post.map Prod.snd := by
  have hlt := hw.index_lt x (by simp)
  have hlt' : x.1 < writes.length := by rwa [hcalls.length_eq]
  obtain ⟨pieces, hcall, hflatten⟩ := hcalls.get hlt' hlt
  simp only [List.get_eq_getElem] at hcall hflatten
  have hitems := hw.items x.1 hlt
  rw [hcall, List.filter_append, List.map_append, List.filter_cons_of_pos (by simp),
    List.map_cons] at hitems
  refine ⟨hlt', ?_⟩
  cases hbefore : (pre.filter fun y => decide (y.1 = x.1)).map Prod.snd with
  | nil =>
      rw [hbefore, List.nil_append] at hitems
      obtain ⟨hopen, hafter⟩ := List.cons.inj hitems
      rw [hx] at hopen
      have hpath : path = writes[x.1].path := Op.truncate.inj hopen
      refine ⟨hpath.symm, pieces, hflatten, fun op hop => ?_⟩
      rw [hpath, ← hafter] at hop
      obtain ⟨y, hy, rfl⟩ := List.mem_map.mp hop
      exact List.mem_map_of_mem (List.mem_filter.mp hy).1
  | cons op before =>
      rw [hbefore, List.cons_append] at hitems
      have hmem : x.2 ∈ slices writes[x.1].path 0 pieces := by
        rw [← (List.cons.inj hitems).2]
        simp
      -- a write opens its file once
      obtain ⟨hpath, hne⟩ := path_of_mem_slices x.2 hmem
      rw [hx] at hpath hne
      exact absurd (congrArg Op.truncate hpath) hne

/-- All files opened first, and then each content put at once, is an order of the
operations. -/
lemma interleaved_truncates_writes (writes : List (Write P U)) :
    Interleaved writes ((writes.map fun w => Op.truncate w.path) ++
      writes.map fun w => Op.write w.path 0 w.content) := by
  obtain ⟨w, hw, hopens⟩ :=
    exists_interleaving_singletons (writes.map fun w => (Op.truncate w.path : Op P U))
  obtain ⟨w', hw', hputs⟩ :=
    exists_interleaving_singletons (writes.map fun w => Op.write w.path 0 w.content)
  refine ⟨_, w ++ w', ?_, hw.append hw' (by simp), by rw [List.map_append, hopens, hputs]⟩
  rw [List.map_map, List.map_map, List.zipWith_map, List.zipWith_self,
    List.forall₂_map_right_iff, List.forall₂_same]
  exact fun w _ => ⟨[w.content], rfl, by simp⟩

/-! ### The contents of files -/

variable [Inhabited U]

/-- A content with a piece put at a place, perhaps behind its end. -/
def put (content : List U) (offset : ℕ) (piece : List U) : List U :=
  if piece.isEmpty then content
  else (content.take offset ++ List.replicate (offset - content.length) default) ++
    (piece ++ content.drop (offset + piece.length))

/-- The content after an operation. -/
def Op.apply : Op P U → Option (List U) → Option (List U)
  | truncate _, _ => some []
  | write _ offset piece, content => some (put (content.getD []) offset piece)

def step [DecidableEq P] (d : Files P U) (op : Op P U) : Files P U :=
  Function.update d op.path (op.apply (d op.path))

/-- Operations on one file after each other. -/
def applyAll (content : Option (List U)) (ops : List (Op P U)) : Option (List U) :=
  ops.foldl (fun content op => op.apply content) content

variable {L : List U}

/-- **A file depends on the operations on it.** -/
lemma run_apply [DecidableEq P] (d : Files P U) (ops : List (Op P U)) (path : P) :
    run step d ops path = applyAll (d path) (ops.filter fun op => op.path = path) := by
  induction ops generalizing d with
  | nil => rfl
  | cons op ops ih =>
      rw [run_cons, ih]
      by_cases h : op.path = path
      · subst h
        rw [List.filter_cons_of_pos (by simp), step, Function.update_self]
        rfl
      · rw [List.filter_cons_of_neg (by simpa using h), step, Function.update_of_ne (Ne.symm h)]

lemma length_before (L : List U) (offset : ℕ) :
    (L.take offset ++ List.replicate (offset - L.length) default).length = offset := by
  rw [List.length_append, List.length_take, List.length_replicate]
  omega

/-- A piece stands where it was put. -/
lemma getElem?_put_of_covers {offset : ℕ} {piece : List U} {j : ℕ} (h : offset ≤ j)
    (h' : j < offset + piece.length) : (put L offset piece)[j]? = piece[j - offset]? := by
  have hne : piece.isEmpty = false := by
    rw [List.isEmpty_eq_false_iff]
    rintro rfl
    exact absurd h' (by simpa using h)
  rw [put, hne, if_neg Bool.false_ne_true, List.getElem?_append_right (by rwa [length_before]),
    length_before, List.getElem?_append_left (by omega)]

/-- Beside it a content is as before. -/
lemma getElem?_put_of_not_covers {offset : ℕ} {piece : List U} {j : ℕ} (hj : j < L.length)
    (h : ¬ (offset ≤ j ∧ j < offset + piece.length)) : (put L offset piece)[j]? = L[j]? := by
  rw [put]
  split_ifs
  · rfl
  · rcases lt_or_ge j offset with hlt | hge
    · rw [List.getElem?_append_left (by rwa [length_before]),
        List.getElem?_append_left (by rw [List.length_take]; omega),
        List.getElem?_take_of_lt hlt]
    · have hafter : j - offset - piece.length + (offset + piece.length) = j := by omega
      rw [List.getElem?_append_right (by rwa [length_before]), length_before,
        List.getElem?_append_right (by omega), List.getElem?_drop, add_comm, hafter]

lemma length_put_le {offset : ℕ} {piece : List U} (hL : L.length ≤ content.length)
    (h : piece <+: content.drop offset) : (put L offset piece).length ≤ content.length := by
  rw [put]
  split_ifs with hne
  · exact hL
  · have hle := h.length_le
    rw [List.length_drop] at hle
    have hpos : 0 < piece.length := by
      rw [List.length_pos_iff, ne_eq, ← List.isEmpty_iff]
      exact hne
    rw [List.length_append, length_before, List.length_append, List.length_drop]
    omega

/-- **A piece of a content** makes its positions right, and leaves those right that
are. -/
lemma put_right {offset : ℕ} {piece : List U} {j : ℕ} (hj : j < content.length)
    (h : piece <+: content.drop offset)
    (hright : L[j]? = content[j]? ∨ offset ≤ j ∧ j < offset + piece.length) :
    (put L offset piece)[j]? = content[j]? := by
  by_cases hcovers : offset ≤ j ∧ j < offset + piece.length
  · obtain ⟨hle, hlt⟩ := hcovers
    obtain ⟨rest, hrest⟩ := h
    have hpiece : content[j]? = (content.drop offset)[j - offset]? := by
      rw [List.getElem?_drop, Nat.add_sub_cancel' hle]
    rw [getElem?_put_of_covers hle hlt, hpiece, ← hrest, List.getElem?_append_left (by omega)]
  · have hold := hright.resolve_right hcovers
    have hlt : j < L.length := by
      rw [List.getElem?_eq_getElem hj] at hold
      exact (List.getElem?_eq_some_iff.mp hold).1
    rw [getElem?_put_of_not_covers hlt hcovers, hold]

/-- **Pieces of one content**, in any order and however often, never go beyond it, and
make right whatever they cover. -/
lemma writes_run {ops : List (Op P U)} (hops : ∀ op ∈ ops, op.SliceOf content) :
    ∀ {L : List U}, L.length ≤ content.length →
      ∃ L', applyAll (some L) ops = some L' ∧ L'.length ≤ content.length ∧
        ∀ j < content.length, (L[j]? = content[j]? ∨ ∃ op ∈ ops, op.Covers j) →
          L'[j]? = content[j]? := by
  induction ops with
  | nil => exact fun {L} hL => ⟨L, rfl, hL, fun j _ h => h.resolve_right (by simp)⟩
  | cons op ops ih =>
      intro L hL
      obtain ⟨hop, hrest⟩ := List.forall_mem_cons.mp hops
      cases op with
      | truncate path => exact absurd hop id
      | write path offset piece =>
          obtain ⟨L', hrun, hL', hright⟩ := ih hrest (length_put_le hL hop)
          refine ⟨L', hrun, hL', fun j hj h => hright j hj ?_⟩
          rcases h with hold | ⟨op, hmem, hcovers⟩
          · exact Or.inl (put_right hj hop (Or.inl hold))
          · rcases List.mem_cons.mp hmem with rfl | hmem
            · exact Or.inl (put_right hj hop (Or.inr hcovers))
            · exact Or.inr ⟨op, hmem, hcovers⟩

/-- Pieces that cover a content leave it in an empty file. -/
lemma writes_run_of_covered {ops : List (Op P U)} (hops : ∀ op ∈ ops, op.SliceOf content)
    (hcovered : ∀ j < content.length, ∃ op ∈ ops, op.Covers j) :
    applyAll (some []) ops = some content := by
  have hempty : ([] : List U).length ≤ content.length := Nat.zero_le _
  obtain ⟨L, hrun, hlength, hright⟩ := writes_run hops hempty
  rw [hrun]
  refine congrArg some (List.ext_getElem? fun j => ?_)
  rcases lt_or_ge j content.length with hj | hj
  · exact hright j hj (Or.inr (hcovered j hj))
  · rw [List.getElem?_eq_none hj, List.getElem?_eq_none (hlength.trans hj)]

/-- Files that no write is for stay as they are. -/
lemma run_of_notMem [DecidableEq P] (h : Interleaved writes ops) (d : Files P U)
    (hpath : path ∉ writes.map Write.path) : run step d ops path = d path := by
  obtain ⟨calls, w, hcalls, hw, rfl⟩ := h
  have hnone : ∀ op ∈ w.map Prod.snd, ¬ decide (op.path = path) = true := by
    intro op hop hon
    obtain ⟨x, hx, rfl⟩ := List.mem_map.mp hop
    obtain ⟨hlt, call, hcall, hxcall⟩ := mem_call hcalls hw hx
    refine hpath ?_
    rw [← of_decide_eq_true hon, hcall.path_eq _ hxcall]
    exact List.mem_map_of_mem (List.getElem_mem hlt)
  rw [run_apply, List.filter_eq_nil_iff.mpr hnone]
  rfl

/-- **Writes that agree**: if the writes to one file have one content, then whatever the
order of the operations each file ends with its content, and the other files are as
before. -/
theorem run_of_agree [DecidableEq P] (h : Interleaved writes ops)
    (hagree : ∀ a ∈ writes, ∀ b ∈ writes, a.path = b.path → a.content = b.content)
    (d : Files P U) :
    (∀ w ∈ writes, run step d ops w.path = some w.content) ∧
      ∀ path ∉ writes.map Write.path, run step d ops path = d path := by
  refine ⟨fun write hwrite => ?_, fun path hpath => run_of_notMem h d hpath⟩
  obtain ⟨calls, w, hcalls, hw, rfl⟩ := h
  have hsame : ∀ a ∈ writes, a.path = write.path → a.content = write.content :=
    fun a ha => hagree a ha write hwrite
  -- the last time that the file is opened counts
  obtain ⟨pre, x, post, rfl, hx, hlast⟩ := exists_last (exists_opening hcalls hw hwrite)
  obtain ⟨hj, hpath, pieces, hflatten, hslices⟩ := slices_after hcalls hw hx
  rw [hsame _ (List.getElem_mem hj) hpath] at hflatten
  rw [run_apply, List.map_append, List.map_cons, hx, List.filter_append,
    List.filter_cons_of_pos (by simp [Op.path]), applyAll, List.foldl_append, List.foldl_cons]
  refine writes_run_of_covered (fun op hop => ?_) fun j hlt => ?_
  · obtain ⟨hmem, hon⟩ := List.mem_filter.mp hop
    obtain ⟨y, hy, rfl⟩ := List.mem_map.mp hmem
    exact sliceOf_of_agree hcalls hw hsame
      (List.mem_append_right pre (List.mem_cons_of_mem x hy)) (of_decide_eq_true hon) (hlast y hy)
  · have hcovered : ∃ op ∈ slices write.path 0 pieces, op.Covers j :=
      covers_of_mem_slices (Nat.zero_le j) (by rwa [zero_add, hflatten])
    obtain ⟨op, hop, hcovers⟩ := hcovered
    refine ⟨op, List.mem_filter.mpr ⟨hslices op hop, ?_⟩, hcovers⟩
    exact decide_eq_true (path_of_mem_slices op hop).1

/-- **Writes are intact in every order** exactly if those to one file agree. -/
theorem intact_iff_agree [DecidableEq P] (writes : List (Write P U)) :
    (∀ ops, Interleaved writes ops → ∀ d : Files P U, ∀ w ∈ writes,
      run step d ops w.path = some w.content) ↔
    ∀ a ∈ writes, ∀ b ∈ writes, a.path = b.path → a.content = b.content := by
  constructor
  · intro h a ha b hb hpath
    have hintact := h _ (interleaved_truncates_writes writes) fun _ => none
    have hfirst := hintact a ha
    rw [hpath, hintact b hb] at hfirst
    exact (Option.some.inj hfirst).symm
  · exact fun hagree ops hops d => (run_of_agree hops hagree d).1

end Disk
