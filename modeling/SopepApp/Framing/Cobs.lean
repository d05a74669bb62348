import Mathlib.Tactic

/-!
Consistent overhead byte stuffing (COBS).

A block is a code byte `n + 1` followed by `n ≤ 254` non-zero data bytes; a
block of fewer than 254 data bytes stands for its data and a zero, which the
last block leaves out.

* `Cobs.encode`: the encoder that opens no empty block after a full one at the
  end of the data;
* `Cobs.decode`: the decoder, `none` on a zero byte and on a block longer than
  the rest of the input;
* `Cobs.decode_encode`: decoding inverts encoding;
* `Cobs.zero_notMem_encode`, `Cobs.encode_ne_nil`: encoded data is non-empty
  and free of zeros;
* `Cobs.length_encode_le`, `Cobs.le_length_encode`: the overhead is at most one
  byte for each 254;
* `Cobs.decode_append_cases`: bytes that decode still do with the block
  `[2, x]` after them, and bytes that do not are kept from decoding by `[2, 2]`
  or by `[1]`.
-/

namespace Cobs

/-- The code byte of a block of `n` data bytes. -/
def code (n : ℕ) : UInt8 := UInt8.ofNat (n + 1)

/-- The encoder with the data bytes `blk` of the open block. -/
def encodeBlock : List UInt8 → List UInt8 → List UInt8
  | blk, [] => code blk.length :: blk
  | blk, b :: bs =>
    if b = 0 then code blk.length :: (blk ++ encodeBlock [] bs)
    else if blk.length = 253 ∧ bs ≠ [] then
      code 254 :: (blk ++ b :: encodeBlock [] bs)
    else encodeBlock (blk ++ [b]) bs

/-- COBS encoding, without the delimiters around it. -/
def encode (src : List UInt8) : List UInt8 := encodeBlock [] src

/-- The zero that stands between two blocks, if the first one is not full. -/
def pendingZero (sep : Bool) : List UInt8 := if sep then [0] else []

@[simp] lemma pendingZero_true : pendingZero true = [0] := rfl

@[simp] lemma pendingZero_false : pendingZero false = [] := rfl

lemma length_pendingZero_le (sep : Bool) : (pendingZero sep).length ≤ 1 := by
  cases sep <;> simp

/-- The decoder inside a block with `k` data bytes to come; `sep` says that
the blocks so far stand for data that ends in a zero if another block
follows. -/
def decodeBlock : Bool → ℕ → List UInt8 → Option (List UInt8)
  | _, 0, [] => some []
  | _, _ + 1, [] => none
  | sep, 0, c :: bs =>
    if c = 0 then none
    else (decodeBlock (c != 255) (c.toNat - 1) bs).map (pendingZero sep ++ ·)
  | sep, k + 1, b :: bs =>
    if b = 0 then none else (decodeBlock sep k bs).map (b :: ·)

/-- COBS decoding of bytes whose delimiters have been removed. -/
def decode (src : List UInt8) : Option (List UInt8) := decodeBlock false 0 src

/-! ### Code bytes -/

lemma code_toNat {n : ℕ} (hn : n ≤ 254) : (code n).toNat = n + 1 := by
  rw [code, UInt8.toNat_ofNat', Nat.mod_eq_of_lt (by omega)]

lemma code_ne_zero {n : ℕ} (hn : n ≤ 254) : code n ≠ 0 := by
  intro h
  have h1 := code_toNat hn
  rw [h] at h1
  simp at h1

/-- Only a full block has the code byte 255. -/
lemma code_bne_full {n : ℕ} (hn : n ≤ 254) : (code n != 255) = decide (n ≠ 254) := by
  have h1 := code_toNat hn
  by_cases h : n = 254
  · subst h
    decide
  · have hne : code n ≠ 255 := by
      intro hc
      rw [hc] at h1
      have h255 : (255 : UInt8).toNat = 255 := rfl
      omega
    simp [hne, h]

/-! ### The round trip -/

/-- Inside a block the data bytes are copied. -/
lemma decodeBlock_data (sep : Bool) (blk rest : List UInt8) (hz : (0 : UInt8) ∉ blk) :
    decodeBlock sep blk.length (blk ++ rest) = (decodeBlock sep 0 rest).map (blk ++ ·) := by
  induction blk with
  | nil => simp
  | cons b blk ih =>
      have hb : b ≠ 0 := fun h => hz (by simp [h])
      have hblk : (0 : UInt8) ∉ blk := fun h => hz (List.mem_cons_of_mem b h)
      rw [List.length_cons, List.cons_append, decodeBlock, if_neg hb, ih hblk, Option.map_map]
      rfl

/-- A whole block is decoded to its data, after the zero the blocks before it
leave pending. -/
lemma decodeBlock_code (sep : Bool) (blk rest : List UInt8)
    (hlen : blk.length ≤ 254) (hz : (0 : UInt8) ∉ blk) :
    decodeBlock sep 0 (code blk.length :: (blk ++ rest)) =
      (decodeBlock (decide (blk.length ≠ 254)) 0 rest).map
        fun d => pendingZero sep ++ (blk ++ d) := by
  rw [decodeBlock, if_neg (code_ne_zero hlen), code_bne_full hlen, code_toNat hlen,
    Nat.add_sub_cancel, decodeBlock_data _ _ _ hz, Option.map_map]
  rfl

/-- An open block can take the next byte: it is not full, or the data has
ended. -/
def HasRoom (blk src : List UInt8) : Prop :=
  blk.length ≤ 253 ∨ blk.length = 254 ∧ src = []

lemma hasRoom_nil (src : List UInt8) : HasRoom [] src := Or.inl (by simp)

lemma HasRoom.length_le {blk src : List UInt8} (h : HasRoom blk src) : blk.length ≤ 254 := by
  rcases h with h | ⟨h, -⟩ <;> omega

lemma HasRoom.length_le_of_cons {blk bs : List UInt8} {b : UInt8} (h : HasRoom blk (b :: bs)) :
    blk.length ≤ 253 := by
  rcases h with h | ⟨-, h⟩
  · exact h
  · exact absurd h (by simp)

/-- A byte that does not close the block leaves room for the next one. -/
lemma HasRoom.append {blk bs : List UInt8} {b : UInt8} (h : HasRoom blk (b :: bs))
    (hfull : ¬ (blk.length = 253 ∧ bs ≠ [])) : HasRoom (blk ++ [b]) bs := by
  have hlen := h.length_le_of_cons
  rw [HasRoom, List.length_append, List.length_singleton]
  by_cases hbs : bs = []
  · rcases Nat.lt_or_ge blk.length 253 with h' | h'
    · exact Or.inl (by omega)
    · exact Or.inr ⟨by omega, hbs⟩
  · have hne : blk.length ≠ 253 := fun h' => hfull ⟨h', hbs⟩
    exact Or.inl (by omega)

lemma zero_notMem_append {blk : List UInt8} {b : UInt8} (hz : (0 : UInt8) ∉ blk) (hb : b ≠ 0) :
    (0 : UInt8) ∉ blk ++ [b] := by
  simp [hz, hb.symm]

/-- The decoder reads the blocks of an encoder with an open block `blk`. -/
lemma decodeBlock_encodeBlock (src : List UInt8) : ∀ (blk : List UInt8) (sep : Bool),
    (0 : UInt8) ∉ blk → HasRoom blk src →
    decodeBlock sep 0 (encodeBlock blk src) =
      some (pendingZero sep ++ (blk ++ src)) := by
  induction src with
  | nil =>
      intro blk sep hz hroom
      have h := decodeBlock_code sep blk [] hroom.length_le hz
      rw [List.append_nil] at h
      rw [encodeBlock, h, decodeBlock]
      simp
  | cons b bs ih =>
      intro blk sep hz hroom
      have hlen := hroom.length_le_of_cons
      rw [encodeBlock]
      by_cases hb : b = 0
      · -- the block ends at a zero of the data
        subst hb
        rw [if_pos rfl, decodeBlock_code sep blk _ (by omega) hz, ih [] _ (by simp) (hasRoom_nil _),
          decide_eq_true (by omega)]
        simp
      · rw [if_neg hb]
        have hz' := zero_notMem_append hz hb
        by_cases hfull : blk.length = 253 ∧ bs ≠ []
        · -- the block is full, and no zero follows it
          have hlast : (blk ++ [b]).length = 254 := by simp [hfull.1]
          have h := decodeBlock_code sep (blk ++ [b]) (encodeBlock [] bs) hlast.le hz'
          rw [hlast, List.append_assoc, List.singleton_append] at h
          rw [if_pos hfull, h, ih [] _ (by simp) (hasRoom_nil _)]
          simp
        · rw [if_neg hfull, ih _ sep hz' (hroom.append hfull)]
          simp

/-- **Decoding inverts encoding.** -/
theorem decode_encode (src : List UInt8) : decode (encode src) = some src := by
  rw [decode, encode, decodeBlock_encodeBlock src [] false (by simp) (hasRoom_nil _)]
  simp

example : encode [0x11, 0x22, 0, 0x33] = [3, 0x11, 0x22, 2, 0x33] := by decide

/-! ### Shape and length of encoded data -/

lemma encodeBlock_ne_nil (blk src : List UInt8) : encodeBlock blk src ≠ [] := by
  induction src generalizing blk with
  | nil => simp [encodeBlock]
  | cons b bs ih =>
      rw [encodeBlock]
      split_ifs
      · simp
      · simp
      · exact ih _

/-- Encoded data is never empty. -/
lemma encode_ne_nil (src : List UInt8) : encode src ≠ [] := encodeBlock_ne_nil [] src

lemma zero_notMem_encodeBlock (src : List UInt8) : ∀ blk : List UInt8,
    (0 : UInt8) ∉ blk → HasRoom blk src → (0 : UInt8) ∉ encodeBlock blk src := by
  induction src with
  | nil =>
      intro blk hz hroom
      have hc := code_ne_zero hroom.length_le
      simp [encodeBlock, hz, Ne.symm hc]
  | cons b bs ih =>
      intro blk hz hroom
      have hc := code_ne_zero hroom.length_le
      have hnil := ih [] (by simp) (hasRoom_nil _)
      rw [encodeBlock]
      split_ifs with hb hfull
      · simp [hz, hnil, Ne.symm hc]
      · have hc' := code_ne_zero (n := 254) le_rfl
        simp [hz, hnil, Ne.symm hc', Ne.symm hb]
      · exact ih _ (zero_notMem_append hz hb) (hroom.append hfull)

/-- **Encoded data is free of zeros.** -/
theorem zero_notMem_encode (src : List UInt8) : (0 : UInt8) ∉ encode src :=
  zero_notMem_encodeBlock src [] (by simp) (hasRoom_nil _)

lemma length_encodeBlock_le (src : List UInt8) : ∀ blk : List UInt8,
    (encodeBlock blk src).length ≤
      blk.length + src.length + max 1 ((blk.length + src.length + 253) / 254) := by
  induction src with
  | nil =>
      intro blk
      simp only [encodeBlock, List.length_cons, List.length_nil]
      omega
  | cons b bs ih =>
      intro blk
      rw [encodeBlock]
      split_ifs with hb hfull
      · have h := ih []
        simp only [List.length_cons, List.length_append, List.length_nil] at h ⊢
        by_cases hbs : bs = []
        · subst hbs
          simp only [encodeBlock, List.length_cons, List.length_nil] at h ⊢
          omega
        · have hpos := List.length_pos_of_ne_nil hbs
          omega
      · have h := ih []
        have hpos := List.length_pos_of_ne_nil hfull.2
        simp only [List.length_cons, List.length_append, List.length_nil] at h ⊢
        omega
      · have h := ih (blk ++ [b])
        simp only [List.length_cons, List.length_append, List.length_nil] at h ⊢
        rw [show blk.length + (bs.length + 1) = blk.length + (0 + 1) + bs.length by omega]
        exact h

/-- **The overhead of COBS**: `n ≥ 1` bytes grow by at most `⌈n / 254⌉`. -/
theorem length_encode_le {src : List UInt8} (hsrc : src ≠ []) :
    (encode src).length ≤ src.length + (src.length + 253) / 254 := by
  have h := length_encodeBlock_le src []
  have hpos := List.length_pos_of_ne_nil hsrc
  rw [List.length_nil, Nat.zero_add] at h
  rw [encode]
  omega

lemma le_length_encodeBlock (src : List UInt8) : ∀ blk : List UInt8,
    blk.length + src.length ≤ (encodeBlock blk src).length := by
  induction src with
  | nil =>
      intro blk
      simp [encodeBlock]
  | cons b bs ih =>
      intro blk
      have hnil := ih []
      have hblk := ih (blk ++ [b])
      simp only [List.length_append, List.length_cons, List.length_nil] at hnil hblk
      rw [encodeBlock]
      split_ifs <;> simp only [List.length_append, List.length_cons] <;> omega

/-- Encoded data is at least as long as the data. -/
lemma le_length_encode (src : List UInt8) : src.length ≤ (encode src).length := by
  have h := le_length_encodeBlock src []
  rw [List.length_nil, Nat.zero_add] at h
  exact h

lemma lt_length_encodeBlock (src : List UInt8) : ∀ blk : List UInt8,
    blk.length + src.length < (encodeBlock blk src).length := by
  induction src with
  | nil =>
      intro blk
      simp [encodeBlock]
  | cons b bs ih =>
      intro blk
      have hnil := ih []
      have hblk := ih (blk ++ [b])
      simp only [List.length_append, List.length_cons, List.length_nil] at hnil hblk
      rw [encodeBlock]
      split_ifs <;> simp only [List.length_append, List.length_cons] <;> omega

/-- **Up to 254 bytes grow by one.** -/
lemma length_encode_of_le {src : List UInt8} (hsrc : src ≠ []) (h : src.length ≤ 254) :
    (encode src).length = src.length + 1 := by
  have hle := length_encode_le hsrc
  have hlt := lt_length_encodeBlock src []
  have hpos := List.length_pos_of_ne_nil hsrc
  rw [List.length_nil, Nat.zero_add] at hlt
  rw [encode] at hle ⊢
  omega

lemma length_decodeBlock_le (src : List UInt8) : ∀ {sep : Bool} {k : ℕ} {out : List UInt8},
    decodeBlock sep k src = some out → out.length ≤ src.length := by
  induction src with
  | nil =>
      intro sep k out h
      cases k with
      | zero =>
          rw [decodeBlock, Option.some.injEq] at h
          rw [← h]
      | succ k => simp [decodeBlock] at h
  | cons b bs ih =>
      intro sep k out h
      cases k with
      | zero =>
          rw [decodeBlock] at h
          split_ifs at h with hb
          · obtain ⟨out', hout', rfl⟩ := Option.map_eq_some_iff.mp h
            have hle := ih hout'
            have hzero := length_pendingZero_le sep
            rw [List.length_append, List.length_cons]
            omega
      | succ k =>
          rw [decodeBlock] at h
          split_ifs at h with hb
          · obtain ⟨out', hout', rfl⟩ := Option.map_eq_some_iff.mp h
            exact Nat.succ_le_succ (ih hout')

/-- Decoded data is no longer than the bytes it is decoded from. -/
lemma length_decode_le {src out : List UInt8} (h : decode src = some out) :
    out.length ≤ src.length :=
  length_decodeBlock_le src h

lemma decodeBlock_eq_none_of_mem (src : List UInt8) : ∀ (sep : Bool) (k : ℕ), (0 : UInt8) ∈ src →
    decodeBlock sep k src = none := by
  induction src with
  | nil => simp
  | cons b bs ih =>
      intro sep k hmem
      by_cases hb : b = 0
      · cases k <;> rw [decodeBlock, if_pos hb]
      · have hrest : (0 : UInt8) ∈ bs := (List.mem_cons.mp hmem).resolve_left (Ne.symm hb)
        cases k <;> rw [decodeBlock, if_neg hb, ih _ _ hrest, Option.map_none]

/-- Bytes with a zero among them do not decode. -/
lemma decode_eq_none_of_mem {src : List UInt8} (h : (0 : UInt8) ∈ src) : decode src = none :=
  decodeBlock_eq_none_of_mem src false 0 h

/-! ### Bytes after bytes -/

/-- The decoder after some bytes: failed, or with some output in a state of
its own. -/
lemma decodeBlock_append (src : List UInt8) : ∀ (sep : Bool) (k : ℕ),
    (∀ s, decodeBlock sep k (src ++ s) = none) ∨
      ∃ out sep' k', ∀ s,
        decodeBlock sep k (src ++ s) = (decodeBlock sep' k' s).map (out ++ ·) := by
  induction src with
  | nil =>
      intro sep k
      exact Or.inr ⟨[], sep, k, by simp⟩
  | cons b bs ih =>
      intro sep k
      by_cases hb : b = 0
      · refine Or.inl fun s => ?_
        cases k <;> rw [List.cons_append, decodeBlock, if_pos hb]
      · cases k with
        | zero =>
            rcases ih (b != 255) (b.toNat - 1) with hnone | ⟨out, sep', k', hout⟩
            · refine Or.inl fun s => ?_
              rw [List.cons_append, decodeBlock, if_neg hb, hnone, Option.map_none]
            · refine Or.inr ⟨pendingZero sep ++ out, sep', k', fun s => ?_⟩
              rw [List.cons_append, decodeBlock, if_neg hb, hout, Option.map_map]
              simp [Function.comp_def]
        | succ k =>
            rcases ih sep k with hnone | ⟨out, sep', k', hout⟩
            · refine Or.inl fun s => ?_
              rw [List.cons_append, decodeBlock, if_neg hb, hnone, Option.map_none]
            · refine Or.inr ⟨b :: out, sep', k', fun s => ?_⟩
              rw [List.cons_append, decodeBlock, if_neg hb, hout, Option.map_map]
              simp [Function.comp_def]

/-- A block of one data byte. -/
lemma decodeBlock_two (sep : Bool) {x : UInt8} (hx : x ≠ 0) :
    decodeBlock sep 0 [2, x] = some (pendingZero sep ++ [x]) := by
  simp [decodeBlock, hx]

/-- **Bytes and what may follow them**: where the bytes decode, so they do with
a block of one data byte after them; where they do not, the block `[2, 2]` or
the empty block keeps them from decoding. -/
theorem decode_append_cases (src : List UInt8) :
    (∃ out, decode src = some out ∧
      ∃ z, ∀ x, x ≠ 0 → decode (src ++ [2, x]) = some (out ++ (z ++ [x]))) ∨
    decode (src ++ [2, 2]) = none ∨ decode (src ++ [1]) = none := by
  rcases decodeBlock_append src false 0 with hnone | ⟨out, sep, k, hout⟩
  · exact Or.inr (Or.inl (hnone _))
  rcases k with _ | _ | k
  · refine Or.inl ⟨out, ?_, pendingZero sep, fun x hx => ?_⟩
    · have hnil := hout []
      rw [List.append_nil] at hnil
      rw [decode, hnil, decodeBlock, Option.map_some, List.append_nil]
    · rw [decode, hout, decodeBlock_two sep hx, Option.map_some]
  · -- the first byte ends the block, and the second opens one that is not filled
    refine Or.inr (Or.inl ?_)
    rw [decode, hout]
    simp [decodeBlock]
  · refine Or.inr (Or.inr ?_)
    rw [decode, hout]
    simp [decodeBlock]

end Cobs
