import SopepApp.Firmware.Upload
import Mathlib.Algebra.Order.Floor.Div

/-!
One firmware transfer: an `fw-start` response to a dialog with a loaded image,
and one acknowledgement for each block.

* `transfer`: the dialog after the response and some acknowledgements;
* `Layout.run_acks`: what the dialog has sent after `k` acknowledgements;
* `ExactTransfer`: no response throws, the blocks are the image, and the upload
  is complete at the last acknowledgement;
* `exact_transfer_iff`: this holds exactly when the announced block is no larger
  than the image; `small_image_throws` is an image shorter than the block.
-/

namespace SopepApp.Firmware

open Dart Transition Packets

variable {p : Platform} {d : Dialog} {bytes : List UInt8} {size last : ℕ}

/-- A dialog with a loaded image, of which nothing has been sent. -/
structure Loaded (d : Dialog) (bytes : List UInt8) : Prop where
  fwBytes : d.fwBytes = some bytes
  fwBlocksWritten : d.fwBlocksWritten = 0
  uploadComplete : d.uploadComplete = false
  payloads : payloads d.commands = []

/-- An `fw-start` response that announces a block size. -/
structure Announces (m : DataMap) (size : ℕ) : Prop where
  rsp : m.get "rsp" = .string "fw-start"
  blockSize : m.get "block-size" = .int size

/-- The acknowledgement of a block. -/
def IsAck (m : DataMap) : Prop := m.get "rsp" = .string "fw-block"

/-- The dialog after an `fw-start` response and some acknowledgements. -/
def transfer (p : Platform) (d : Dialog) (m : DataMap) (acks : List DataMap) : Dialog :=
  run (step p) d (.response m :: acks.map .response)

/-- The blocks sent so far. -/
def blocks (p : Platform) (d : Dialog) (m : DataMap) (acks : List DataMap) : List (List UInt8) :=
  payloads (transfer p d m acks).commands

/-- Each acknowledgement is for a block that has been sent, in order. -/
def Acknowledges (p : Platform) (d : Dialog) (m : DataMap) (acks : List DataMap) : Prop :=
  (∀ a ∈ acks, IsAck a) ∧ ∀ j < acks.length, j < (blocks p d m (acks.take j)).length

/-- **An exact transfer**: while each block is acknowledged once and in order no
response throws and the upload is complete at acknowledgement `⌈length / size⌉`
and not before; once all blocks are acknowledged they make up the image, all but
the last of the announced size and the last not empty. -/
structure ExactTransfer (p : Platform) (d : Dialog) (m : DataMap) (bytes : List UInt8)
    (size : ℕ) : Prop where
  no_throw : ∀ acks, Acknowledges p d m acks →
    Always (step p) (fun t e => ∀ r, e = .response r → (responseListener p r).outcome t = .ok ())
      d (.response m :: acks.map .response)
  complete_iff : ∀ acks, Acknowledges p d m acks →
    ((transfer p d m acks).uploadComplete = true ↔ acks.length = bytes.length ⌈/⌉ size)
  image : ∀ acks, Acknowledges p d m acks → acks.length = (blocks p d m acks).length →
    (blocks p d m acks).flatten = bytes ∧
      (∀ b ∈ (blocks p d m acks).dropLast, b.length = size) ∧
      ∃ b, (blocks p d m acks).getLast? = some b ∧ b ≠ []

lemma transfer_concat (m : DataMap) (acks : List DataMap) (a : DataMap) :
    transfer p d m (acks ++ [a]) = step p (transfer p d m acks) (.response a) := by
  rw [transfer, transfer, List.map_append, List.map_singleton, ← List.cons_append, run_concat]

/-- Acknowledgements of the blocks, one less. -/
lemma Acknowledges.of_concat {m a : DataMap} {acks : List DataMap}
    (h : Acknowledges p d m (acks ++ [a])) :
    Acknowledges p d m acks ∧ IsAck a ∧ acks.length < (blocks p d m acks).length := by
  obtain ⟨hack, hsent⟩ := h
  rw [List.length_append, List.length_singleton] at hsent
  refine ⟨⟨fun b hb => hack b (List.mem_append_left _ hb), fun j hj => ?_⟩, hack a (by simp), ?_⟩
  · have hj' := hsent j (by omega)
    rwa [List.take_append_of_le_length hj.le] at hj'
  · have hlast := hsent acks.length (by omega)
    rwa [List.take_left] at hlast

/-! ### The listener on the responses of a transfer -/

lemma responseListener_start {m : DataMap} (h : m.get "rsp" = .string "fw-start") :
    responseListener p m = fwStart m := by
  rw [responseListener, if_pos h]

lemma responseListener_ack {a : DataMap} (h : IsAck a) : responseListener p a = fwBlock := by
  have hne : a.get "rsp" ≠ .string "fw-start" := by
    rw [h]
    decide
  rw [responseListener, if_neg hne]
  exact if_pos h

/-- Under a layout an acknowledgement of one of the blocks does not throw. -/
lemma Layout.fwBlock_ok (h : Layout d bytes size last) : fwBlock.outcome d = .ok () := by
  rw [fwBlock, Effect.outcome_modify_bind, Effect.outcome_get_bind]
  simp only [h.fwTotalBlocks, h.fwBytes, h.fwBlockSize, nonNull_some, Effect.outcome_lift_ok_bind]
  push_cast
  generalize hw : (d.fwBlocksWritten : ℤ) + 1 = w
  rcases lt_trichotomy (d.fwBlocksWritten + 1) last with hlt | heq | hgt
  · have hrange := h.getRange_block hlt
    push_cast at hrange
    rw [hw] at hrange
    rw [if_pos (by omega)]
    simp only [Effect.outcome_lift_ok_bind, hrange]
    rfl
  · have hrange := h.getRange_last
    rw [show (last : ℤ) = w by omega] at hrange ⊢
    rw [if_neg (by omega), if_pos (by omega)]
    simp only [Effect.outcome_lift_ok_bind, hrange]
    rfl
  · rw [if_neg (by omega), if_neg (by omega)]
    split_ifs
    · rfl
    · rfl

/-- The dialog of a transfer after `k` acknowledgements. -/
structure Sent (d : Dialog) (bytes : List UInt8) (size last k : ℕ) : Prop where
  layout : Layout d bytes size last
  written : d.fwBlocksWritten = k
  blocks : payloads d.commands = pieces size (min (k + 1) (last + 1)) bytes
  complete : d.uploadComplete = true ↔ k = last + 1

/-- An `fw-start` response with a block that fits sends the first block. -/
lemma sent_start (h : Loaded d bytes) {m : DataMap} (hm : Announces m size)
    (hsize : 1 ≤ size) (hne : bytes ≠ []) (hfit : size ≤ bytes.length) :
    ∃ last, last + 1 = bytes.length ⌈/⌉ size ∧ (fwStart m).outcome d = .ok () ∧
      Sent ((fwStart m).finalState d) bytes size last 0 := by
  have hann : announced m = some (size : ℤ) := by
    rw [announced, hm.blockSize]
    rfl
  have hpos := List.length_pos_of_ne_nil hne
  obtain ⟨last, hlast⟩ : ∃ last, last + 1 = bytes.length ⌈/⌉ size := by
    refine ⟨bytes.length ⌈/⌉ size - 1, Nat.sub_add_cancel ?_⟩
    rw [Nat.ceilDiv_eq_add_pred_div]
    exact Nat.div_pos (by omega) hsize
  have hle : bytes.length ≤ size * (last + 1) := by
    rw [hlast, ← smul_eq_mul]
    exact le_smul_ceilDiv hsize
  have hlt : size * last < bytes.length := by
    by_contra hge
    have h1 : bytes.length ⌈/⌉ size ≤ last := (ceilDiv_le_iff_le_mul hsize).mpr (not_lt.mp hge)
    omega
  have htotal : ceilDiv (bytes.length : ℤ) size = .ok ((last + 1 : ℕ) : ℤ) := by
    refine ceilDiv_pos (by omega) ?_ ?_
    · push_cast
      rw [add_sub_cancel_right]
      exact_mod_cast hlt
    · exact_mod_cast hle
  have hrange := getRange_ok (Nat.zero_le size) hfit
  rw [Nat.cast_zero, List.drop_zero, Nat.sub_zero] at hrange
  have hstate := fwStart_finalState d m
  rw [hann, h.fwBytes] at hstate
  simp only [Option.bind_some, totalBlocks, htotal, firstPayload, hrange, Except.toOption,
    if_neg (show ¬ (size : ℤ) = 0 by omega), Option.map_some, Option.toList_some] at hstate
  refine ⟨last, hlast, ?_, ?_⟩
  · rw [fwStart, hm.blockSize]
    simp [Value.asInt, h.fwBytes, htotal, hrange, sendFwData]
  · rw [hstate]
    refine ⟨⟨rfl, rfl, rfl, hlt, hle⟩, h.fwBlocksWritten, ?_, ?_⟩
    · rw [payloads_append, h.payloads]
      simp [payloads, pieces]
    · simp [h.uploadComplete]

/-- An acknowledgement sends the next block, or completes the upload. -/
lemma Sent.ack {k : ℕ} (h : Sent d bytes size last k) (hk : k ≤ last) :
    Sent (fwBlock.finalState d) bytes size last (k + 1) := by
  rw [fwBlock_finalState]
  have hlay := h.layout
  refine ⟨⟨hlay.fwBytes, hlay.fwBlockSize, hlay.fwTotalBlocks, hlay.lt, hlay.le⟩, ?_, ?_, ?_⟩
  · exact congrArg Nat.succ h.written
  · dsimp only
    rw [payloads_append, payloads_sent, h.blocks, hlay.nextPayload_eq, h.written,
      min_eq_left (by omega)]
    by_cases hlast : k + 1 ≤ last
    · rw [if_pos hlast, min_eq_left (by omega), pieces_succ size (k + 1)]
      rfl
    · rw [if_neg hlast, min_eq_right (by omega), show last = k by omega]
      simp
  · have hnot : ¬ d.uploadComplete = true := fun hc => by
      have hfull := h.complete.mp hc
      omega
    rw [Bool.or_eq_true, or_iff_right hnot, decide_eq_true_eq, hlay.fwTotalBlocks, h.written,
      Option.some_inj]
    omega

/-- **A transfer whose first block fits**, after any number of
acknowledgements. -/
lemma sent_transfer (h : Loaded d bytes) {m : DataMap} (hm : Announces m size)
    (hsize : 1 ≤ size) (hne : bytes ≠ []) (hfit : size ≤ bytes.length) {acks : List DataMap}
    (hacks : Acknowledges p d m acks) :
    ∃ last, last + 1 = bytes.length ⌈/⌉ size ∧ acks.length ≤ last + 1 ∧
      Sent (transfer p d m acks) bytes size last acks.length ∧
      Always (step p) (fun t e => ∀ r, e = .response r → (responseListener p r).outcome t = .ok ())
        d (.response m :: acks.map .response) := by
  obtain ⟨last, hlast, hok, hstart⟩ := sent_start h hm hsize hne hfit
  refine ⟨last, hlast, ?_⟩
  induction acks using List.reverseRecOn with
  | nil =>
      refine ⟨Nat.zero_le _, ?_, ?_⟩
      · rw [transfer, List.map_nil, run_cons, run_nil, step, responseListener_start hm.rsp]
        exact hstart
      · rw [← List.nil_append (_ :: _), List.map_nil, always_concat]
        refine ⟨Always.nil, ?_⟩
        rintro r ⟨rfl⟩
        rw [responseListener_start hm.rsp]
        exact hok
  | append_singleton acks a ih =>
      obtain ⟨hacks, ha, hlt⟩ := hacks.of_concat
      obtain ⟨hle, hsent, halways⟩ := ih hacks
      have hlen : acks.length ≤ last := by
        rw [blocks, hsent.blocks, length_pieces] at hlt
        omega
      rw [List.length_append, List.length_singleton]
      refine ⟨by omega, ?_, ?_⟩
      · rw [transfer_concat, step, responseListener_ack ha]
        exact hsent.ack hlen
      · rw [List.map_append, List.map_singleton, ← List.cons_append, always_concat]
        refine ⟨halways, ?_⟩
        rintro r ⟨rfl⟩
        rw [responseListener_ack ha]
        exact hsent.layout.fwBlock_ok

/-- A block larger than the image is out of the range of `sublist`. -/
lemma fwStart_large (h : Loaded d bytes) {m : DataMap} (hm : Announces m size)
    (hsize : bytes.length < size) : (fwStart m).outcome d = .error .rangeError := by
  have htotal : ∃ total, ceilDiv (bytes.length : ℤ) size = .ok total :=
    ⟨_, by rw [ceilDiv, if_neg (by omega)]⟩
  obtain ⟨total, htotal⟩ := htotal
  have hrange : getRange bytes 0 (size : ℤ) = .error .rangeError := by
    rw [getRange, if_neg (by omega)]
  rw [fwStart, hm.blockSize]
  simp [Value.asInt, h.fwBytes, htotal, hrange]

/-- **The transfer is exact** exactly when the announced block is no larger than
the image. -/
theorem exact_transfer_iff (p : Platform) {d : Dialog} {bytes : List UInt8} {m : DataMap}
    {size : ℕ} (h : Loaded d bytes) (hm : Announces m size) (hne : bytes ≠ [])
    (hsize : 1 ≤ size) : ExactTransfer p d m bytes size ↔ size ≤ bytes.length := by
  refine ⟨fun hexact => ?_, fun hfit => ⟨?_, ?_, ?_⟩⟩
  · by_contra hlarge
    have hthrow := hexact.no_throw [] ⟨by simp, by simp⟩ [] (.response m) [] rfl m rfl
    rw [run_nil, responseListener_start hm.rsp, fwStart_large h hm (not_le.mp hlarge)] at hthrow
    exact absurd hthrow (by simp)
  · intro acks hacks
    obtain ⟨last, -, -, -, halways⟩ := sent_transfer h hm hsize hne hfit hacks
    exact halways
  · intro acks hacks
    obtain ⟨last, hlast, -, hsent, -⟩ := sent_transfer h hm hsize hne hfit hacks
    rw [hsent.complete, hlast]
  · intro acks hacks hall
    obtain ⟨last, -, -, hsent, -⟩ := sent_transfer h hm hsize hne hfit hacks
    have hlay := hsent.layout
    rw [blocks, hsent.blocks, length_pieces] at hall
    rw [blocks, hsent.blocks, min_eq_right (by omega), flatten_pieces, pieces_succ]
    refine ⟨List.take_of_length_le hlay.le, ?_, ?_⟩
    · rw [List.dropLast_concat]
      exact fun b hb => length_of_mem_pieces hlay.lt.le hb
    · refine ⟨_, List.getLast?_concat, List.ne_nil_of_length_pos ?_⟩
      rw [List.length_take, List.length_drop]
      have hlt := hlay.lt
      omega

/-- The dialog after the choice of an image and its loading. -/
def loadedDialog (bytes : List UInt8) : Dialog :=
  run (step ⟨fun _ => "", fun _ _ => ""⟩) {} [.chooseFile bytes, .fileRead]

/-- An image of ten bytes in blocks of four. -/
theorem exact_transfer_sample :
    ExactTransfer ⟨fun _ => "", fun _ _ => ""⟩ (loadedDialog [1, 2, 3, 4, 5, 6, 7, 8, 9, 10])
        fwStartResponse [1, 2, 3, 4, 5, 6, 7, 8, 9, 10] 4 ↔
      4 ≤ [(1 : UInt8), 2, 3, 4, 5, 6, 7, 8, 9, 10].length :=
  exact_transfer_iff _ ⟨rfl, rfl, rfl, rfl⟩ ⟨rfl, rfl⟩ (List.cons_ne_nil _ _) (by norm_num)

/-- An image of three bytes and a block of four: the `fw-start` response throws
and nothing is sent. -/
theorem small_image_throws :
    ¬ ∀ (p : Platform) (d : Dialog) (bytes : List UInt8) (m : DataMap) (size : ℕ),
      Loaded d bytes → Announces m size → bytes ≠ [] → 1 ≤ size →
        ExactTransfer p d m bytes size := by
  intro h
  have hexact := h ⟨fun _ => "", fun _ _ => ""⟩ (loadedDialog [1, 2, 3]) [1, 2, 3]
    fwStartResponse 4 ⟨rfl, rfl, rfl, rfl⟩ ⟨rfl, rfl⟩ (List.cons_ne_nil _ _) (by norm_num)
  obtain ⟨hflat, -⟩ := hexact.image [] ⟨by simp, by simp⟩ rfl
  exact absurd hflat (by decide)

end SopepApp.Firmware
