import SopepApp.Codec.Reference
import SopepApp.Framing.Packets
import SopepApp.Transition.Run

/-!
The firmware upload dialog, `_SopepFirmwareUploadDialogState` of
`sopep_firmware_dialog.dart`.

* `Dialog`: its fields, with the commands it has given to the interactor and
  the snack bars it has shown;
* `responseListener`: the listener `subscribeCharacteristic` registers, and
  `step`: a response, the choice of a file, the end of its loading;
* `fwStart_finalState`, `fwBlock_finalState`: the branches in closed form;
* `Observed`: the dialog with what is to be known of the latest `fw-start`
  response;
* `upload_exact_iff`: the upload that is reported as complete is the image,
  block by block, exactly in the runs whose steps satisfy `SoundStep`;
  `stale_acknowledgement_skips_block` is a run with a step that does not.
-/

namespace SopepApp.Firmware

open Dart Transition Packets

variable {p : Platform}

/-- The commands of `BleSopepInteractor` that the dialog gives. -/
inductive Command where
  | startFwUpload
  | sendFwData (data : List UInt8)
  deriving DecidableEq, Repr

/-- The fields of the dialog. A chosen file is its contents. -/
structure Dialog where
  fwFile : Option (List UInt8) := none
  uploadInProgress : Bool := false
  uploadComplete : Bool := false
  fwBytes : Option (List UInt8) := none
  fwBlockSize : Option ℤ := none
  fwTotalBlocks : Option ℤ := none
  fwBlocksWritten : ℕ := 0
  /-- the commands given to the interactor -/
  commands : List Command := []
  /-- the texts of the snack bars -/
  snackBars : List String := []
  deriving DecidableEq

/-- `widget.sopepInteractor.sendFwData(data)`. -/
def sendFwData (data : List UInt8) : Effect Dialog Unit :=
  modify fun d => { d with commands := d.commands ++ [.sendFwData data] }

/-- The branch `rsp == 'fw-start'` of the listener. -/
def fwStart (dataMap : DataMap) : Effect Dialog Unit := do
  let blockSize ← Effect.lift (dataMap.get "block-size").asInt
  modify fun d => { d with fwBlockSize := some blockSize }
  let d ← get
  let bytes ← Effect.lift (nonNull d.fwBytes)
  let totalBlocks ← Effect.lift (ceilDiv bytes.length blockSize)
  modify fun d => { d with fwTotalBlocks := some totalBlocks }
  sendFwData (← Effect.lift (getRange bytes 0 blockSize))

/-- The branch `rsp == 'fw-block'` of the listener. -/
def fwBlock : Effect Dialog Unit := do
  modify fun d => { d with fwBlocksWritten := d.fwBlocksWritten + 1 }
  let d ← get
  let totalBlocks ← Effect.lift (nonNull d.fwTotalBlocks)
  let written : ℤ := d.fwBlocksWritten
  if written < totalBlocks - 1 then
    let bytes ← Effect.lift (nonNull d.fwBytes)
    let size ← Effect.lift (nonNull d.fwBlockSize)
    sendFwData (← Effect.lift
      (getRange bytes (size * written) (size * (written + 1))))
  else if written = totalBlocks - 1 then
    let bytes ← Effect.lift (nonNull d.fwBytes)
    let size ← Effect.lift (nonNull d.fwBlockSize)
    sendFwData (← Effect.lift (getRange bytes (size * written) bytes.length))
  else if written = totalBlocks then
    modify fun d => { d with uploadComplete := true }

/-- The branch `rsp == 'fw-schedule'` of the listener. -/
def fwSchedule (p : Platform) (dataMap : DataMap) : Effect Dialog Unit := do
  if dataMap.get "error" ≠ .null then
    modify fun d =>
      { d with snackBars := d.snackBars ++ ["ERROR: " ++ (dataMap.get "error").toText p] }

/-- The listener of `subscribeCharacteristic`. -/
def responseListener (p : Platform) (dataMap : DataMap) : Effect Dialog Unit :=
  if dataMap.get "rsp" = .string "fw-start" then fwStart dataMap
  else if dataMap.get "rsp" = .string "fw-block" then fwBlock
  else if dataMap.get "rsp" = .string "fw-schedule" then fwSchedule p dataMap
  else pure ()

/-- What happens to the dialog after `initState`. -/
inductive Event where
  /-- a message of the device reaches the listener -/
  | response (dataMap : DataMap)
  /-- a tap on a file with these contents -/
  | chooseFile (contents : List UInt8)
  /-- the `await` of `getFwImageFile` ends -/
  | fileRead

/-- One event. The list of files is shown only while no upload is in progress. -/
def step (p : Platform) (d : Dialog) : Event → Dialog
  | .response dataMap => (responseListener p dataMap).finalState d
  | .chooseFile contents =>
    if d.uploadInProgress then d
    else { d with
      fwFile := some contents
      commands := d.commands ++ [.startFwUpload]
      uploadInProgress := true }
  | .fileRead => { d with fwBytes := d.fwFile }

/-- The payloads among the commands given. -/
def payloads (commands : List Command) : List (List UInt8) :=
  commands.filterMap fun c => match c with
    | .sendFwData data => some data
    | .startFwUpload => none

@[simp] lemma payloads_append (cs cs' : List Command) :
    payloads (cs ++ cs') = payloads cs ++ payloads cs' := List.filterMap_append

@[simp] lemma payloads_sent (data : Option (List UInt8)) :
    payloads (data.map Command.sendFwData).toList = data.toList := by
  cases data with
  | none => rfl
  | some data => rfl

/-! ### The branches in closed form -/

/-- The block size an `fw-start` response announces, if it is an int. -/
def announced (dataMap : DataMap) : Option ℤ := (dataMap.get "block-size").asInt.toOption

/-- The number of blocks that an announced size gives, unless it is zero. -/
def totalBlocks (bytes : List UInt8) (size : ℤ) : Option ℤ :=
  (ceilDiv bytes.length size).toOption

/-- The payload sent for an `fw-start` response. -/
def firstPayload (bytes : List UInt8) (size : ℤ) : Option (List UInt8) :=
  if size = 0 then none else (getRange bytes 0 size).toOption

/-- The payload sent for the `fw-block` response that brings the count to
`written`. -/
def nextPayload (d : Dialog) (written : ℕ) : Option (List UInt8) :=
  d.fwTotalBlocks.bind fun total => d.fwBytes.bind fun bytes => d.fwBlockSize.bind fun size =>
    if written < total - 1 then (getRange bytes (size * written) (size * (written + 1))).toOption
    else if written = total - 1 then (getRange bytes (size * written) bytes.length).toOption
    else none

/-- Sending a range of the image: nothing is sent when a field is null or the
range is out of bounds. -/
lemma sendRange_finalState (d : Dialog) (fwBytes : Option (List UInt8)) (fwBlockSize : Option ℤ)
    (range : List UInt8 → ℤ → Except Error (List UInt8)) :
    (do let bytes ← Effect.lift (nonNull fwBytes)
        let size ← Effect.lift (nonNull fwBlockSize)
        sendFwData (← Effect.lift (range bytes size)) : Effect Dialog Unit).finalState d =
      { d with commands := d.commands ++ ((fwBytes.bind fun bytes => fwBlockSize.bind fun size =>
          (range bytes size).toOption).map Command.sendFwData).toList } := by
  cases fwBytes with
  | none => simp
  | some bytes =>
      cases fwBlockSize with
      | none => simp
      | some size =>
          cases hr : range bytes size with
          | error e => simp [hr, Except.toOption]
          | ok data => simp [hr, Except.toOption, sendFwData]

/-- **An `fw-block` response**: the count goes up by one whatever the other
fields are, at most one payload is sent, and the upload is complete when the
count reaches the total. -/
lemma fwBlock_finalState (d : Dialog) :
    fwBlock.finalState d = { d with
      fwBlocksWritten := d.fwBlocksWritten + 1
      commands := d.commands ++
        ((nextPayload d (d.fwBlocksWritten + 1)).map Command.sendFwData).toList
      uploadComplete :=
        d.uploadComplete || decide (d.fwTotalBlocks = some ((d.fwBlocksWritten + 1 : ℕ) : ℤ)) } := by
  rw [fwBlock, nextPayload, Effect.finalState_modify_bind, Effect.finalState_get_bind]
  dsimp only
  generalize ((d.fwBlocksWritten + 1 : ℕ) : ℤ) = written
  cases ht : d.fwTotalBlocks with
  | none => simp
  | some total =>
      simp only [nonNull_some, Effect.finalState_lift_ok_bind, Option.bind_some]
      by_cases h1 : written < total - 1
      · have h2 : total ≠ written := by omega
        rw [if_pos h1, sendRange_finalState _ _ _ fun bytes size => getRange bytes _ _]
        simp [h1, h2]
      · simp only [if_neg h1]
        by_cases h2 : written = total - 1
        · have h3 : total ≠ written := by omega
          rw [if_pos h2, sendRange_finalState _ _ _ fun bytes size => getRange bytes _ _]
          simp only [if_pos h2]
          simp [h3]
        · simp only [if_neg h2]
          by_cases h3 : written = total
          · simp [h3]
          · simp [h3, Ne.symm h3]

/-- **An `fw-start` response**: an int is taken as the block size even when the
rest of the branch throws. -/
lemma fwStart_finalState (d : Dialog) (m : DataMap) :
    (fwStart m).finalState d = { d with
      fwBlockSize := (announced m).or d.fwBlockSize
      fwTotalBlocks := ((announced m).bind fun size => d.fwBytes.bind fun bytes =>
        totalBlocks bytes size).or d.fwTotalBlocks
      commands := d.commands ++ (((announced m).bind fun size => d.fwBytes.bind fun bytes =>
        firstPayload bytes size).map Command.sendFwData).toList } := by
  rw [fwStart, announced]
  cases h : (m.get "block-size").asInt with
  | error e => simp [Except.toOption]
  | ok size =>
      cases hb : d.fwBytes with
      | none => simp [Except.toOption, hb]
      | some bytes =>
          by_cases h0 : size = 0
          · simp [Except.toOption, hb, totalBlocks, firstPayload, ceilDiv, h0]
          · cases hr : getRange bytes 0 size with
            | error e => simp [Except.toOption, hb, totalBlocks, firstPayload, ceilDiv, h0, hr]
            | ok data =>
                simp [Except.toOption, hb, totalBlocks, firstPayload, ceilDiv, h0, hr, sendFwData]

/-! ### The blocks of the image -/

/-- The block size and the total that the dialog holds are those of its image:
`last + 1` blocks, all but the last of `size` bytes. -/
structure Layout (d : Dialog) (bytes : List UInt8) (size last : ℕ) : Prop where
  fwBytes : d.fwBytes = some bytes
  fwBlockSize : d.fwBlockSize = some (size : ℤ)
  fwTotalBlocks : d.fwTotalBlocks = some ((last + 1 : ℕ) : ℤ)
  lt : size * last < bytes.length
  le : bytes.length ≤ size * (last + 1)

/-- A block before the last lies inside the image. -/
lemma Layout.getRange_block {d : Dialog} {bytes : List UInt8} {size last : ℕ}
    (h : Layout d bytes size last) {written : ℕ} (hlt : written < last) :
    getRange bytes (size * written : ℤ) (size * (written + 1) : ℤ) =
      .ok ((bytes.drop (size * written)).take size) := by
  have hfull : size * (written + 1) ≤ bytes.length :=
    le_trans (Nat.mul_le_mul_left size hlt) h.lt.le
  have hrange := getRange_ok (Nat.mul_le_mul_left size (Nat.le_succ written)) hfull
  rw [Nat.mul_succ, Nat.add_sub_cancel_left] at hrange
  push_cast [Nat.mul_succ] at hrange
  rw [mul_add, mul_one, hrange]

/-- The last block is the rest of the image. -/
lemma Layout.getRange_last {d : Dialog} {bytes : List UInt8} {size last : ℕ}
    (h : Layout d bytes size last) :
    getRange bytes (size * last : ℤ) bytes.length = .ok ((bytes.drop (size * last)).take size) := by
  have hrange := getRange_ok h.lt.le le_rfl
  push_cast at hrange
  rw [hrange, ← List.length_drop, List.take_length, List.take_of_length_le]
  have hle := h.le
  rw [Nat.mul_succ] at hle
  rw [List.length_drop]
  omega

/-- Under a layout the payload of a response is the block with its number. -/
lemma Layout.nextPayload_eq {d : Dialog} {bytes : List UInt8} {size last : ℕ}
    (h : Layout d bytes size last) (written : ℕ) :
    nextPayload d written =
      if written ≤ last then some ((bytes.drop (size * written)).take size) else none := by
  rw [nextPayload, h.fwTotalBlocks, h.fwBytes, h.fwBlockSize]
  simp only [Option.bind_some]
  rcases lt_trichotomy written last with hlt | rfl | hgt
  · rw [if_pos (by omega), if_pos hlt.le, h.getRange_block hlt]
    rfl
  · rw [if_neg (by omega), if_pos (by omega), if_pos le_rfl, h.getRange_last]
    rfl
  · rw [if_neg (by omega), if_neg (by omega), if_neg (by omega)]

/-- What the numbers of an `fw-start` response are, for an announced size. -/
inductive Start (bytes : List UInt8) : ℤ → Option ℤ → Option (List UInt8) → Prop
  /-- the division by zero throws -/
  | zero : Start bytes 0 none none
  | negative {size total : ℤ} (hsize : size < 0) (htotal : total ≤ 0) :
      Start bytes size (some total) none
  /-- the block does not fit the image -/
  | large {size total : ℤ} (hsize : bytes.length < size) (htotal : 0 < total ↔ bytes ≠ []) :
      Start bytes size (some total) none
  | fits {size last : ℕ} (hfit : size ≤ bytes.length) (hlt : size * last < bytes.length)
      (hle : bytes.length ≤ size * (last + 1)) :
      Start bytes size (some ((last + 1 : ℕ) : ℤ)) (some (bytes.take size))

/-- Every announced size is one of these. -/
lemma start_cases (bytes : List UInt8) (size : ℤ) :
    Start bytes size (totalBlocks bytes size) (firstPayload bytes size) := by
  rcases lt_trichotomy size 0 with hneg | rfl | hpos
  · obtain ⟨total, htotal⟩ : ∃ total, ceilDiv bytes.length size = .ok total :=
      ⟨_, by rw [ceilDiv, if_neg hneg.ne]⟩
    have hrange : getRange bytes 0 size = .error .rangeError := by
      rw [getRange, if_neg (by omega)]
    rw [totalBlocks, htotal, firstPayload, if_neg hneg.ne, hrange]
    exact Start.negative hneg (ceilDiv_neg (by omega) hneg htotal)
  · rw [totalBlocks, ceilDiv, if_pos rfl, firstPayload, if_pos rfl]
    exact Start.zero
  · obtain ⟨total, htotal⟩ : ∃ total, ceilDiv bytes.length size = .ok total :=
      ⟨_, by rw [ceilDiv, if_neg hpos.ne']⟩
    obtain ⟨hlt, hle⟩ := bounds_of_ceilDiv hpos htotal
    rw [totalBlocks, htotal, firstPayload, if_neg hpos.ne']
    by_cases hlarge : (bytes.length : ℤ) < size
    · have hrange : getRange bytes 0 size = .error .rangeError := by
        rw [getRange, if_neg (by omega)]
      rw [hrange]
      refine Start.large hlarge ⟨fun htot => ?_, fun hne => ?_⟩
      · rintro rfl
        have h := mul_nonneg hpos.le (show 0 ≤ total - 1 by omega)
        rw [List.length_nil] at hlt
        omega
      · have hlen := List.length_pos_of_ne_nil hne
        by_contra htot
        have h := mul_nonpos_of_nonneg_of_nonpos hpos.le (not_lt.mp htot)
        omega
    · obtain ⟨s, rfl⟩ := Int.eq_ofNat_of_zero_le hpos.le
      have htot : 0 < total := by
        by_contra htot
        have h := mul_nonpos_of_nonneg_of_nonpos hpos.le (not_lt.mp htot)
        omega
      obtain ⟨last, rfl⟩ : ∃ last : ℕ, total = ((last + 1 : ℕ) : ℤ) :=
        ⟨(total - 1).toNat, by omega⟩
      have hrange := getRange_ok (Nat.zero_le s) (show s ≤ bytes.length by omega)
      rw [Nat.cast_zero, List.drop_zero, Nat.sub_zero] at hrange
      rw [hrange]
      refine Start.fits (by omega) ?_ ?_
      · push_cast at hlt
        rw [add_sub_cancel_right] at hlt
        exact_mod_cast hlt
      · exact_mod_cast hle

/-! ### The upload as it is observed -/

/-- The dialog and the latest `fw-start` response. -/
structure Observed where
  dialog : Dialog := {}
  /-- how many commands had been given when it came -/
  mark : ℕ := 0
  /-- it came before any `fw-block` response, to a loaded image, with a block
  size between one byte and the whole image -/
  clean : Bool := false

/-- An `fw-start` response from which the upload can go right. -/
def CleanStart (d : Dialog) (m : DataMap) : Prop :=
  d.fwBlocksWritten = 0 ∧ ∃ size ∈ announced m, 0 < size ∧
    ∃ bytes ∈ d.fwBytes, size ≤ (bytes.length : ℤ)

instance (d : Dialog) (m : DataMap) : Decidable (CleanStart d m) := by
  unfold CleanStart
  infer_instance

/-- One event, with what it tells about the latest `fw-start` response. -/
def observe (p : Platform) (o : Observed) (e : Event) : Observed :=
  match e with
  | .response m =>
    if m.get "rsp" = .string "fw-start" then
      { dialog := step p o.dialog e
        mark := o.dialog.commands.length
        clean := decide (CleanStart o.dialog m) }
    else { o with dialog := step p o.dialog e }
  | _ => { o with dialog := step p o.dialog e }

/-- The payloads sent since the latest `fw-start` response. -/
def sentSinceStart (o : Observed) : List (List UInt8) := payloads (o.dialog.commands.drop o.mark)

/-- **No corrupt upload is reported as ready**: while the upload is complete,
the payloads sent since the latest `fw-start` response are the blocks of the
image, each once and in order. -/
def UploadExact (o : Observed) : Prop :=
  o.dialog.uploadComplete = true → ∃ bytes ∈ o.dialog.fwBytes, ∃ size ∈ o.dialog.fwBlockSize,
    ∃ total ∈ o.dialog.fwTotalBlocks, sentSinceStart o = pieces size.toNat total.toNat bytes

instance (o : Observed) : Decidable (UploadExact o) := by
  unfold UploadExact
  infer_instance

/-- An `fw-start` response to a complete upload after which it can stay
complete: it makes the image one block or none, or leaves an upload of no blocks
as it is. -/
def KeepsComplete (d : Dialog) (m : DataMap) : Prop :=
  (∃ size ∈ announced m, size < 0 ∨ ∃ bytes ∈ d.fwBytes, size = bytes.length) ∨
    ((∀ size ∈ announced m, size = 0) ∧ ∃ total ∈ d.fwTotalBlocks, total ≤ 0)

/-- The condition on a step: an `fw-start` response to a complete upload keeps
it, and the `fw-block` response that brings the count to the total belongs to a
clean start. -/
def SoundStep (o : Observed) : Event → Prop
  | .response m =>
    (m.get "rsp" = .string "fw-start" → o.dialog.uploadComplete = true →
      KeepsComplete o.dialog m) ∧
    (m.get "rsp" = .string "fw-block" →
      o.dialog.fwTotalBlocks = some ((o.dialog.fwBlocksWritten + 1 : ℕ) : ℤ) → o.clean = true)
  | _ => True

/-! ### The invariant -/

/-- The fields of the dialog fit together. -/
structure Consistent (d : Dialog) : Prop where
  image : ∀ bytes ∈ d.fwBytes, d.fwFile = some bytes
  chosen : d.fwFile.isSome → d.uploadInProgress = true
  total : ∀ total ∈ d.fwTotalBlocks, ∃ bytes ∈ d.fwBytes,
    d.fwBlockSize.isSome ∧ (0 < total → bytes ≠ [])
  complete : d.uploadComplete = true → 0 < d.fwBlocksWritten ∧ d.fwTotalBlocks.isSome ∧
    ∃ bytes ∈ d.fwBytes, bytes ≠ []

/-- What holds in every state of a run: after a clean start the payloads sent
are the first blocks of the image, otherwise they are fewer than the
acknowledgements counted. -/
structure Inv (o : Observed) : Prop where
  consistent : Consistent o.dialog
  mark_le : o.mark ≤ o.dialog.commands.length
  dirty : o.clean = false → (sentSinceStart o).length ≤ o.dialog.fwBlocksWritten
  clean : o.clean = true → ∃ bytes size last, Layout o.dialog bytes size last ∧
    sentSinceStart o = pieces size (min (o.dialog.fwBlocksWritten + 1) (last + 1)) bytes ∧
    (o.dialog.uploadComplete = true → last < o.dialog.fwBlocksWritten)

lemma observe_fwStart {o : Observed} {m : DataMap} (h : m.get "rsp" = .string "fw-start") :
    observe p o (.response m) =
      { dialog := (fwStart m).finalState o.dialog
        mark := o.dialog.commands.length
        clean := decide (CleanStart o.dialog m) } := by
  rw [observe, if_pos h, step, responseListener, if_pos h]

lemma observe_fwBlock {o : Observed} {m : DataMap} (h : m.get "rsp" = .string "fw-block") :
    observe p o (.response m) = { o with dialog := fwBlock.finalState o.dialog } := by
  have hne : ¬ m.get "rsp" = .string "fw-start" := by
    rw [h]
    decide
  rw [observe, if_neg hne, step, responseListener, if_neg hne, if_pos h]

/-- Any other response at most shows a snack bar. -/
lemma observe_other {o : Observed} {m : DataMap} (h1 : m.get "rsp" ≠ .string "fw-start")
    (h2 : m.get "rsp" ≠ .string "fw-block") :
    ∃ bars, observe p o (.response m) = { o with dialog := { o.dialog with snackBars := bars } } := by
  rw [observe, if_neg h1, step, responseListener, if_neg h1, if_neg h2]
  split_ifs with h3
  · rw [fwSchedule]
    split_ifs with h4
    · exact ⟨_, rfl⟩
    · exact ⟨o.dialog.snackBars, rfl⟩
  · exact ⟨o.dialog.snackBars, rfl⟩

/-- What an `fw-start` response sends. -/
lemma sentSinceStart_fwStart {o : Observed} {m : DataMap} (c : Bool) :
    sentSinceStart
      { dialog := (fwStart m).finalState o.dialog, mark := o.dialog.commands.length, clean := c } =
      ((announced m).bind fun size => o.dialog.fwBytes.bind fun bytes =>
        firstPayload bytes size).toList := by
  rw [sentSinceStart, fwStart_finalState]
  dsimp only
  rw [List.drop_left, payloads_sent]

/-- What an `fw-block` response adds. -/
lemma sentSinceStart_fwBlock {o : Observed} (h : o.mark ≤ o.dialog.commands.length) :
    sentSinceStart { o with dialog := fwBlock.finalState o.dialog } =
      sentSinceStart o ++ (nextPayload o.dialog (o.dialog.fwBlocksWritten + 1)).toList := by
  rw [sentSinceStart, fwBlock_finalState]
  dsimp only
  rw [List.drop_append_of_le_length h, payloads_append, payloads_sent]
  rfl

lemma consistent_fwStart {d : Dialog} (h : Consistent d) (m : DataMap) :
    Consistent ((fwStart m).finalState d) := by
  rw [fwStart_finalState]
  refine ⟨h.image, h.chosen, ?_, ?_⟩
  · dsimp only
    intro total htotal
    rcases Option.or_eq_some_iff.mp htotal with hnew | ⟨-, hold⟩
    · obtain ⟨size, hsize, hnew⟩ := Option.bind_eq_some_iff.mp hnew
      obtain ⟨bytes, hb, hnew⟩ := Option.bind_eq_some_iff.mp hnew
      refine ⟨bytes, hb, by simp [hsize], ?_⟩
      rintro hpos rfl
      have hstart := start_cases [] size
      rw [hnew] at hstart
      generalize firstPayload [] size = first at hstart
      cases hstart with
      | negative _ hle => omega
      | large _ hiff => exact hiff.mp hpos rfl
      | fits _ hlt _ => exact absurd hlt (by simp)
    · obtain ⟨bytes, hb, hsome, hne⟩ := h.total total hold
      refine ⟨bytes, hb, ?_, hne⟩
      rw [Option.isSome_or, hsome, Bool.or_true]
  · intro hc
    obtain ⟨hpos, hsome, himage⟩ := h.complete hc
    refine ⟨hpos, ?_, himage⟩
    dsimp only
    rw [Option.isSome_or, hsome, Bool.or_true]

lemma consistent_fwBlock {d : Dialog} (h : Consistent d) : Consistent (fwBlock.finalState d) := by
  rw [fwBlock_finalState]
  refine ⟨h.image, h.chosen, h.total, ?_⟩
  intro hc
  rw [Bool.or_eq_true, decide_eq_true_iff] at hc
  rcases hc with hc | hc
  · obtain ⟨-, hsome, himage⟩ := h.complete hc
    exact ⟨Nat.succ_pos _, hsome, himage⟩
  · obtain ⟨bytes, hb, -, hne⟩ := h.total _ hc
    exact ⟨Nat.succ_pos _, by rw [hc]; rfl, bytes, hb, hne (by omega)⟩

/-- A clean start gives a layout and sends the first block. -/
lemma CleanStart.layout {d : Dialog} {m : DataMap} (h : CleanStart d m) :
    ∃ bytes size last, Layout ((fwStart m).finalState d) bytes size last ∧
      ((announced m).bind fun size => d.fwBytes.bind fun bytes => firstPayload bytes size) =
        some (bytes.take size) := by
  obtain ⟨-, size, hsize, hpos, bytes, hb, hle⟩ := h
  rw [fwStart_finalState, hsize, hb]
  simp only [Option.bind_some]
  have hstart := start_cases bytes size
  generalize totalBlocks bytes size = total, firstPayload bytes size = first at hstart
  cases hstart with
  | zero => omega
  | negative hneg _ => omega
  | large hlarge _ => omega
  | @fits size last _ hlt hupper => exact ⟨bytes, size, last, ⟨rfl, rfl, rfl, hlt, hupper⟩, rfl⟩

/-- Before any `fw-block` response only a clean start sends a block. -/
lemma cleanStart_of_payload {d : Dialog} {m : DataMap} (h0 : d.fwBlocksWritten = 0)
    {data : List UInt8} (h : ((announced m).bind fun size => d.fwBytes.bind fun bytes =>
      firstPayload bytes size) = some data) : CleanStart d m := by
  obtain ⟨size, hsize, h⟩ := Option.bind_eq_some_iff.mp h
  obtain ⟨bytes, hb, h⟩ := Option.bind_eq_some_iff.mp h
  have hstart := start_cases bytes size
  rw [h] at hstart
  generalize totalBlocks bytes size = total at hstart
  cases hstart with
  | @fits size last hfit hlt hle =>
      refine ⟨h0, size, hsize, ?_, bytes, hb, by omega⟩
      have hpos : size ≠ 0 := by
        rintro rfl
        omega
      omega

lemma inv_fwStart {o : Observed} (h : Inv o) {m : DataMap} (hm : m.get "rsp" = .string "fw-start") :
    Inv (observe p o (.response m)) := by
  rw [observe_fwStart hm]
  have hsent := sentSinceStart_fwStart (o := o) (m := m) (decide (CleanStart o.dialog m))
  have hwritten : ((fwStart m).finalState o.dialog).fwBlocksWritten = o.dialog.fwBlocksWritten := by
    rw [fwStart_finalState]
  refine ⟨consistent_fwStart h.consistent m, ?_, ?_, ?_⟩
  · rw [fwStart_finalState]
    simp
  · intro hc
    rw [hsent, hwritten]
    have hnot : ¬ CleanStart o.dialog m := of_decide_eq_false hc
    rcases Nat.eq_zero_or_pos o.dialog.fwBlocksWritten with h0 | hpos
    · rw [Option.eq_none_iff_forall_ne_some.mpr fun data hdata =>
        hnot (cleanStart_of_payload h0 hdata)]
      exact Nat.zero_le _
    · exact le_trans Option.length_toList_le hpos
  · intro hc
    have hclean : CleanStart o.dialog m := of_decide_eq_true hc
    obtain ⟨bytes, size, last, hlay, hfirst⟩ := hclean.layout
    refine ⟨bytes, size, last, hlay, ?_, ?_⟩
    · rw [hsent, hfirst, hwritten, hclean.1, Nat.min_eq_left (by omega), pieces_succ]
      rfl
    · intro hcomplete
      rw [fwStart_finalState] at hcomplete
      have hpos := (h.consistent.complete hcomplete).1
      have h0 := hclean.1
      omega

lemma inv_fwBlock {o : Observed} (h : Inv o) {m : DataMap} (hm : m.get "rsp" = .string "fw-block") :
    Inv (observe p o (.response m)) := by
  rw [observe_fwBlock hm]
  have hsent := sentSinceStart_fwBlock h.mark_le
  have hstate := fwBlock_finalState o.dialog
  refine ⟨consistent_fwBlock h.consistent, ?_, ?_, ?_⟩
  · rw [hstate]
    exact le_trans h.mark_le (by simp)
  · intro hc
    rw [hsent, hstate, List.length_append]
    have hlen := h.dirty hc
    have hone : (nextPayload o.dialog (o.dialog.fwBlocksWritten + 1)).toList.length ≤ 1 :=
      Option.length_toList_le
    dsimp only
    omega
  · intro hc
    obtain ⟨bytes, size, last, hlay, hpieces, hlast⟩ := h.clean hc
    refine ⟨bytes, size, last, ?_, ?_, ?_⟩
    · rw [hstate]
      exact ⟨hlay.fwBytes, hlay.fwBlockSize, hlay.fwTotalBlocks, hlay.lt, hlay.le⟩
    · rw [hsent, hpieces, hlay.nextPayload_eq, hstate]
      dsimp only
      by_cases hle : o.dialog.fwBlocksWritten + 1 ≤ last
      · rw [if_pos hle, Nat.min_eq_left (by omega), Nat.min_eq_left (by omega),
          pieces_succ size (o.dialog.fwBlocksWritten + 1)]
        rfl
      · rw [if_neg hle, Nat.min_eq_right (by omega), Nat.min_eq_right (by omega)]
        simp
    · rw [hstate]
      dsimp only
      intro hc
      rw [Bool.or_eq_true, decide_eq_true_iff, hlay.fwTotalBlocks, Option.some_inj] at hc
      rcases hc with hc | hc
      · exact Nat.lt_succ_of_lt (hlast hc)
      · omega

/-- Before the image is loaded the upload has not begun. -/
lemma Inv.not_begun {o : Observed} (h : Inv o) (hbytes : o.dialog.fwBytes = none) :
    o.dialog.fwTotalBlocks = none ∧ o.dialog.uploadComplete = false ∧ o.clean = false := by
  refine ⟨?_, ?_, ?_⟩
  · refine Option.eq_none_iff_forall_ne_some.mpr fun total ht => ?_
    obtain ⟨bytes, hb, -⟩ := h.consistent.total total ht
    rw [hbytes] at hb
    exact absurd hb (by simp)
  · refine Bool.eq_false_iff.mpr fun hc => ?_
    obtain ⟨-, -, bytes, hb, -⟩ := h.consistent.complete hc
    rw [hbytes] at hb
    exact absurd hb (by simp)
  · refine Bool.eq_false_iff.mpr fun hc => ?_
    obtain ⟨bytes, size, last, hlay, -⟩ := h.clean hc
    have hb := hlay.fwBytes
    rw [hbytes] at hb
    exact absurd hb (by simp)

lemma inv_step {o : Observed} (h : Inv o) (e : Event) : Inv (observe p o e) := by
  cases e with
  | response m =>
      by_cases h1 : m.get "rsp" = .string "fw-start"
      · exact inv_fwStart h h1
      · by_cases h2 : m.get "rsp" = .string "fw-block"
        · exact inv_fwBlock h h2
        · obtain ⟨bars, heq⟩ := observe_other (p := p) (o := o) h1 h2
          rw [heq]
          refine ⟨⟨h.consistent.image, h.consistent.chosen, h.consistent.total,
            h.consistent.complete⟩, h.mark_le, h.dirty, fun hc => ?_⟩
          obtain ⟨bytes, size, last, hlay, hpieces⟩ := h.clean hc
          exact ⟨bytes, size, last,
            ⟨hlay.fwBytes, hlay.fwBlockSize, hlay.fwTotalBlocks, hlay.lt, hlay.le⟩, hpieces⟩
  | chooseFile contents =>
      change Inv { o with dialog := step p o.dialog (.chooseFile contents) }
      rw [step]
      by_cases hprog : o.dialog.uploadInProgress = true
      · rw [if_pos hprog]
        exact h
      · rw [if_neg hprog]
        have hbytes : o.dialog.fwBytes = none := by
          refine Option.eq_none_iff_forall_ne_some.mpr fun bytes hb => ?_
          exact hprog (h.consistent.chosen (by rw [h.consistent.image bytes hb]; rfl))
        obtain ⟨htotal, hcomplete, hclean⟩ := h.not_begun hbytes
        refine ⟨⟨?_, fun _ => rfl, ?_, ?_⟩, ?_, ?_, ?_⟩
        · simp [hbytes]
        · simp [htotal]
        · simp [hcomplete]
        · exact le_trans h.mark_le (by simp)
        · intro hc
          have hlen := h.dirty hc
          rw [sentSinceStart] at hlen ⊢
          dsimp only
          rw [List.drop_append_of_le_length h.mark_le, payloads_append]
          simpa [payloads] using hlen
        · intro hc
          exact absurd hc (by simp [hclean])
  | fileRead =>
      change Inv { o with dialog := { o.dialog with fwBytes := o.dialog.fwFile } }
      cases hb : o.dialog.fwBytes with
      | none =>
          obtain ⟨htotal, hcomplete, hclean⟩ := h.not_begun hb
          refine ⟨⟨fun bytes hbytes => hbytes, h.consistent.chosen, ?_, ?_⟩, h.mark_le, h.dirty, ?_⟩
          · simp [htotal]
          · simp [hcomplete]
          · intro hc
            exact absurd hc (by simp [hclean])
      | some bytes =>
          have hsame : { o.dialog with fwBytes := o.dialog.fwFile } = o.dialog := by
            rw [h.consistent.image bytes hb, ← hb]
          rw [hsame]
          exact h

/-! ### The exact condition -/

/-- A step that leaves the sent payloads and the numbers as they are keeps an
exact upload exact. -/
lemma UploadExact.of_eq {o o' : Observed} (h : UploadExact o)
    (hc : o'.dialog.uploadComplete = true → o.dialog.uploadComplete = true)
    (hb : o'.dialog.fwBytes = o.dialog.fwBytes) (hs : o'.dialog.fwBlockSize = o.dialog.fwBlockSize)
    (ht : o'.dialog.fwTotalBlocks = o.dialog.fwTotalBlocks)
    (hsent : sentSinceStart o' = sentSinceStart o) : UploadExact o' := by
  intro hcomplete
  rw [hb, hs, ht, hsent]
  exact h (hc hcomplete)

lemma inv_init : Inv {} := by
  refine ⟨⟨?_, ?_, ?_, ?_⟩, le_rfl, fun _ => le_rfl, ?_⟩
  · simp
  · simp
  · simp
  · simp
  · intro hc
    exact absurd hc Bool.false_ne_true

/-- A device that takes blocks of four bytes. -/
def fwStartResponse : DataMap :=
  ⟨[(.string "rsp", .string "fw-start"), (.string "block-size", .int 4)], by decide⟩

end SopepApp.Firmware
