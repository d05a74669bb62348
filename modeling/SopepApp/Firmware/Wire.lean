import SopepApp.Ble.Inbox
import SopepApp.Ble.Write
import SopepApp.Codec.Cbor
import SopepApp.Ble.Commands
import SopepApp.Firmware.Transfer

/-!
A firmware upload in bytes: the dialog over the interactor and its codec, the
calls of `writeCborWithoutResponse` in flight, and the device that stores the
image.

* `Wire`, `wireStep`: the packets of a command are written one at a time; the
  device stores the data of the blocks that it reads;
* `Expected`: what is expected of the device: it replies once to each command
  that it has read;
* `OnWay`: one command, or the reply to it, is all that is on the way;
  `Phase`: how far the upload has come, one lemma for each event;
* `image_delivered`: the device holds a prefix of the image in every state, all
  of it when the upload is complete, and the upload does not stall.
-/

namespace SopepApp.Firmware

open Dart Transition Packets Delimited
open Receive (Inbox Listening)

/-- The call of the interactor for a command of the dialog. -/
def Command.call : Command → Option String → Except Error Commands.Write
  | .startFwUpload => Commands.startFwUpload
  | .sendFwData data => Commands.sendFwData data

/-- The packets of the call. -/
def commandPackets (c : Connection) (cmd : Command) : List (List UInt8) :=
  match cmd.call (some c.deviceId) with
  | .ok (some write) => packetsOf c.packages c.mtu write.2
  | _ => []

/-- The dialog, the interactor, the device, and the bytes on the way between
them. -/
structure Wire where
  dialog : Dialog := {}
  /-- the receive path of the interactor -/
  inbox : Inbox
  /-- the calls of `writeCborWithoutResponse` that have not ended: the packets
  that each has still to write -/
  writes : List (List (List UInt8)) := []
  /-- the codec of the device -/
  device : Channel := {}
  /-- the commands that the device has read and not replied to -/
  commands : List DataMap := []
  /-- the image in the device -/
  image : List UInt8 := []

/-- What happens during an upload. -/
inductive WireEvent where
  /-- a tap on a file with these contents -/
  | chooseFile (contents : List UInt8)
  /-- the `await` of `getFwImageFile` ends -/
  | fileRead
  /-- the call at the index writes its next packet -/
  | write (i : ℕ)
  /-- the device reads the oldest packet -/
  | receive
  /-- the device replies to the oldest command, in chunks -/
  | reply (m : DataMap) (chunks : List (List UInt8))
  /-- the device sends another message, in chunks -/
  | report (m : DataMap) (chunks : List (List UInt8))
  /-- the oldest chunk arrives, at the time `now` -/
  | notify (now : ℤ)

/-- What the device does with a command: `fw-start` clears the image, and a
block is appended to it. -/
def store (image : List UInt8) (m : DataMap) : List UInt8 :=
  if m.get "cmd" = .string "fw-start" then []
  else
    match m.get "data" with
    | .bytes data => image ++ data
    | _ => image

/-- The commands that an event makes the dialog give. -/
def sentBy (p : Platform) (d : Dialog) (e : Event) : List Command :=
  (step p d e).commands.drop d.commands.length

/-- The dialog takes a step; each command that it gives is a call. -/
def Wire.react (c : Connection) (w : Wire) (e : Event) : Wire :=
  { w with
    dialog := step c.platform w.dialog e
    writes := w.writes ++ (sentBy c.platform w.dialog e).map (commandPackets c) }

/-- The maps that are heard when the oldest chunk arrives. -/
def Wire.heard (c : Connection) (w : Wire) (now : ℤ) : List DataMap :=
  (w.inbox.notify c.platform c.packages now).2

/-- One event. -/
def wireStep (c : Connection) (w : Wire) : WireEvent → Wire
  | .chooseFile contents => w.react c (.chooseFile contents)
  | .fileRead => w.react c .fileRead
  | .write i =>
    match w.writes[i]? with
    | some (packet :: packets) =>
      { w with
        -- a call ends with its last packet
        writes := if packets = [] then w.writes.eraseIdx i else w.writes.set i packets
        device := w.device.send [packet] }
    | _ => w
  | .receive =>
    let read := w.device.read c.packages
    { w with
      device := read.1
      commands := w.commands ++ read.2
      image := read.2.foldl store w.image }
  | .reply _ chunks =>
    match w.commands with
    | [] => w
    | _ :: commands => { w with commands := commands, inbox := w.inbox.send chunks }
  | .report _ chunks => { w with inbox := w.inbox.send chunks }
  | .notify now =>
    (w.heard c now).foldl (fun w m => w.react c (.response m))
      { w with inbox := (w.inbox.notify c.platform c.packages now).1 }

/-- A message that the dialog takes for a reply. -/
def IsReply (m : DataMap) : Prop :=
  m.get "rsp" = .string "fw-start" ∨ m.get "rsp" = .string "fw-block"

instance (m : DataMap) : Decidable (IsReply m) := inferInstanceAs (Decidable (_ ∨ _))

/-- A reply to `fw-start`, with a size of at least one byte. -/
def StartReply (m : DataMap) : Prop :=
  m.get "rsp" = .string "fw-start" ∧
    match m.get "block-size" with
    | .int size => 1 ≤ size
    | _ => False

instance (m : DataMap) : Decidable (StartReply m) := by
  unfold StartReply
  split <;> infer_instance

/-- The message is the reply to the command. -/
def Replies (cmd m : DataMap) : Prop :=
  if cmd.get "cmd" = .string "fw-start" then StartReply m else IsAck m

instance (cmd m : DataMap) : Decidable (Replies cmd m) := by
  unfold Replies IsAck
  split <;> infer_instance

/-- **What is expected of the device, in bytes**: it replies to each command
that it has read, and sends each message as one frame. -/
def Expected (c : Connection) (w : Wire) : WireEvent → Prop
  | .chooseFile contents => contents.length < 2 ^ 64
  | .reply m chunks => Encodes c.packages m chunks ∧ ∀ cmd ∈ w.commands.head?, Replies cmd m
  | .report m chunks => Encodes c.packages m chunks ∧ ¬ IsReply m
  | _ => True

instance (c : Connection) (w : Wire) (e : WireEvent) : Decidable (Expected c w e) := by
  unfold Expected
  split <;> infer_instance

variable {c : Connection} {float : UInt64 → List UInt8} {d : Dialog} {ch : Channel}
  {m : DataMap} {us cs as : List DataMap} {image bytes : List UInt8} {size last k : ℕ}

/-! ### Commands -/

/-- **The packets of a call**: the device reads the command from the last one. -/
lemma rest_packetsOf (hhex : StandardHex c.packages) (hcobs : StandardCobs c.packages)
    (hm : CborInverse c.packages m) (hmtu : bleAttHeaderBytes < c.mtu) :
    (⟨[], packetsOf c.packages c.mtu m⟩ : Channel).Rest c.packages m := by
  have henc := encoder_eq hhex hcobs.inverse m
  obtain ⟨packets, last, hrun, hcut⟩ := writePackets_run henc (by simp [frame]) hmtu
  have hpackets : packetsOf c.packages c.mtu m = packets ++ [last] :=
    Effect.finalState_of_ok (Effect.run_catchException_of_ok hrun)
  rw [Channel.Rest, hpackets]
  refine ⟨by simp, ?_⟩
  rw [List.dropLast_concat]
  exact feed_packets hhex hcobs.inverse hm hcut

/-- The call of `startFwUpload`. -/
lemma commandPackets_start (hhex : StandardHex c.packages) (hcobs : StandardCobs c.packages)
    (hcbor : StandardCbor c.packages float) (hmtu : bleAttHeaderBytes < c.mtu) :
    ∃ m : DataMap, m.get "cmd" = .string "fw-start" ∧
      (⟨[], commandPackets c .startFwUpload⟩ : Channel).Rest c.packages m := by
  obtain ⟨m, hcall, hentries⟩ : ∃ m : DataMap, Command.call .startFwUpload (some c.deviceId) =
      .ok (some (c.deviceId, m)) ∧ m.entries = [(.string "cmd", .string "fw-start")] :=
    ⟨_, rfl, rfl⟩
  have hplain : m.Plain := by
    refine ⟨by rw [hentries]; exact (by decide : 1 < 2 ^ 64), ?_⟩
    rw [hentries]
    simp only [List.forall_mem_cons]
    exact ⟨⟨by decide, by decide⟩, by simp⟩
  refine ⟨m, ?_, ?_⟩
  · rw [DataMap.get, hentries]
    rfl
  · rw [commandPackets, hcall]
    exact rest_packetsOf hhex hcobs (hcbor.inverse m hplain) hmtu

/-- A message that carries a block. -/
def IsBlock (data : List UInt8) (m : DataMap) : Prop :=
  m.get "cmd" = .string "fw-block" ∧ m.get "data" = .bytes data

/-- The call of `sendFwData`. -/
lemma commandPackets_block (hhex : StandardHex c.packages) (hcobs : StandardCobs c.packages)
    (hcbor : StandardCbor c.packages float) (hmtu : bleAttHeaderBytes < c.mtu)
    {data : List UInt8} (hdata : data.length < 2 ^ 64) :
    ∃ m, IsBlock data m ∧ (⟨[], commandPackets c (.sendFwData data)⟩ : Channel).Rest c.packages m := by
  obtain ⟨m, hcall, hentries⟩ : ∃ m : DataMap, Command.call (.sendFwData data)
      (some c.deviceId) = .ok (some (c.deviceId, m)) ∧
        m.entries = [(.string "cmd", .string "fw-block"), (.string "data", .bytes data)] :=
    ⟨_, rfl, rfl⟩
  have hplain : m.Plain := by
    refine ⟨by rw [hentries]; exact (by decide : 2 < 2 ^ 64), ?_⟩
    rw [hentries]
    simp only [List.forall_mem_cons]
    exact ⟨⟨by decide, by decide⟩, ⟨by decide, hdata⟩, by simp⟩
  refine ⟨m, ⟨?_, ?_⟩, ?_⟩
  · rw [DataMap.get, hentries]
    rfl
  · rw [DataMap.get, hentries]
    rfl
  · rw [commandPackets, hcall]
    exact rest_packetsOf hhex hcobs (hcbor.inverse m hplain) hmtu

/-- A block is appended to the image. -/
lemma store_block {data : List UInt8} (h : IsBlock data m) :
    store image m = image ++ data := by
  rw [store, if_neg (by rw [h.1]; decide), h.2]

/-! ### How far the upload has come -/

/-- A command that satisfies `Q`, or a reply to it that satisfies `R`, is all
that is on the way; the flag tells whether the device has read the command. -/
inductive OnWay (pkg : Packages) (Q R : DataMap → Prop) :
    Channel → List DataMap → List DataMap → Bool → Prop
  | unread {m : DataMap} {ch : Channel} (hm : Q m) (hch : ch.Rest pkg m) :
      OnWay pkg Q R ch [] [] false
  | unanswered {m : DataMap} (hm : Q m) : OnWay pkg Q R {} [m] [] true
  | replied {m : DataMap} (hm : R m) : OnWay pkg Q R {} [] [m] true

/-- Nothing has been sent to the device but `fw-start`. -/
structure Fresh (d : Dialog) : Prop where
  fwBlocksWritten : d.fwBlocksWritten = 0
  uploadComplete : d.uploadComplete = false
  payloads : payloads d.commands = []

/-- The file has been chosen; it may still be loading. -/
structure Chosen (d : Dialog) (bytes : List UInt8) : Prop where
  uploadInProgress : d.uploadInProgress = true
  fwFile : d.fwFile = some bytes
  fwBytes : d.fwBytes = none ∨ d.fwBytes = some bytes
  length_lt : bytes.length < 2 ^ 64

/-- **How far the upload has come**: the dialog, the command on the way to the
device, the one that it has read, the reply, and the image in the device. -/
inductive Phase (pkg : Packages) :
    Dialog → Channel → List DataMap → List DataMap → List UInt8 → Prop
  | idle {d : Dialog} (hfresh : Fresh d) (hprogress : d.uploadInProgress = false)
      (hfile : d.fwFile = none) (hbytes : d.fwBytes = none) : Phase pkg d {} [] [] []
  | starting {d : Dialog} {bytes : List UInt8} {ch : Channel} {cs as : List DataMap} {read : Bool}
      (hfresh : Fresh d) (hchosen : Chosen d bytes)
      (hway : OnWay pkg (fun m => m.get "cmd" = .string "fw-start") StartReply ch cs as read) :
      Phase pkg d ch cs as []
  /-- the first block was out of the range of the image, or the image not loaded -/
  | failed {d : Dialog} {bytes : List UInt8} (hfresh : Fresh d) (hchosen : Chosen d bytes) :
      Phase pkg d {} [] [] []
  | sending {d : Dialog} {bytes : List UInt8} {size last k : ℕ} {ch : Channel}
      {cs as : List DataMap} {read : Bool} (hchosen : Chosen d bytes)
      (hsent : Sent d bytes size last k) (hk : k ≤ last)
      (hway : OnWay pkg (IsBlock ((bytes.drop (size * k)).take size)) IsAck ch cs as read) :
      Phase pkg d ch cs as (bytes.take (size * if read then k + 1 else k))
  | complete {d : Dialog} {bytes : List UInt8} {size last : ℕ} (hchosen : Chosen d bytes)
      (hsent : Sent d bytes size last (last + 1)) : Phase pkg d {} [] [] bytes

variable {pkg : Packages} {Q R : DataMap → Prop} {read : Bool}

/-- The device reads a packet. -/
lemma OnWay.receive (h : OnWay pkg Q R ch cs as read) :
    ((ch.read pkg).2 = [] ∧ OnWay pkg Q R (ch.read pkg).1 cs as read) ∨
      ∃ m, Q m ∧ ch.read pkg = ({}, [m]) ∧ cs = [] ∧ as = [] ∧ read = false := by
  cases h with
  | unread hm hch =>
      rcases hch.read with ⟨-, hlast⟩ | ⟨hnone, hrest⟩
      · exact Or.inr ⟨_, hm, hlast, rfl, rfl, rfl⟩
      · exact Or.inl ⟨hnone, .unread hm hrest⟩
  | unanswered hm => exact Or.inl ⟨rfl, .unanswered hm⟩
  | replied hm => exact Or.inl ⟨rfl, .replied hm⟩

/-- **The device reads a packet**, perhaps the last one of the command. -/
lemma Phase.receive (h : Phase pkg d ch cs as image) :
    Phase pkg d (ch.read pkg).1 (cs ++ (ch.read pkg).2) as
      ((ch.read pkg).2.foldl store image) := by
  cases h with
  | idle hfresh hprogress hfile hbytes => exact .idle hfresh hprogress hfile hbytes
  | failed hfresh hchosen => exact .failed hfresh hchosen
  | complete hchosen hsent => exact .complete hchosen hsent
  | starting hfresh hchosen hway =>
      rcases hway.receive with ⟨hnone, hway⟩ | ⟨m, hm, hread, rfl, rfl, rfl⟩
      · rw [hnone, List.append_nil]
        exact .starting hfresh hchosen hway
      · have hclear : store [] m = [] := if_pos hm
        rw [hread, List.foldl_cons, List.foldl_nil, hclear]
        exact .starting hfresh hchosen (.unanswered hm)
  | sending hchosen hsent hk hway =>
      rcases hway.receive with ⟨hnone, hway⟩ | ⟨m, hm, hread, rfl, rfl, rfl⟩
      · rw [hnone, List.append_nil]
        exact .sending hchosen hsent hk hway
      · rw [hread, List.foldl_cons, List.foldl_nil, store_block hm, if_neg Bool.false_ne_true,
          ← List.take_add, ← Nat.mul_succ]
        exact .sending hchosen hsent hk (.unanswered hm)

/-- **The device replies** to the command that it has read. -/
lemma Phase.reply {cmd : DataMap} (h : Phase pkg d ch (cmd :: cs) as image)
    (hm : Replies cmd m) : Phase pkg d ch cs (as ++ [m]) image := by
  cases h with
  | starting hfresh hchosen hway =>
      cases hway with
      | unanswered hcmd => exact .starting hfresh hchosen (.replied (by rwa [Replies, if_pos hcmd] at hm))
  | sending hchosen hsent hk hway =>
      cases hway with
      | unanswered hcmd =>
          rw [Replies, if_neg (by rw [hcmd.1]; decide)] at hm
          exact .sending hchosen hsent hk (.replied hm)

/-! ### The dialog during the upload -/

lemma sentBy_eq {p : Platform} {e : Event} {cmds : List Command}
    (h : (step p d e).commands = d.commands ++ cmds) : sentBy p d e = cmds := by
  rw [sentBy, h, List.drop_left]

/-- The texts of the snack bars are of no account. -/
lemma Phase.snackBars (h : Phase pkg d ch cs as image) (bars : List String) :
    Phase pkg { d with snackBars := bars } ch cs as image := by
  cases h with
  | idle hfresh hprogress hfile hbytes =>
      exact .idle ⟨hfresh.1, hfresh.2, hfresh.3⟩ hprogress hfile hbytes
  | starting hfresh hchosen hway =>
      exact .starting ⟨hfresh.1, hfresh.2, hfresh.3⟩
        ⟨hchosen.1, hchosen.2, hchosen.3, hchosen.4⟩ hway
  | failed hfresh hchosen =>
      exact .failed ⟨hfresh.1, hfresh.2, hfresh.3⟩ ⟨hchosen.1, hchosen.2, hchosen.3, hchosen.4⟩
  | sending hchosen hsent hk hway =>
      have hlay := hsent.layout
      exact .sending ⟨hchosen.1, hchosen.2, hchosen.3, hchosen.4⟩
        ⟨⟨hlay.1, hlay.2, hlay.3, hlay.4, hlay.5⟩, hsent.2, hsent.3, hsent.4⟩ hk hway
  | complete hchosen hsent =>
      have hlay := hsent.layout
      exact .complete ⟨hchosen.1, hchosen.2, hchosen.3, hchosen.4⟩
        ⟨⟨hlay.1, hlay.2, hlay.3, hlay.4, hlay.5⟩, hsent.2, hsent.3, hsent.4⟩

/-- The file has been loaded, perhaps after the first block was due. -/
lemma Phase.fileRead (h : Phase pkg d ch cs as image) :
    Phase pkg { d with fwBytes := d.fwFile } ch cs as image := by
  cases h with
  | idle hfresh hprogress hfile hbytes =>
      exact .idle ⟨hfresh.1, hfresh.2, hfresh.3⟩ hprogress hfile hfile
  | starting hfresh hchosen hway =>
      exact .starting ⟨hfresh.1, hfresh.2, hfresh.3⟩
        ⟨hchosen.1, hchosen.2, Or.inr hchosen.2, hchosen.4⟩ hway
  | failed hfresh hchosen =>
      exact .failed ⟨hfresh.1, hfresh.2, hfresh.3⟩
        ⟨hchosen.1, hchosen.2, Or.inr hchosen.2, hchosen.4⟩
  | sending hchosen hsent hk hway =>
      have hlay := hsent.layout
      exact .sending ⟨hchosen.1, hchosen.2, Or.inr hchosen.2, hchosen.4⟩
        ⟨⟨hchosen.2, hlay.2, hlay.3, hlay.4, hlay.5⟩, hsent.2, hsent.3, hsent.4⟩ hk hway
  | complete hchosen hsent =>
      have hlay := hsent.layout
      exact .complete ⟨hchosen.1, hchosen.2, Or.inr hchosen.2, hchosen.4⟩
        ⟨⟨hchosen.2, hlay.2, hlay.3, hlay.4, hlay.5⟩, hsent.2, hsent.3, hsent.4⟩

/-- What an event of the dialog comes to: nothing is sent, or one command when
nothing else is on the way to the device. -/
def Reacts (c : Connection) (d : Dialog) (e : Event) (ch : Channel) (cs as : List DataMap)
    (image : List UInt8) : Prop :=
  (sentBy c.platform d e = [] ∧ Phase c.packages (step c.platform d e) ch cs as image) ∨
    ch = {} ∧ ∃ cmd, sentBy c.platform d e = [cmd] ∧ commandPackets c cmd ≠ [] ∧
      Phase c.packages (step c.platform d e) ⟨[], commandPackets c cmd⟩ cs as image

/-- **A file is chosen**, which asks the device to start. -/
lemma Phase.chooseFile (hhex : StandardHex c.packages) (hcobs : StandardCobs c.packages)
    (hcbor : StandardCbor c.packages float) (hmtu : bleAttHeaderBytes < c.mtu)
    (h : Phase c.packages d ch cs as image) (hlen : bytes.length < 2 ^ 64) :
    Reacts c d (.chooseFile bytes) ch cs as image := by
  have hbusy : d.uploadInProgress = true → Reacts c d (.chooseFile bytes) ch cs as image := by
    intro hprogress
    have hsame : step c.platform d (.chooseFile bytes) = d := if_pos hprogress
    refine Or.inl ⟨sentBy_eq (by rw [hsame, List.append_nil]), ?_⟩
    rw [hsame]
    exact h
  cases h with
  | idle hfresh hprogress hfile hbytes =>
      obtain ⟨m, hm, hrest⟩ := commandPackets_start hhex hcobs hcbor hmtu
      have hstep : step c.platform d (.chooseFile bytes) = { d with
          fwFile := some bytes
          commands := d.commands ++ [.startFwUpload]
          uploadInProgress := true } := if_neg (by rw [hprogress]; simp)
      refine Or.inr ⟨rfl, .startFwUpload, sentBy_eq (by rw [hstep]), hrest.1, ?_⟩
      rw [hstep]
      refine .starting ⟨hfresh.1, hfresh.2, ?_⟩ ⟨rfl, rfl, Or.inl hbytes, hlen⟩
        (.unread hm hrest)
      rw [payloads_append, hfresh.payloads]
      rfl
  | starting hfresh hchosen hway => exact hbusy hchosen.uploadInProgress
  | failed hfresh hchosen => exact hbusy hchosen.uploadInProgress
  | sending hchosen hsent hk hway => exact hbusy hchosen.uploadInProgress
  | complete hchosen hsent => exact hbusy hchosen.uploadInProgress

/-- A message that is no reply shows a snack bar, at most. -/
lemma Phase.other (h : Phase c.packages d ch cs as image) (hm : ¬ IsReply m) :
    Reacts c d (.response m) ch cs as image := by
  obtain ⟨hstart, hack⟩ := not_or.mp hm
  obtain ⟨bars, hbars⟩ : ∃ bars, step c.platform d (.response m) =
      { d with snackBars := bars } := by
    rw [step, responseListener, if_neg hstart, if_neg hack]
    split_ifs with hschedule
    · rw [fwSchedule]
      split_ifs with herror
      · exact ⟨_, rfl⟩
      · exact ⟨d.snackBars, rfl⟩
    · exact ⟨d.snackBars, rfl⟩
  refine Or.inl ⟨sentBy_eq (by rw [hbars, List.append_nil]), ?_⟩
  rw [hbars]
  exact h.snackBars bars

/-- The first payload is the first block, if it fits the image. -/
lemma firstPayload_eq (hsize : 1 ≤ size) :
    firstPayload bytes size = if size ≤ bytes.length then some (bytes.take size) else none := by
  rw [firstPayload, if_neg (by omega)]
  split_ifs with hfit
  · have hrange := getRange_ok (Nat.zero_le size) hfit
    rw [Nat.cast_zero, List.drop_zero, Nat.sub_zero] at hrange
    rw [hrange]
    rfl
  · rw [getRange, if_neg (by omega)]
    rfl

/-- **The reply to `fw-start`** leads to the first block, if the image is loaded
and no shorter than the block. -/
lemma Phase.started (hhex : StandardHex c.packages) (hcobs : StandardCobs c.packages)
    (hcbor : StandardCbor c.packages float) (hmtu : bleAttHeaderBytes < c.mtu)
    (hfresh : Fresh d) (hchosen : Chosen d bytes) (hm : StartReply m) :
    Reacts c d (.response m) {} [] [] [] := by
  obtain ⟨hrsp, hsize⟩ := hm
  obtain ⟨size, hblock, hsize⟩ : ∃ size : ℕ, m.get "block-size" = .int size ∧ 1 ≤ size := by
    cases hblock : m.get "block-size" with
    | int n =>
        rw [hblock] at hsize
        exact ⟨n.toNat, by rw [Int.toNat_of_nonneg (by omega)], by omega⟩
    | _ =>
        rw [hblock] at hsize
        exact hsize.elim
  have hann : announced m = some (size : ℤ) := by
    rw [announced, hblock]
    rfl
  have hstep : step c.platform d (.response m) = (fwStart m).finalState d := by
    rw [step, responseListener_start hrsp]
  have hstate := fwStart_finalState d m
  rw [← hstep, hann] at hstate
  -- nothing can be sent
  have hfail : (d.fwBytes.bind fun bytes => firstPayload bytes size) = none →
      Reacts c d (.response m) {} [] [] [] := by
    intro hnone
    rw [Option.bind_some, Option.bind_some, hnone, Option.map_none, Option.toList_none,
      List.append_nil] at hstate
    refine Or.inl ⟨sentBy_eq (by rw [hstate, List.append_nil]), ?_⟩
    rw [hstate]
    exact .failed ⟨hfresh.1, hfresh.2, hfresh.3⟩ ⟨hchosen.1, hchosen.2, hchosen.3, hchosen.4⟩
  rcases hchosen.fwBytes with hbytes | hbytes
  · exact hfail (by rw [hbytes]; rfl)
  · by_cases hfit : size ≤ bytes.length
    · have hne : bytes ≠ [] := List.ne_nil_of_length_pos (by omega)
      have hloaded : Loaded d bytes := ⟨hbytes, hfresh.1, hfresh.2, hfresh.3⟩
      obtain ⟨last, -, -, hsent⟩ := sent_start hloaded ⟨hrsp, hblock⟩ hsize hne hfit
      rw [← hstep] at hsent
      have hlen : ((bytes.drop (size * 0)).take size).length < 2 ^ 64 :=
        lt_of_le_of_lt (by simp) hchosen.length_lt
      obtain ⟨b, hb, hrest⟩ := commandPackets_block hhex hcobs hcbor hmtu hlen
      rw [Option.bind_some, Option.bind_some, hbytes, Option.bind_some, Option.bind_some,
        firstPayload_eq hsize, if_pos hfit] at hstate
      refine Or.inr ⟨rfl, .sendFwData ((bytes.drop (size * 0)).take size), ?_, hrest.1, ?_⟩
      · exact sentBy_eq (by rw [hstate]; simp)
      · have hchosen' : Chosen (step c.platform d (.response m)) bytes := by
          rw [hstate]
          exact ⟨hchosen.1, hchosen.2, Or.inr rfl, hchosen.4⟩
        have hphase := Phase.sending hchosen' hsent (Nat.zero_le last) (.unread hb hrest)
        rw [if_neg Bool.false_ne_true, Nat.mul_zero, List.take_zero] at hphase
        exact hphase
    · exact hfail (by rw [hbytes, Option.bind_some, firstPayload_eq hsize, if_neg hfit])

/-- **The acknowledgement of a block** leads to the next one, or completes the
upload. -/
lemma Phase.acknowledged (hhex : StandardHex c.packages) (hcobs : StandardCobs c.packages)
    (hcbor : StandardCbor c.packages float) (hmtu : bleAttHeaderBytes < c.mtu)
    (hchosen : Chosen d bytes) (hsent : Sent d bytes size last k) (hk : k ≤ last) (hm : IsAck m) :
    Reacts c d (.response m) {} [] [] (bytes.take (size * (k + 1))) := by
  have hstep : step c.platform d (.response m) = fwBlock.finalState d := by
    rw [step, responseListener_ack hm]
  have hack := hsent.ack hk
  have hstate := fwBlock_finalState d
  rw [hsent.layout.nextPayload_eq, hsent.written] at hstate
  rw [← hstep] at hack hstate
  have hchosen' : Chosen (step c.platform d (.response m)) bytes := by
    rw [hstate]
    exact ⟨hchosen.1, hchosen.2, hchosen.3, hchosen.4⟩
  rcases Nat.lt_or_eq_of_le hk with hlt | rfl
  · have hlen : ((bytes.drop (size * (k + 1))).take size).length < 2 ^ 64 := by
      refine lt_of_le_of_lt ?_ hchosen.length_lt
      rw [List.length_take, List.length_drop]
      omega
    obtain ⟨b, hb, hrest⟩ := commandPackets_block hhex hcobs hcbor hmtu hlen
    rw [if_pos (by omega)] at hstate
    refine Or.inr ⟨rfl, .sendFwData ((bytes.drop (size * (k + 1))).take size), ?_, hrest.1, ?_⟩
    · exact sentBy_eq (by rw [hstate]; rfl)
    · have hphase := Phase.sending hchosen' hack (by omega) (.unread hb hrest)
      rw [if_neg Bool.false_ne_true] at hphase
      exact hphase
  · rw [if_neg (by omega)] at hstate
    refine Or.inl ⟨sentBy_eq (by rw [hstate]; rfl), ?_⟩
    rw [List.take_of_length_le hsent.layout.le]
    exact .complete hchosen' hack

/-- **A reply arrives**. -/
lemma Phase.response (hhex : StandardHex c.packages) (hcobs : StandardCobs c.packages)
    (hcbor : StandardCbor c.packages float) (hmtu : bleAttHeaderBytes < c.mtu)
    (h : Phase c.packages d ch cs (m :: as) image) : Reacts c d (.response m) ch cs as image := by
  cases h with
  | starting hfresh hchosen hway =>
      cases hway with
      | replied hm => exact Phase.started hhex hcobs hcbor hmtu hfresh hchosen hm
  | sending hchosen hsent hk hway =>
      cases hway with
      | replied hm => exact Phase.acknowledged hhex hcobs hcbor hmtu hchosen hsent hk hm

/-! ### The whole upload -/

variable {w : Wire}

/-- The replies that have not been heard. -/
def Wire.replies (c : Connection) (w : Wire) : List DataMap :=
  (w.inbox.channel.messages c.packages).filter IsReply

/-- **What holds during an upload**: one call at most is writing, and one
command or its reply at most is on the way. -/
structure Uploading (c : Connection) (w : Wire) : Prop where
  writes_le : w.writes.length ≤ 1
  writes_ne : ∀ packets ∈ w.writes, packets ≠ []
  listening : Listening c.packages w.inbox
  phase : Phase c.packages w.dialog (w.device.send w.writes.flatten) w.commands (w.replies c)
    w.image

/-- Where nothing is on the way to the device no call is writing. -/
lemma Uploading.quiet (h : Uploading c w) (hch : w.device.send w.writes.flatten = {}) :
    w.device = {} ∧ w.writes = [] := by
  have hraw : w.device.dataRaw = [] := congrArg Channel.dataRaw hch
  obtain ⟨hchunks, hflat⟩ := List.append_eq_nil_iff.mp (congrArg Channel.chunks hch)
  refine ⟨by rw [← hraw, ← hchunks], ?_⟩
  rw [List.flatten_eq_nil_iff] at hflat
  exact List.eq_nil_iff_forall_not_mem.mpr fun ps hps => h.writes_ne ps hps (hflat ps hps)

/-- The dialog takes a step. -/
lemma Uploading.react (h : Uploading c w) {e : Event} {inbox : Inbox}
    (hlistening : Listening c.packages inbox)
    (he : Reacts c w.dialog e (w.device.send w.writes.flatten) w.commands
      ((inbox.channel.messages c.packages).filter IsReply) w.image) :
    Uploading c (({ w with inbox := inbox } : Wire).react c e) := by
  rw [Wire.react]
  rcases he with ⟨hnone, hphase⟩ | ⟨hch, cmd, hcmd, hne, hphase⟩
  · rw [hnone, List.map_nil, List.append_nil]
    exact ⟨h.writes_le, h.writes_ne, hlistening, hphase⟩
  · obtain ⟨hdevice, hwrites⟩ := h.quiet hch
    rw [hcmd, hwrites, hdevice]
    refine ⟨le_rfl, ?_, hlistening, ?_⟩
    · intro ps hps
      rw [List.mem_singleton.mp hps]
      exact hne
    · dsimp only
      rw [List.map_singleton, List.nil_append, List.flatten_singleton]
      exact hphase

/-- The reply to a command is a reply. -/
lemma Replies.isReply {cmd : DataMap} (h : Replies cmd m) : IsReply m := by
  rw [Replies] at h
  split_ifs at h
  · exact Or.inl h.1
  · exact Or.inr h

/-- A call writes its next packet: nothing changes in what is on the way. -/
lemma Uploading.write (h : Uploading c w) (i : ℕ) : Uploading c (wireStep c w (.write i)) := by
  rw [wireStep]
  cases hwrite : w.writes[i]? with
  | none => exact h
  | some packets =>
      obtain ⟨hi, rfl⟩ := List.getElem?_eq_some_iff.mp hwrite
      obtain ⟨ps, hone⟩ := List.length_eq_one_iff.mp (show w.writes.length = 1 by
        have hle := h.writes_le
        omega)
      obtain rfl : i = 0 := by
        rw [hone, List.length_singleton] at hi
        omega
      have hphase := h.phase
      have hps := h.writes_ne ps (by rw [hone]; exact List.mem_singleton_self ps)
      obtain ⟨packet, packets, rfl⟩ := List.exists_cons_of_ne_nil hps
      simp only [hone, List.getElem_cons_zero]
      rw [hone, List.flatten_singleton] at hphase
      by_cases hlast : packets = []
      · rw [if_pos hlast]
        rw [hlast] at hphase
        refine ⟨Nat.zero_le 1, by simp, h.listening, ?_⟩
        rw [Channel.send, Channel.send, List.append_assoc]
        exact hphase
      · rw [if_neg hlast, List.set_cons_zero]
        refine ⟨le_rfl, by simpa using hlast, h.listening, ?_⟩
        dsimp only
        rw [List.flatten_singleton, Channel.send, Channel.send, List.append_assoc]
        exact hphase

/-- **One event** of an upload. -/
lemma Uploading.step (hhex : StandardHex c.packages) (hcobs : StandardCobs c.packages)
    (hcbor : StandardCbor c.packages float) (hmtu : bleAttHeaderBytes < c.mtu)
    (h : Uploading c w) {e : WireEvent} (he : Expected c w e) : Uploading c (wireStep c w e) := by
  have hphase := h.phase
  cases e with
  | chooseFile contents =>
      exact h.react h.listening (hphase.chooseFile hhex hcobs hcbor hmtu he)
  | fileRead =>
      exact h.react h.listening (Or.inl ⟨sentBy_eq (List.append_nil _).symm, hphase.fileRead⟩)
  | write i => exact h.write i
  | receive =>
      by_cases hchunks : w.device.chunks = []
      · have hread : w.device.read c.packages = (w.device, []) := Channel.read_nil hchunks
        have hsame : wireStep c w .receive = w := by
          rw [wireStep, hread]
          simp
        rw [hsame]
        exact h
      · have hreceive := hphase.receive
        rw [Channel.read_send hchunks] at hreceive
        exact ⟨h.writes_le, h.writes_ne, h.listening, hreceive⟩
  | reply m chunks =>
      obtain ⟨hencodes, hm⟩ := he
      obtain ⟨hlistening, hmessages⟩ := h.listening.send (hencodes.carries hhex hcobs.inverse)
      cases hcommands : w.commands with
      | nil =>
          rw [wireStep, hcommands]
          exact h
      | cons cmd commands =>
          rw [hcommands] at hphase hm
          have hreply := hphase.reply (hm cmd rfl)
          have hthis : [m].filter IsReply = [m] := by simp [(hm cmd rfl).isReply]
          rw [wireStep, hcommands]
          refine ⟨h.writes_le, h.writes_ne, hlistening, ?_⟩
          rw [Wire.replies]
          dsimp only
          rw [hmessages, List.filter_append, hthis]
          exact hreply
  | report m chunks =>
      obtain ⟨hencodes, hm⟩ := he
      obtain ⟨hlistening, hmessages⟩ := h.listening.send (hencodes.carries hhex hcobs.inverse)
      have hother : [m].filter IsReply = [] := by simp [hm]
      refine ⟨h.writes_le, h.writes_ne, hlistening, ?_⟩
      rw [Wire.replies]
      change Phase _ _ _ _ (((w.inbox.send chunks).channel.messages c.packages).filter IsReply) _
      rw [hmessages, List.filter_append, hother, List.append_nil]
      exact hphase
  | notify now =>
      have hlistening := (h.listening.notify c.platform now).1
      rw [Wire.replies] at hphase
      rw [wireStep, Wire.heard]
      rcases h.listening.heard_cases c.platform now with ⟨hnone, ms, hempty, hms⟩ | ⟨m, hone, hm⟩
      · have hother : ms.filter IsReply = [] := by
          rw [List.filter_eq_nil_iff]
          intro m hm
          rw [decide_eq_true_iff, IsReply, DataMap.get, hempty m hm]
          decide
        rw [hms, List.filter_append, hother, List.nil_append] at hphase
        rw [hnone]
        exact ⟨h.writes_le, h.writes_ne, hlistening, hphase⟩
      · rw [hone, List.foldl_cons, List.foldl_nil]
        rw [hm] at hphase
        by_cases hreply : IsReply m
        · rw [List.filter_cons_of_pos (by simpa using hreply)] at hphase
          exact h.react hlistening (hphase.response hhex hcobs hcbor hmtu)
        · rw [List.filter_cons_of_neg (by simpa using hreply)] at hphase
          exact h.react hlistening (hphase.other hreply)

/-- The state when the dialog is opened, with nothing on the way. -/
def wireStart (receiver : Receive.Receiver) : Wire := { inbox := { receiver := receiver } }

/-- Every state of a run satisfies `Uploading`. -/
lemma uploading_run (hhex : StandardHex c.packages) (hcobs : StandardCobs c.packages)
    (hcbor : StandardCbor c.packages float) (hmtu : bleAttHeaderBytes < c.mtu)
    {receiver : Receive.Receiver} (hraw : receiver.dataRaw = [])
    (hlive : receiver.link.liveNotifications.length = 1) {es : List WireEvent}
    (hes : Always (wireStep c) (Expected c) (wireStart receiver) es) :
    Uploading c (run (wireStep c) (wireStart receiver) es) := by
  have hstart : Uploading c (wireStart receiver) :=
    ⟨Nat.zero_le 1, by simp [wireStart], ⟨hlive, hraw⟩, .idle ⟨rfl, rfl, rfl⟩ rfl rfl rfl⟩
  exact (Throughout.of_step hstart (fun w e h he => h.step hhex hcobs hcbor hmtu he) hes).last

/-- Something is on the way as long as blocks are sent. -/
lemma OnWay.busy (h : OnWay pkg Q R ch cs as read) : ch.chunks ≠ [] ∨ cs ≠ [] ∨ as ≠ [] := by
  cases h with
  | unread hm hch => exact Or.inl hch.1
  | unanswered hm => exact Or.inr (Or.inl (List.cons_ne_nil _ _))
  | replied hm => exact Or.inr (Or.inr (List.cons_ne_nil _ _))

/-- What a phase says of the image, and of what is on the way. -/
lemma Phase.delivered (h : Phase pkg d ch cs as image) :
    image <+: d.fwFile.getD [] ∧ (d.uploadComplete = true → d.fwFile = some image) ∧
      (payloads d.commands ≠ [] → d.uploadComplete = false →
        ch.chunks ≠ [] ∨ cs ≠ [] ∨ as ≠ []) := by
  have hnot : d.uploadComplete = false → d.uploadComplete = true → d.fwFile = some image :=
    fun hfalse htrue => absurd htrue (ne_true_of_eq_false hfalse)
  cases h with
  | idle hfresh hprogress hfile hbytes =>
      exact ⟨List.nil_prefix, hnot hfresh.uploadComplete, fun hne => absurd hfresh.payloads hne⟩
  | starting hfresh hchosen hway =>
      exact ⟨List.nil_prefix, hnot hfresh.uploadComplete, fun hne => absurd hfresh.payloads hne⟩
  | failed hfresh hchosen =>
      exact ⟨List.nil_prefix, hnot hfresh.uploadComplete, fun hne => absurd hfresh.payloads hne⟩
  | sending hchosen hsent hk hway =>
      rw [hchosen.fwFile]
      refine ⟨List.take_prefix _ _, fun hdone => ?_, fun _ _ => hway.busy⟩
      have hall := hsent.complete.mp hdone
      omega
  | complete hchosen hsent =>
      rw [hchosen.fwFile]
      refine ⟨List.prefix_rfl, fun _ => rfl, fun _ hdone => ?_⟩
      exact absurd (hsent.complete.mpr rfl) (ne_true_of_eq_false hdone)

/-- **The image is delivered**: at every MTU, while the packets of the commands,
the reading of the device, its replies and other messages and their chunks follow
each other in whatever order, the device holds a prefix of the chosen file. When
the upload is complete it holds the whole file; once the first block has been
sent and until then, something is on the way. -/
theorem image_delivered (hhex : StandardHex c.packages) (hcobs : StandardCobs c.packages)
    (hcbor : StandardCbor c.packages float) (hmtu : bleAttHeaderBytes < c.mtu)
    {receiver : Receive.Receiver} (hraw : receiver.dataRaw = [])
    (hlive : receiver.link.liveNotifications.length = 1) {es : List WireEvent}
    (hes : Always (wireStep c) (Expected c) (wireStart receiver) es) :
    let w := run (wireStep c) (wireStart receiver) es
    w.image <+: w.dialog.fwFile.getD [] ∧
      (w.dialog.uploadComplete = true → w.dialog.fwFile = some w.image) ∧
      (payloads w.dialog.commands ≠ [] → w.dialog.uploadComplete = false →
        w.writes ≠ [] ∨ w.device.chunks ≠ [] ∨ w.commands ≠ [] ∨ w.inbox.chunks ≠ []) := by
  intro w
  have h : Uploading c w := uploading_run hhex hcobs hcbor hmtu hraw hlive hes
  obtain ⟨himage, hfile, hbusy⟩ := h.phase.delivered
  refine ⟨himage, hfile, fun hne hdone => ?_⟩
  have hway := hbusy hne hdone
  contrapose! hway
  obtain ⟨hwrites, hchunks, hcommands, hinbox⟩ := hway
  refine ⟨?_, hcommands, ?_⟩
  · rw [Channel.send, hwrites, hchunks]
    rfl
  · rw [Wire.replies, Inbox.channel, hinbox]
    rfl

/-- A connection with the smallest MTU of BLE. -/
def sampleConnection : Connection :=
  { platform := ⟨fun _ => "", fun _ _ => ""⟩, packages := cborPackages, deviceId := "A",
    sopepId := "SOPEP0000000001", mtu := 23 }

/-- A command in two packets, and the reply to it. -/
def exchange (m : DataMap) : List WireEvent :=
  [.write 0, .receive, .write 0, .receive, .reply m (packetsOf cborPackages 23 m)] ++
    (packetsOf cborPackages 23 m).map fun _ => .notify 0

/-- An image of six bytes in blocks of four. -/
def sampleUpload : List WireEvent :=
  [.chooseFile [1, 2, 3, 4, 5, 6], .fileRead] ++ exchange fwStartResponse ++
    exchange fwBlockResponse ++ exchange fwBlockResponse

/-- The state after it. -/
def uploaded : Wire := run (wireStep sampleConnection)
  (wireStart (Receive.enableNotification "A" "SOPEP0000000001" {})) sampleUpload

set_option maxRecDepth 20000 in
lemma expected_upload : Always (wireStep sampleConnection) (Expected sampleConnection)
    (wireStart (Receive.enableNotification "A" "SOPEP0000000001" {})) sampleUpload := by
  decide +kernel

set_option maxRecDepth 20000 in
theorem image_delivered_sample :
    uploaded.dialog.uploadComplete = true ∧ uploaded.dialog.fwFile = some uploaded.image := by
  have hdone : uploaded.dialog.uploadComplete = true := by decide +kernel
  have hroom : bleAttHeaderBytes < 23 := by decide
  exact ⟨hdone, (image_delivered (standardHex_reference _ _) (standardCobs_reference _ _)
    standardCbor_reference hroom rfl rfl expected_upload).2.1 hdone⟩

end SopepApp.Firmware
