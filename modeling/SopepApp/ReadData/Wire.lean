import SopepApp.Ble.Inbox
import SopepApp.Ble.OnePacket
import SopepApp.ReadData.Download

/-!
A whole download in bytes: the loop over the interactor and its codec, and the
packets and chunks between the app and the device.

* `Wire`, `wireStep`: a request is written as the packets of its command; what
  the device sends comes in chunks to the notification callback, and what that
  adds to the stream of responses comes to the loop;
* `Expected`: what is expected of the device, in bytes;
* `Refines`, `linkEvents`: a state in bytes and one of the link, and the events
  of the link that one in bytes stands for; `Refines.step`, `wire_run`;
* `wire_download_exact`: a download in bytes is exact.
-/

namespace SopepApp.ReadData

open Dart Transition Delimited Sections
open Receive (Inbox Listening)

/-- The packets of `widget.sopepInteractor.getData(seq)`. -/
def getDataPackets (c : Connection) (seq : ℤ) : List (List UInt8) :=
  match Commands.getData (some seq) (some c.deviceId) with
  | .ok (some write) => packetsOf c.packages c.mtu write.2
  | _ => []

/-- The loop, the interactor, the device, and the bytes on the way between
them. -/
structure Wire where
  loop : ReadLoop
  /-- the receive path of the interactor -/
  inbox : Inbox
  /-- the codec of the device -/
  device : Channel := {}
  /-- the requests that the device has read and not answered -/
  requests : List ℤ := []
  /-- the records of the device, the oldest first -/
  stored : List DataMap

/-- What happens during a download. -/
inductive WireEvent where
  /-- the device stores a record -/
  | store (record : DataMap)
  /-- the device reads the oldest packet -/
  | receive
  /-- the device answers the oldest request, in chunks -/
  | answer (m : DataMap) (chunks : List (List UInt8))
  /-- the device sends another message, in chunks -/
  | report (m : DataMap) (chunks : List (List UInt8))
  /-- the oldest chunk arrives, at the time `now` -/
  | notify (now : ℤ)
  /-- a delayed closure fires -/
  | delayedRequest

/-- The loop takes a step; what it sends is written. -/
def Wire.react (c : Connection) (w : Wire) (e : Event) : Wire :=
  { w with
    loop := step c.platform c.sopepId w.loop e
    device := w.device.send
      ((sentBy c.platform c.sopepId w.loop e).flatMap (getDataPackets c)) }

/-- The maps that are heard when the oldest chunk arrives. -/
def Wire.heard (c : Connection) (w : Wire) (now : ℤ) : List DataMap :=
  (w.inbox.notify c.platform c.packages now).2

/-- The number of a `read-data` command. -/
def requested (m : DataMap) : List ℤ :=
  if m.get "cmd" = .string "read-data" then (m.get "seq").toInt?.toList else []

/-- One event. -/
def wireStep (c : Connection) (w : Wire) : WireEvent → Wire
  | .store record => { w with stored := w.stored ++ [record] }
  | .receive =>
    let read := w.device.read c.packages
    { w with device := read.1, requests := w.requests ++ read.2.flatMap requested }
  | .answer _ chunks =>
    match w.requests with
    | [] => w
    | _ :: requests => { w with requests := requests, inbox := w.inbox.send chunks }
  | .report _ chunks => { w with inbox := w.inbox.send chunks }
  | .notify now =>
    (w.heard c now).foldl (fun w m => w.react c (.message m))
      { w with inbox := (w.inbox.notify c.platform c.packages now).1 }
  | .delayedRequest => w.react c .delayedRequest

/-- The state after `_getDataLoop(seqOldest)`, of which the first request is on
the way. -/
def wireStart (c : Connection) (receiver : Receive.Receiver) (seqOldest : ℤ)
    (stored : List DataMap) : Wire :=
  { loop := start seqOldest, inbox := { receiver := receiver },
    device := ({} : Channel).send ((start seqOldest).requests.flatMap (getDataPackets c)),
    stored := stored }

/-- **What is expected of the device, in bytes**: it stores records in order,
answers each request that it has read with the next record, if there is one,
and sends each message as one frame; its other messages are complete only while
a set is open. -/
def Expected (c : Connection) (seqOldest : ℤ) (w : Wire) : WireEvent → Prop
  | .store record => Journal seqOldest (w.stored ++ [record])
  | .receive => True
  | .answer m chunks => Encodes c.packages m chunks ∧
    ∀ seq ∈ w.requests.head?, Answer seqOldest w.stored seq m
  | .report m chunks => Encodes c.packages m chunks ∧ m.get "rsp" ≠ .string "read-data"
  | .notify now => ∀ m ∈ w.heard c now, m.get "rsp" ≠ .string "read-data" →
    w.loop.streamSubscriptionReadData = true → w.loop.startSetFound = true
  | .delayedRequest => True

instance (c : Connection) (seqOldest : ℤ) (w : Wire) (e : WireEvent) :
    Decidable (Expected c seqOldest w e) := by
  unfold Expected
  split <;> infer_instance

variable {c : Connection} {float : UInt64 → List UInt8} {seqOldest seq : ℤ}
  {stored : List DataMap} {w : Wire} {l : Link} {k : ℕ} {m : DataMap}

/-! ### Requests and answers -/

/-- **A request is one packet**, which is read as the number of the request. -/
lemma getDataPackets_eq (hhex : StandardHex c.packages) (hcobs : StandardCobs c.packages)
    (hcbor : StandardCbor c.packages float) (hmtu : 235 ≤ c.mtu) (hlow : -2 ^ 63 ≤ seq)
    (hhigh : seq < 2 ^ 63) : ∃ m, Carries c.packages m (getDataPackets c seq) ∧
      (getDataPackets c seq).length = 1 ∧ requested m = [seq] := by
  obtain ⟨data, hcall, hentries⟩ : ∃ data : DataMap,
      Commands.getData (some seq) (some c.deviceId) = .ok (some (c.deviceId, data)) ∧
        data.entries = [(.string "cmd", .string "read-data"), (.string "seq", .int seq)] :=
    ⟨_, rfl, rfl⟩
  have hplain : data.Plain := by
    refine ⟨by rw [hentries]; exact (by decide : 2 < 2 ^ 64), ?_⟩
    rw [hentries]
    simp only [List.forall_mem_cons]
    exact ⟨⟨by decide, by decide⟩, ⟨by decide, hlow, hhigh⟩, by simp⟩
  have hpackets : getDataPackets c seq = packetsOf c.packages c.mtu data := by
    rw [getDataPackets, hcall]
  have hdata : (Commands.Command.getData (some seq)).NoData := trivial
  have hsmall : Commands.Small data := Commands.call_small hdata (t := c.deviceId)
    (show (Commands.Command.getData (some seq)).call 0 (some c.deviceId) = _ from hcall)
  have hone := packetsOf_small hhex hcobs hcbor hplain hsmall hmtu
  have hroom : bleAttHeaderBytes < c.mtu := by
    rw [bleAttHeaderBytes]
    omega
  rw [hpackets]
  refine ⟨data, (feed_packetsOf hhex hcobs.inverse (hcbor.inverse data hplain) hroom).2,
    by rw [hone]; rfl, ?_⟩
  have hcmd : data.get "cmd" = .string "read-data" := by
    rw [DataMap.get, hentries]
    rfl
  have hseq : data.get "seq" = .int seq := by
    rw [DataMap.get, hentries]
    rfl
  rw [requested, if_pos hcmd, hseq]
  rfl

/-- Requests are sent. -/
lemma send_requests (hhex : StandardHex c.packages) (hcobs : StandardCobs c.packages)
    (hcbor : StandardCbor c.packages float) (hmtu : 235 ≤ c.mtu) {seqs : List ℤ} :
    ∀ {ch : Channel}, (∀ seq ∈ seqs, -2 ^ 63 ≤ seq ∧ seq < 2 ^ 63) → ch.Whole c.packages →
      (ch.send (seqs.flatMap (getDataPackets c))).Whole c.packages ∧
        ((ch.send (seqs.flatMap (getDataPackets c))).messages c.packages).flatMap requested =
          (ch.messages c.packages).flatMap requested ++ seqs := by
  induction seqs with
  | nil =>
      intro ch _ hwhole
      simp only [List.flatMap_nil, List.append_nil, Channel.send]
      exact ⟨hwhole, trivial⟩
  | cons seq seqs ih =>
      intro ch hrange hwhole
      obtain ⟨hlow, hhigh⟩ := hrange seq List.mem_cons_self
      obtain ⟨m, hm, -, hrequested⟩ := getDataPackets_eq hhex hcobs hcbor hmtu hlow hhigh
      obtain ⟨hsent, hmessages⟩ := hwhole.send hm
      have hrest := ih (fun seq hseq => hrange seq (List.mem_cons_of_mem _ hseq)) hsent
      rw [hmessages, List.flatMap_append, List.flatMap_singleton, hrequested, Channel.send,
        Channel.send] at hrest
      rw [List.flatMap_cons, Channel.send, ← List.append_assoc]
      simpa using hrest

/-- The answers of a device are `read-data` responses. -/
lemma Answer.rsp (h : Answer seqOldest stored seq m) (hstored : Journal seqOldest stored) :
    m.get "rsp" = .string "read-data" := by
  rw [Answer] at h
  split at h
  · next record hrecord =>
      rw [h]
      exact (hstored.numbered _ _ hrecord).1
  · exact h.1

/-- What the loop has sent and the device has not answered is an int. -/
lemma Synced.request_range {p : Platform} {sopepId : String} {Known : List DataMap → Prop}
    (h : Synced p sopepId seqOldest Known k l) (hseq : seq ∈ l.requests) :
    -2 ^ 63 ≤ seq ∧ seq < 2 ^ 63 := by
  obtain ⟨j, hj, rfl⟩ := h.requests seq hseq
  have hlow := h.journal.low
  have hhigh := h.journal.high
  have hle := h.le
  constructor <;> omega

/-! ### The two levels -/

/-- The events of the link that an event in bytes stands for. -/
def linkEvents (c : Connection) (w : Wire) : WireEvent → List LinkEvent
  | .store record => [.store record]
  | .receive => []
  | .answer m _ => if w.requests = [] then [] else [.answer m]
  | .report _ _ => []
  | .notify now => (w.heard c now).map fun m =>
    if m.get "rsp" = .string "read-data" then .deliver else .unrelated m
  | .delayedRequest => [.delayedRequest]

/-- The `read-data` responses on the way. -/
def Wire.responses (c : Connection) (w : Wire) : List DataMap :=
  (w.inbox.channel.messages c.packages).filter fun m => m.get "rsp" = .string "read-data"

/-- **A state in bytes and the state of the link that it stands for**: the
packets hold the requests that the device has not read, and the chunks hold the
responses, among other messages. -/
structure Refines (c : Connection) (w : Wire) (l : Link) : Prop where
  loop : w.loop = l.loop
  stored : w.stored = l.stored
  whole : w.device.Whole c.packages
  requests : l.requests = w.requests ++ (w.device.messages c.packages).flatMap requested
  listening : Listening c.packages w.inbox
  responses : l.responses = w.responses c

/-- **The loop takes the same step at both levels**, if what it sends is in the
range of an int. -/
lemma Refines.react (hhex : StandardHex c.packages) (hcobs : StandardCobs c.packages)
    (hcbor : StandardCbor c.packages float) (hmtu : 235 ≤ c.mtu) (h : Refines c w l) {e : Event}
    (hrange : ∀ seq ∈ (l.react c.platform c.sopepId e).requests, -2 ^ 63 ≤ seq ∧ seq < 2 ^ 63) :
    Refines c (w.react c e) (l.react c.platform c.sopepId e) := by
  rw [Link.react] at hrange
  obtain ⟨hwhole, hsent⟩ := send_requests hhex hcobs hcbor hmtu
    (fun seq hseq => hrange seq (List.mem_append_right _ hseq)) h.whole
  rw [Wire.react, Link.react, h.loop]
  refine ⟨rfl, h.stored, hwhole, ?_, h.listening, h.responses⟩
  dsimp only
  rw [hsent, h.requests, List.append_assoc]

/-- What the loop has sent after an event of a faithful device is an int. -/
lemma Synced.next_range {p : Platform} {sopepId : String} {Known : List DataMap → Prop}
    (h : Synced p sopepId seqOldest Known k l) {e : LinkEvent} (he : Faithful seqOldest l e) :
    ∀ seq ∈ (linkStep p sopepId l e).requests, -2 ^ 63 ≤ seq ∧ seq < 2 ^ 63 := by
  have hany := h.mono fun _ _ => trivial
  obtain ⟨k', h'⟩ := hany.step he (fun _ _ => trivial) fun _ _ _ => trivial
  exact fun seq hseq => h'.request_range hseq

/-- The receive path after the oldest chunk, before the loop hears of it. -/
lemma Refines.arrived (h : Refines c w l) (now : ℤ) {responses : List DataMap}
    (hresponses : responses =
      ((w.inbox.notify c.platform c.packages now).1.channel.messages c.packages).filter
        fun m => m.get "rsp" = .string "read-data") :
    Refines c { w with inbox := (w.inbox.notify c.platform c.packages now).1 }
      { l with responses := responses } :=
  ⟨h.loop, h.stored, h.whole, h.requests, (h.listening.notify c.platform now).1, hresponses⟩

lemma rsp_of_empty (hm : m.entries = []) : m.get "rsp" ≠ .string "read-data" := by
  rw [DataMap.get, hm]
  exact Value.noConfusion

/-- **A chunk arrives**: what is heard reaches the loop at both levels. -/
lemma Refines.notify (hhex : StandardHex c.packages) (hcobs : StandardCobs c.packages)
    (hcbor : StandardCbor c.packages float) (hmtu : 235 ≤ c.mtu) (h : Refines c w l)
    {Known : List DataMap → Prop} (hsynced : Synced c.platform c.sopepId seqOldest Known k l)
    {now : ℤ} (he : Expected c seqOldest w (.notify now)) :
    Always (linkStep c.platform c.sopepId) (Faithful seqOldest) l
        (linkEvents c w (.notify now)) ∧
      Refines c (wireStep c w (.notify now))
        (run (linkStep c.platform c.sopepId) l (linkEvents c w (.notify now))) := by
  have hresponses := h.responses
  rw [Expected] at he
  rw [linkEvents, wireStep]
  rw [Wire.responses] at hresponses
  rw [Wire.heard] at he ⊢
  rcases h.listening.heard_cases c.platform now with ⟨hnone, ms, hempty, hms⟩ | ⟨m, hone, hm⟩
  · have hother : ms.filter (fun m => m.get "rsp" = .string "read-data") = [] := by
      rw [List.filter_eq_nil_iff]
      exact fun m hm => by simpa using rsp_of_empty (hempty m hm)
    rw [hms, List.filter_append, hother] at hresponses
    rw [hnone]
    exact ⟨Always.nil, h.arrived now hresponses⟩
  · rw [hm, ← List.singleton_append, List.filter_append] at hresponses
    rw [hone] at he ⊢
    rw [List.map_singleton, always_singleton, run_cons, run_nil]
    by_cases hrsp : m.get "rsp" = .string "read-data"
    · have hthis : [m].filter (fun m => m.get "rsp" = .string "read-data") = [m] := by simp [hrsp]
      rw [hthis] at hresponses
      have hfaithful : Faithful seqOldest l .deliver := trivial
      have hrange := hsynced.next_range hfaithful
      rw [linkStep, hresponses] at hrange
      rw [if_pos hrsp, linkStep, hresponses]
      exact ⟨trivial, (h.arrived now rfl).react hhex hcobs hcbor hmtu hrange⟩
    · have hother : [m].filter (fun m => m.get "rsp" = .string "read-data") = [] := by simp [hrsp]
      rw [hother] at hresponses
      have hfaithful : Faithful seqOldest l (.unrelated m) := by
        refine ⟨hrsp, fun hsub => ?_⟩
        rw [← h.loop] at hsub ⊢
        exact he m (List.mem_singleton_self m) hrsp hsub
      rw [if_neg hrsp]
      exact ⟨hfaithful, (h.arrived now hresponses).react hhex hcobs hcbor hmtu
        (hsynced.next_range hfaithful)⟩

/-- **One event in bytes** is matched by the events of the link that it stands
for. -/
lemma Refines.step (hhex : StandardHex c.packages) (hcobs : StandardCobs c.packages)
    (hcbor : StandardCbor c.packages float) (hmtu : 235 ≤ c.mtu) (h : Refines c w l)
    {Known : List DataMap → Prop} (hsynced : Synced c.platform c.sopepId seqOldest Known k l)
    {e : WireEvent} (he : Expected c seqOldest w e) :
    Always (linkStep c.platform c.sopepId) (Faithful seqOldest) l (linkEvents c w e) ∧
      Refines c (wireStep c w e)
        (run (linkStep c.platform c.sopepId) l (linkEvents c w e)) := by
  cases e with
  | store record =>
      have hrecord : Journal seqOldest (w.stored ++ [record]) := he
      rw [linkEvents, always_singleton, run_cons, run_nil, linkStep, wireStep, Faithful, ← h.stored]
      exact ⟨hrecord, h.loop, rfl, h.whole, h.requests, h.listening, h.responses⟩
  | receive =>
      refine ⟨Always.nil, h.loop, h.stored, h.whole.read, ?_, h.listening, h.responses⟩
      change l.requests = (w.requests ++ (w.device.read c.packages).2.flatMap requested) ++
        ((w.device.read c.packages).1.messages c.packages).flatMap requested
      rw [h.requests, w.device.messages_read, List.flatMap_append, List.append_assoc]
  | answer m chunks =>
      obtain ⟨hencodes, hm⟩ := he
      have hrequests := h.requests
      cases hread : w.requests with
      | nil =>
          rw [linkEvents, if_pos hread, wireStep, hread]
          exact ⟨Always.nil, h⟩
      | cons seq requests =>
          rw [hread] at hm hrequests
          have hanswer := hm seq rfl
          rw [h.stored] at hanswer
          obtain ⟨hlistening, hmessages⟩ := h.listening.send (hencodes.carries hhex hcobs.inverse)
          have hrsp : [m].filter (fun m => m.get "rsp" = .string "read-data") = [m] := by
            simp [hanswer.rsp hsynced.journal]
          have hresponses : l.responses ++ [m] = ((w.inbox.send chunks).channel.messages
              c.packages).filter fun m => m.get "rsp" = .string "read-data" := by
            rw [hmessages, List.filter_append, hrsp, h.responses, Wire.responses]
          have hfaithful : Faithful seqOldest l (.answer m) := by
            intro seq' hseq'
            rw [hrequests] at hseq'
            obtain rfl := Option.some.inj hseq'
            exact hanswer
          rw [linkEvents, if_neg (by simp [hread]), always_singleton, run_cons, run_nil, linkStep,
            hrequests, wireStep, hread]
          exact ⟨hfaithful, h.loop, h.stored, h.whole, rfl, hlistening, hresponses⟩
  | report m chunks =>
      obtain ⟨hencodes, hrsp⟩ := he
      obtain ⟨hlistening, hmessages⟩ := h.listening.send (hencodes.carries hhex hcobs.inverse)
      have hother : [m].filter (fun m => m.get "rsp" = .string "read-data") = [] := by simp [hrsp]
      refine ⟨Always.nil, h.loop, h.stored, h.whole, h.requests, hlistening, ?_⟩
      change l.responses = ((w.inbox.send chunks).channel.messages c.packages).filter _
      rw [hmessages, List.filter_append, hother, List.append_nil, h.responses, Wire.responses]
  | notify now => exact h.notify hhex hcobs hcbor hmtu hsynced he
  | delayedRequest =>
      have hfaithful : Faithful seqOldest l .delayedRequest := trivial
      rw [linkEvents, always_singleton, run_cons, run_nil]
      exact ⟨hfaithful, h.react hhex hcobs hcbor hmtu (hsynced.next_range hfaithful)⟩

/-! ### The whole download -/

/-- A connection with the largest MTU. -/
def sampleConnection : Connection :=
  { platform := samplePlatform, packages := cborPackages, deviceId := "A",
    sopepId := "SOPEP0000000001", mtu := mtuSizeMax }

/-- The device reads a request and answers it in chunks of 57 bytes. -/
def exchange (m : DataMap) : List WireEvent :=
  [.receive, .answer m (packetsOf cborPackages 60 m)] ++
    (packetsOf cborPackages 60 m).map fun _ => .notify 0

end SopepApp.ReadData
