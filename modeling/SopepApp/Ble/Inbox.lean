import SopepApp.Ble.Receive
import SopepApp.Codec.Channel

/-!
A connection, and its receive path with the chunks on the way to it.

* `Connection`: what does not change while a device is connected;
* `Inbox`, `Inbox.notify`: the oldest chunk arrives, and the maps of the
  responses that it adds to the stream are heard;
* `Listening.notify`: with one subscription, what is heard is what the codec
  reads from the chunks, an empty map apart.
-/

namespace SopepApp

open Dart

/-- The interactors while a device is connected: the packages, the device of the
characteristic, and the MTU. -/
structure Connection where
  platform : Platform
  packages : Packages
  deviceId : String
  sopepId : String
  mtu : ℤ

namespace Receive

variable {p : Platform} {pkg : Packages}

/-- The receive path and the chunks that have not arrived. -/
structure Inbox where
  receiver : Receiver
  chunks : List (List UInt8) := []

/-- The codec with the chunks on the way to it. -/
def Inbox.channel (i : Inbox) : Channel := ⟨i.receiver.dataRaw, i.chunks⟩

/-- The device notifies chunks. -/
def Inbox.send (i : Inbox) (chunks : List (List UInt8)) : Inbox :=
  { i with chunks := i.chunks ++ chunks }

/-- The oldest chunk arrives, at the time `now`: the receive path after it, and
the maps of the responses that are added to the stream. -/
def Inbox.notify (p : Platform) (pkg : Packages) (now : ℤ) (i : Inbox) : Inbox × List DataMap :=
  match i.chunks with
  | [] => (i, [])
  | chunk :: chunks =>
    (⟨step p pkg i.receiver (.data now chunk), chunks⟩,
      (added p pkg i.receiver (.data now chunk)).filterMap ResponseData.dataMap)

/-- There is one subscription, and what the device has sent is whole. -/
structure Listening (pkg : Packages) (i : Inbox) : Prop where
  live : i.receiver.link.liveNotifications.length = 1
  whole : i.channel.Whole pkg

variable {i : Inbox}

/-- The chunks of a message are sent. -/
lemma Listening.send (h : Listening pkg i) {m : DataMap} {chunks : List (List UInt8)}
    (hm : Carries pkg m chunks) : Listening pkg (i.send chunks) ∧
      (i.send chunks).channel.messages pkg = i.channel.messages pkg ++ [m] :=
  ⟨⟨h.live, (h.whole.send hm).1⟩, (h.whole.send hm).2⟩

/-- The bytes that `accept` keeps are those on the stack of the codec. -/
lemma accept_raw (q : Pending) (data : List UInt8) :
    (accept pkg q data).raw = (decoder pkg data).finalState q.raw := by
  rw [accept, Effect.finalState]
  cases (decoder pkg data).run q.raw with
  | error e raw => rfl
  | ok r raw =>
      cases r with
      | none => rfl
      | some m =>
          change (if m.entries = [] then _ else _ : Pending).raw = raw
          split_ifs <;> rfl

/-- The messages that `delivers` names are those of the codec, an empty map
apart. -/
lemma delivers_maps (q : Pending) (data : List UInt8) :
    (delivers pkg q data).filterMap Prod.fst =
      (delivered [(decoder pkg data).outcome q.raw]).filter fun m => m.entries ≠ [] := by
  rw [delivers, Effect.outcome]
  cases (decoder pkg data).run q.raw with
  | error e raw => rfl
  | ok r raw =>
      cases r with
      | none => rfl
      | some m =>
          by_cases hm : m.entries = []
          · simp [delivered, hm]
          · simp [delivered, hm]

/-- **What is heard at a chunk** is what the codec reads from it, an empty map
apart. -/
theorem Listening.notify (h : Listening pkg i) (p : Platform) (now : ℤ) :
    Listening pkg (i.notify p pkg now).1 ∧
      (i.notify p pkg now).1.channel = (i.channel.read pkg).1 ∧
      (i.notify p pkg now).2 = (i.channel.read pkg).2.filter fun m => m.entries ≠ [] := by
  have hwhole := h.whole.read
  cases hchunks : i.chunks with
  | nil =>
      rw [Inbox.notify, hchunks, Channel.read_nil (show i.channel.chunks = [] from hchunks)]
      exact ⟨h, rfl, rfl⟩
  | cons chunk chunks =>
      obtain ⟨n, hlive⟩ := List.length_eq_one_iff.mp h.live
      obtain ⟨hpending, hlink, rs, hrs, hdelivery⟩ :=
        pending_notification (p := p) i.receiver now chunk
      have hstep : step p pkg i.receiver (.data now chunk) = _ := step_data hlive (now, chunk)
      rw [← hstep] at hpending hlink hrs
      have hadded : added p pkg i.receiver (.data now chunk) = rs := by
        rw [added, hrs, List.drop_left]
      have hmaps : rs.filterMap ResponseData.dataMap =
          (delivers pkg i.receiver.pending chunk).filterMap Prod.fst := by
        rw [← hdelivery, List.filterMap_map]
        rfl
      have hraw : (step p pkg i.receiver (.data now chunk)).dataRaw =
          (decoder pkg chunk).finalState i.receiver.dataRaw :=
        (congrArg Pending.raw hpending).trans (accept_raw _ _)
      have hread : i.channel.read pkg = _ := Channel.read_cons hchunks
      have hchannel : (⟨step p pkg i.receiver (.data now chunk), chunks⟩ : Inbox).channel =
          (i.channel.read pkg).1 := by
        rw [hread, Inbox.channel, hraw]
        rfl
      rw [Inbox.notify, hchunks]
      refine ⟨⟨hlink ▸ h.live, ?_⟩, hchannel, ?_⟩
      · rw [hchannel]
        exact hwhole
      · dsimp only
        rw [hadded, hmaps, delivers_maps, hread]
        rfl

/-- At most one message is heard at a chunk. -/
lemma Listening.heard_cases (h : Listening pkg i) (p : Platform) (now : ℤ) :
    ((i.notify p pkg now).2 = [] ∧ ∃ ms, (∀ m ∈ ms, m.entries = []) ∧
        i.channel.messages pkg = ms ++ (i.notify p pkg now).1.channel.messages pkg) ∨
      ∃ m, (i.notify p pkg now).2 = [m] ∧
        i.channel.messages pkg = m :: (i.notify p pkg now).1.channel.messages pkg := by
  obtain ⟨-, hchannel, hheard⟩ := h.notify p now
  have hmessages := i.channel.messages_read pkg
  have hlen := i.channel.length_read_le pkg
  rw [← hchannel] at hmessages
  rw [hheard]
  match hread : (i.channel.read pkg).2, hlen with
  | [], _ => exact Or.inl ⟨rfl, [], by simp, by rw [hmessages, hread]⟩
  | [m], _ =>
      rw [hread] at hmessages
      by_cases hm : m.entries = []
      · exact Or.inl ⟨by simp [hm], [m], by simpa using hm, hmessages⟩
      · exact Or.inr ⟨m, by simp [hm], hmessages⟩

end Receive

end SopepApp
