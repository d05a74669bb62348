import SopepApp.Codec.Stream

/-!
Messages on the way to a decoder.

* `Channel`: the stack of a decoder and the chunks that it has not read;
  `Channel.messages`: what it is going to deliver;
* `Encodes`, `Carries`: the chunks of a message, by the encoder and by the
  decoder; `Channel.send`, `Channel.read`: chunks are appended, and the oldest
  one is read;
* `Whole.send`, `Whole.read`: while only whole messages are sent, a message is
  on the way from when it is sent until its last chunk is read.
-/

namespace SopepApp

open Dart Delimited

variable {pkg : Packages}

/-- A decoder and the bytes on the way to it. -/
structure Channel where
  /-- `_dataRaw` -/
  dataRaw : List UInt8 := []
  /-- the chunks that it has not read -/
  chunks : List (List UInt8) := []
  deriving DecidableEq

namespace Channel

/-- The messages that the decoder is going to deliver. -/
def messages (pkg : Packages) (ch : Channel) : List DataMap :=
  delivered (feed pkg ch.dataRaw ch.chunks).1

/-- The last message on the way is whole. -/
def Whole (pkg : Packages) (ch : Channel) : Prop := (feed pkg ch.dataRaw ch.chunks).2 = []

/-- More chunks are sent. -/
def send (ch : Channel) (chunks : List (List UInt8)) : Channel :=
  { ch with chunks := ch.chunks ++ chunks }

/-- The decoder reads the oldest chunk: the channel after it, and what it
delivers. -/
def read (pkg : Packages) (ch : Channel) : Channel × List DataMap :=
  match ch.chunks with
  | [] => (ch, [])
  | chunk :: chunks =>
    let result := feed pkg ch.dataRaw [chunk]
    (⟨result.2, chunks⟩, delivered result.1)

end Channel

/-- The decoder delivers the message from the chunks, and keeps nothing. -/
def Carries (pkg : Packages) (m : DataMap) (chunks : List (List UInt8)) : Prop :=
  delivered (feed pkg [] chunks).1 = [m] ∧ (feed pkg [] chunks).2 = []

/-- The chunks are the bytes of the message. -/
def Encodes (pkg : Packages) (m : DataMap) (chunks : List (List UInt8)) : Prop :=
  CborInverse pkg m ∧ encoder pkg m = .ok chunks.flatten

instance (pkg : Packages) (m : DataMap) (chunks : List (List UInt8)) :
    Decidable (Encodes pkg m chunks) :=
  inferInstanceAs (Decidable (pkg.cborDecode (pkg.cborEncode m) = .ok (.map m) ∧ _))

/-- **The bytes of a message**, however they are cut, carry it. -/
lemma Encodes.carries (hhex : StandardHex pkg) (hcobs : CobsInverse pkg) {m : DataMap}
    {chunks : List (List UInt8)} (h : Encodes pkg m chunks) : Carries pkg m chunks := by
  obtain ⟨hm, henc⟩ := h
  rw [encoder_eq hhex hcobs, Except.ok.injEq] at henc
  have hcut : chunks.flatten = ([m].map (body pkg)).flatMap (frame 0) := by
    rw [← henc]
    simp
  obtain ⟨ls, hflat, -, hfeed⟩ := feed_frames hhex hcobs (by simpa using hm) hcut
  refine ⟨?_, by rw [hfeed]⟩
  have hlast : ∀ l ∈ ls, l.getLast?.toList = l := by
    intro l hl
    have hlen : l.length ≤ 1 := by
      have hle := (List.sublist_flatten_of_mem hl).length_le
      rwa [hflat] at hle
    match l, hlen with
    | [], _ => rfl
    | [x], _ => rfl
  rw [hfeed, delivered_map_ok, ← hflat, List.flatMap_congr hlast]
  exact List.flatMap_id'

namespace Channel

variable {ch : Channel} {m : DataMap} {chunks : List (List UInt8)}

/-- **A message is sent**: it is the last one on the way. -/
lemma Whole.send (h : ch.Whole pkg) (hm : Carries pkg m chunks) :
    (ch.send chunks).Whole pkg ∧ (ch.send chunks).messages pkg = ch.messages pkg ++ [m] := by
  rw [Whole, messages, messages, Channel.send, feed_append, h, delivered_append, hm.1]
  exact ⟨hm.2, rfl⟩

lemma read_nil (h : ch.chunks = []) : ch.read pkg = (ch, []) := by
  rw [read, h]

lemma read_cons {chunk : List UInt8} (h : ch.chunks = chunk :: chunks) : ch.read pkg =
    (⟨(feed pkg ch.dataRaw [chunk]).2, chunks⟩, delivered (feed pkg ch.dataRaw [chunk]).1) := by
  rw [read, h]

/-- More chunks are of no account to the oldest one. -/
lemma read_send (h : ch.chunks ≠ []) (more : List (List UInt8)) :
    (ch.send more).read pkg = ((ch.read pkg).1.send more, (ch.read pkg).2) := by
  obtain ⟨chunk, chunks, hchunks⟩ := List.exists_cons_of_ne_nil h
  have hsend : (ch.send more).chunks = chunk :: (chunks ++ more) := by
    rw [Channel.send, hchunks]
    rfl
  rw [read_cons hchunks, read_cons hsend]
  rfl

/-- **A chunk is read**: what it delivers was the first on the way. -/
lemma messages_read (pkg : Packages) (ch : Channel) :
    ch.messages pkg = (ch.read pkg).2 ++ (ch.read pkg).1.messages pkg := by
  cases hchunks : ch.chunks with
  | nil =>
      rw [read_nil hchunks]
      rfl
  | cons chunk chunks =>
      rw [read_cons hchunks, messages, hchunks, ← List.singleton_append, feed_append,
        delivered_append]
      rfl

lemma Whole.read (h : ch.Whole pkg) : (ch.read pkg).1.Whole pkg := by
  cases hchunks : ch.chunks with
  | nil =>
      rw [read_nil hchunks]
      exact h
  | cons chunk chunks =>
      rw [read_cons hchunks]
      rw [Whole, hchunks, ← List.singleton_append, feed_append] at h
      exact h

/-- A chunk completes at most one message that is delivered. -/
lemma length_read_le (pkg : Packages) (ch : Channel) : (ch.read pkg).2.length ≤ 1 := by
  cases hchunks : ch.chunks with
  | nil =>
      rw [read_nil hchunks]
      exact Nat.zero_le 1
  | cons chunk chunks =>
      rw [read_cons hchunks]
      exact (List.length_filterMap_le _ _).trans_eq rfl

/-! ### One message -/

/-- The rest of one message is on the way, and its last chunk completes it. -/
def Rest (pkg : Packages) (m : DataMap) (ch : Channel) : Prop :=
  ch.chunks ≠ [] ∧ feed pkg ch.dataRaw ch.chunks =
    (ch.chunks.dropLast.map (fun _ => .ok none) ++ [.ok (some m)], [])

/-- **A chunk of one message is read**: the last one, which completes it, or
another one. -/
lemma Rest.read (h : ch.Rest pkg m) :
    (ch.chunks.length = 1 ∧ ch.read pkg = ({}, [m])) ∨
      ((ch.read pkg).2 = [] ∧ (ch.read pkg).1.Rest pkg m) := by
  obtain ⟨hne, hfeed⟩ := h
  obtain ⟨chunk, chunks, hchunks⟩ := List.exists_cons_of_ne_nil hne
  rw [read_cons hchunks]
  rw [hchunks, feed, Prod.ext_iff] at hfeed
  obtain ⟨hresults, hraw⟩ := hfeed
  dsimp only at hresults hraw
  cases chunks with
  | nil =>
      left
      obtain ⟨hlast, -⟩ := List.cons.inj hresults
      have hone : feed pkg ch.dataRaw [chunk] = ([.ok (some m)], []) := by
        rw [feed, hlast, hraw]
        rfl
      rw [hone, hchunks]
      exact ⟨rfl, rfl⟩
  | cons next chunks =>
      right
      rw [List.dropLast_cons_cons, List.map_cons, List.cons_append] at hresults
      obtain ⟨hnull, hrest⟩ := List.cons.inj hresults
      refine ⟨?_, List.cons_ne_nil _ _, Prod.ext hrest hraw⟩
      rw [feed, hnull]
      rfl

end Channel

end SopepApp
