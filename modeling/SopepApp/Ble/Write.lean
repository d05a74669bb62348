import SopepApp.Codec.Stream
import SopepApp.Framing.Packets

/-!
`BleInteractor.writeCborWithoutResponse` of `lib/src/ble/ble_interactor.dart`:
a message cut into packets that fit the MTU.

* `writeCborWithoutResponse`: the packet loop and the packet after it; the
  state is the list of packets given to the platform;
* `writePackets_run`: for an MTU above the header the packets are the pieces of
  the encoded message;
* `write_then_decode`: the packets written for a message, fed one by one to a
  decoder, give the message with the last packet and nothing before;
* `contiguous_writes_received`: calls in flight at once whose packets stay
  together are all received; `alternating_writes_lost` is a pair of calls whose
  packets do not.
-/

namespace SopepApp

open Dart Delimited Packets

variable {pkg : Packages} {α : Type}

/-- `BLE_ATT_HEADER_BYTES` of `constants.dart`. -/
def bleAttHeaderBytes : ℤ := 3

/-- `_ble.writeCharacteristicWithoutResponse`: the platform takes a packet. -/
def writeCharacteristicWithoutResponse (value : List α) : Effect (List (List α)) Unit :=
  modify fun packets => packets ++ [value]

/-- The loop over all packets but the last, `n` of them to go from packet `i`;
it returns the index of the last packet. -/
def packetLoop (encoded : List α) (size : ℤ) : ℕ → ℕ → Effect (List (List α)) ℕ
  | 0, i => pure i
  | n + 1, i => do
    writeCharacteristicWithoutResponse
      (← Effect.lift (getRange encoded (size * i) (size * (i + 1))))
    packetLoop encoded size n (i + 1)

/-- The body of `writeCborWithoutResponse` under its `try`. -/
def writePackets (pkg : Packages) (mtu : ℤ) (data : DataMap) :
    Effect (List (List UInt8)) Unit := do
  let encoded ← Effect.lift (encoder pkg data)
  let totalPackets ← Effect.lift (ceilDiv encoded.length (mtu - bleAttHeaderBytes))
  let i ← packetLoop encoded (mtu - bleAttHeaderBytes) (totalPackets - 1).toNat 0
  writeCharacteristicWithoutResponse
    (← Effect.lift (getRange encoded ((mtu - bleAttHeaderBytes) * i) encoded.length))

/-- `writeCborWithoutResponse`. -/
def writeCborWithoutResponse (pkg : Packages) (mtu : ℤ) (data : DataMap) :
    Effect (List (List UInt8)) Unit :=
  Effect.catchException (writePackets pkg mtu data)

/-! ### The packets of one call -/

/-- The loop writes pieces of the encoded message. -/
lemma packetLoop_run (encoded : List α) (s n : ℕ) : ∀ (i : ℕ) (ws : List (List α)),
    s * (i + n) ≤ encoded.length →
    (packetLoop encoded s n i).run ws =
      .ok (i + n) (ws ++ pieces s n (encoded.drop (s * i))) := by
  induction n with
  | zero =>
      intro i ws _
      simp [packetLoop, pieces]
  | succ n ih =>
      intro i ws h
      have hsucc : s * (i + 1) = s * i + s := Nat.mul_succ s i
      have hnext : s * (i + 1) ≤ encoded.length :=
        le_trans (Nat.mul_le_mul_left s (by omega)) h
      have hrange := getRange_ok (Nat.mul_le_mul_left s (Nat.le_succ i)) hnext
      push_cast at hrange
      rw [packetLoop]
      simp only [EStateM.run_bind, hrange, Effect.run_lift_ok, writeCharacteristicWithoutResponse,
        EStateM.run_modify]
      rw [ih (i + 1) _ (by rw [Nat.add_right_comm, Nat.add_assoc]; exact h), pieces,
        List.drop_drop, hsucc, Nat.add_sub_cancel_left]
      simp [Nat.add_comm, Nat.add_left_comm]

/-- The packets of an encoded message: all but the last, and the last. -/
structure Cut (encoded : List α) (s : ℕ) (packets : List (List α)) (last : List α) : Prop where
  flatten : (packets ++ [last]).flatten = encoded
  length_eq : ∀ p ∈ packets, p.length = s
  last_ne_nil : last ≠ []
  last_le : last.length ≤ s

/-- The number of full packets of a message. -/
lemma exists_count {length s : ℕ} (hs : 0 < s) (hlen : 0 < length) :
    ∃ n, s * n < length ∧ length ≤ s * (n + 1) ∧
      ceilDiv (length : ℤ) s = .ok ((n + 1 : ℕ) : ℤ) := by
  have hlt : s * ((length - 1) / s) < length := by
    have h := Nat.mul_div_le (length - 1) s
    omega
  have hle : length ≤ s * ((length - 1) / s + 1) := by
    have h := Nat.lt_mul_div_succ (length - 1) hs
    omega
  refine ⟨(length - 1) / s, hlt, hle, ceilDiv_pos (by omega) ?_ (by exact_mod_cast hle)⟩
  push_cast
  rw [add_sub_cancel_right]
  exact_mod_cast hlt

/-- **A message in packets of one size**: their number, what the loop writes and the
range that is left for the last packet. -/
lemma exists_packets {encoded : List α} {s : ℕ} (hs : 0 < s) (hne : encoded ≠ []) :
    ∃ n : ℕ, s * n < encoded.length ∧
      ceilDiv (encoded.length : ℤ) s = .ok ((n + 1 : ℕ) : ℤ) ∧
      (packetLoop encoded s n 0).run [] = .ok n (pieces s n encoded) ∧
      getRange encoded (s * n) encoded.length = .ok (encoded.drop (s * n)) ∧
      Cut encoded s (pieces s n encoded) (encoded.drop (s * n)) := by
  obtain ⟨n, hlt, hle, htotal⟩ := exists_count hs (List.length_pos_of_ne_nil hne)
  have hloop := packetLoop_run encoded s n 0 [] (by rw [Nat.zero_add]; exact hlt.le)
  rw [Nat.mul_zero, List.drop_zero, Nat.zero_add, List.nil_append] at hloop
  have hrange := getRange_ok hlt.le (le_refl encoded.length)
  push_cast at hrange
  rw [← List.length_drop, List.take_length] at hrange
  refine ⟨n, hlt, htotal, hloop, hrange, ?_, ?_, ?_, ?_⟩
  · rw [List.flatten_append, flatten_pieces, List.flatten_singleton, List.take_append_drop]
  · exact fun p hp => length_of_mem_pieces hlt.le hp
  · intro h
    have h0 := congrArg List.length h
    rw [List.length_drop, List.length_nil] at h0
    omega
  · rw [List.length_drop]
    rw [Nat.mul_succ] at hle
    omega

/-- **The packets written**: for an MTU above the header no range is out of
bounds, every packet but the last is full, and together they are the encoded
message. -/
theorem writePackets_run {m : DataMap} {encoded : List UInt8} (henc : encoder pkg m = .ok encoded)
    (hne : encoded ≠ []) {mtu : ℤ} (hmtu : bleAttHeaderBytes < mtu) :
    ∃ packets last, (writePackets pkg mtu m).run [] = .ok () (packets ++ [last]) ∧
      Cut encoded (mtu - bleAttHeaderBytes).toNat packets last := by
  obtain ⟨s, hs⟩ : ∃ s : ℕ, mtu - bleAttHeaderBytes = s := ⟨_, (Int.toNat_of_nonneg (by omega)).symm⟩
  obtain ⟨n, -, htotal, hloop, hrange, hcut⟩ := exists_packets (by omega : 0 < s) hne
  refine ⟨_, _, ?_, by rw [hs, Int.toNat_natCast]; exact hcut⟩
  rw [writePackets, hs]
  push_cast at htotal
  simp only [EStateM.run_bind, henc, Effect.run_lift_ok, htotal, add_sub_cancel_right,
    Int.toNat_natCast, hloop, hrange, writeCharacteristicWithoutResponse, EStateM.run_modify]

/-- The packets of one frame: the decoder returns null for all but the last,
and the message for the last. -/
lemma feed_packets (hhex : StandardHex pkg) (hcobs : CobsInverse pkg) {m : DataMap}
    (hm : CborInverse pkg m) {s : ℕ} {packets : List (List UInt8)} {last : List UInt8}
    (hcut : Cut (frame 0 (body pkg m)) s packets last) :
    feed pkg [] (packets ++ [last]) =
      (packets.map (fun _ => .ok none) ++ [.ok (some m)], []) := by
  have hbody := isBody_body hcobs m
  have hdec := decode_body hhex hcobs hm
  have hflat := hcut.flatten
  rw [List.flatten_append, List.flatten_singleton] at hflat
  -- the packets before the last complete nothing
  have hlt : packets.flatten.length < (frame 0 (body pkg m)).length := by
    have hpos := List.length_pos_of_ne_nil hcut.last_ne_nil
    rw [← hflat, List.length_append]
    omega
  have hnone := split_of_lt_frame hbody hflat hlt
  have hwhole : split 0 [] (packets.flatten ++ last) = ([body pkg m], []) := by
    have h := split_frame_append hbody []
    rw [List.append_nil] at h
    rw [hflat, h]
    rfl
  rw [split_append, hnone, List.nil_append] at hwhole
  obtain ⟨hlast, hraw⟩ := Prod.ext_iff.mp hwhole
  dsimp only at hlast hraw
  have hempty : ∀ fs ∈ completed 0 [] packets, fs = [] := by
    have h := flatten_completed 0 packets []
    rw [hnone, List.flatten_eq_nil_iff] at h
    exact h
  rw [feed_append, feed_run packets [] (by rw [hnone]; simp)]
  have hres : (completed 0 [] packets).map (fun fs => Except.ok (fs.getLast?.bind (decoded pkg))) =
      packets.map fun _ => (.ok none : Except Error (Option DataMap)) := by
    rw [List.map_congr_left (g := fun _ => .ok none) fun fs hfs => by rw [hempty fs hfs]; rfl,
      List.map_const', List.map_const', length_completed]
  have hrun := decoder_run pkg (split 0 [] packets.flatten).2 last (by rw [hlast]; simp [hdec])
  simp only [feed, hres, Effect.outcome_of_ok hrun, Effect.finalState_of_ok hrun, hlast, hraw,
    List.getLast?_singleton, Option.bind_some, decoded_of_ok hdec]

/-- **The write path and the receive path are inverse**: for every MTU above
the header the packets written for a message make up its encoding, none is
empty or larger than the MTU allows, all but the last are full, and a decoder
fed with them one by one returns null for each but the last and the message
for the last. -/
theorem write_then_decode (hhex : StandardHex pkg) (hcobs : CobsInverse pkg) {m : DataMap}
    (hm : CborInverse pkg m) {mtu : ℤ} (hmtu : bleAttHeaderBytes < mtu) {encoded : List UInt8}
    (henc : encoder pkg m = .ok encoded) :
    ∃ packets last,
      (writePackets pkg mtu m).run [] = .ok () (packets ++ [last]) ∧
      (writeCborWithoutResponse pkg mtu m).run [] = .ok () (packets ++ [last]) ∧
      (packets ++ [last]).flatten = encoded ∧
      (∀ p ∈ packets ++ [last], p ≠ [] ∧ (p.length : ℤ) ≤ mtu - bleAttHeaderBytes) ∧
      (∀ p ∈ packets, (p.length : ℤ) = mtu - bleAttHeaderBytes) ∧
      feed pkg [] (packets ++ [last]) =
        (packets.map (fun _ => .ok none) ++ [.ok (some m)], []) := by
  have hframe := henc
  rw [encoder_eq hhex hcobs, Except.ok.injEq] at hframe
  obtain ⟨packets, last, hrun, hcut⟩ := writePackets_run henc (by rw [← hframe]; simp [frame]) hmtu
  have hfull : ∀ p ∈ packets, (p.length : ℤ) = mtu - bleAttHeaderBytes := by
    intro p hp
    rw [hcut.length_eq p hp, Int.toNat_of_nonneg (by omega)]
  refine ⟨packets, last, hrun, Effect.run_catchException_of_ok hrun, hcut.flatten,
    fun p hp => ?_, hfull, ?_⟩
  · rcases List.mem_append.mp hp with hp | hp
    · have hlen := hfull p hp
      refine ⟨?_, hlen.le⟩
      rintro rfl
      rw [List.length_nil] at hlen
      omega
    · rw [List.mem_singleton.mp hp]
      have hle := hcut.last_le
      exact ⟨hcut.last_ne_nil, by omega⟩
  · rw [← hframe] at hcut
    exact feed_packets hhex hcobs hm hcut

/-- A message in three packets. -/
theorem write_then_decode_sample :
    ∃ packets last,
      (writePackets samplePackages 11 fwBlockResponse).run [] = .ok () (packets ++ [last]) ∧
      (writeCborWithoutResponse samplePackages 11 fwBlockResponse).run [] =
        .ok () (packets ++ [last]) ∧
      (packets ++ [last]).flatten = fwBlockFrame ∧
      (∀ p ∈ packets ++ [last], p ≠ [] ∧ (p.length : ℤ) ≤ 11 - bleAttHeaderBytes) ∧
      (∀ p ∈ packets, (p.length : ℤ) = 11 - bleAttHeaderBytes) ∧
      feed samplePackages [] (packets ++ [last]) =
        (packets.map (fun _ => .ok none) ++ [.ok (some fwBlockResponse)], []) :=
  write_then_decode (standardHex_reference _ _) (standardCobs_reference _ _).inverse
    (cborInverse_sample (by simp)) (by decide) encoder_fwBlock

/-! ### Calls in flight at once -/

/-- The packets a call of `writeCborWithoutResponse` writes. -/
def packetsOf (pkg : Packages) (mtu : ℤ) (m : DataMap) : List (List UInt8) :=
  (writeCborWithoutResponse pkg mtu m).finalState []

/-- The packets of one call deliver its message and leave the stack empty. -/
lemma feed_packetsOf (hhex : StandardHex pkg) (hcobs : CobsInverse pkg) {m : DataMap}
    (hm : CborInverse pkg m) {mtu : ℤ} (hmtu : bleAttHeaderBytes < mtu) :
    packetsOf pkg mtu m ≠ [] ∧ delivered (feed pkg [] (packetsOf pkg mtu m)).1 = [m] ∧
      (feed pkg [] (packetsOf pkg mtu m)).2 = [] := by
  have henc := encoder_eq hhex hcobs m
  obtain ⟨packets, last, hrun, hcut⟩ := writePackets_run henc (by simp [frame]) hmtu
  have hpackets : packetsOf pkg mtu m = packets ++ [last] :=
    Effect.finalState_of_ok (Effect.run_catchException_of_ok hrun)
  have hnull : delivered (packets.map fun _ => .ok none) = [] := by
    rw [delivered, List.filterMap_eq_nil_iff]
    simp
  rw [hpackets, feed_packets hhex hcobs hm hcut, delivered_append, hnull]
  exact ⟨by simp, rfl, rfl⟩

/-- The packets of calls one after the other deliver their messages in that
order. -/
lemma feed_order (hhex : StandardHex pkg) (hcobs : CobsInverse pkg) {mtu : ℤ}
    (hmtu : bleAttHeaderBytes < mtu) {ms : List DataMap} (hms : ∀ m ∈ ms, CborInverse pkg m) :
    delivered (feed pkg [] (ms.flatMap (packetsOf pkg mtu))).1 = ms ∧
      (feed pkg [] (ms.flatMap (packetsOf pkg mtu))).2 = [] := by
  induction ms with
  | nil => exact ⟨rfl, rfl⟩
  | cons m ms ih =>
      obtain ⟨-, hone, hraw⟩ := feed_packetsOf hhex hcobs (hms m (by simp)) hmtu
      obtain ⟨hrest, hempty⟩ := ih fun m' hm' => hms m' (List.mem_cons_of_mem m hm')
      rw [List.flatMap_cons, feed_append, hraw, delivered_append, hone, hrest]
      exact ⟨rfl, hempty⟩

/-- The elements of a list, one index after the other. -/
lemma filterMap_range {α : Type*} (xs : List α) :
    (List.range xs.length).filterMap (fun i => xs[i]?) = xs := by
  induction xs using List.reverseRecOn with
  | nil => rfl
  | append_singleton xs x ih =>
      have hinit : (List.range xs.length).filterMap (fun i => (xs ++ [x])[i]?) = xs := by
        refine Eq.trans (List.filterMap_congr fun i hi => ?_) ih
        rw [List.getElem?_append_left (List.mem_range.mp hi)]
      rw [List.length_append, List.length_singleton, List.range_succ, List.filterMap_append, hinit]
      simp

/-- The parts chosen by an order of indices are those of the chosen elements. -/
lemma flatMap_getD {α β : Type*} (f : α → List β) {xs : List α} {order : List ℕ}
    (h : ∀ i ∈ order, i < xs.length) :
    order.flatMap (fun i => (xs.map f).getD i []) = (order.filterMap fun i => xs[i]?).flatMap f := by
  induction order with
  | nil => rfl
  | cons i order ih =>
      have hi : i < xs.length := h i (by simp)
      rw [List.flatMap_cons, ih fun j hj => h j (List.mem_cons_of_mem i hj),
        List.filterMap_cons_some (List.getElem?_eq_getElem hi), List.flatMap_cons]
      simp [hi]

/-- **Calls whose packets stay together**: whatever the order in which calls in
flight at once write their packets, if no call writes between two packets of
another, the receiver obtains their messages, each exactly once. -/
theorem contiguous_writes_received (hhex : StandardHex pkg) (hcobs : CobsInverse pkg)
    {ms : List DataMap} (hms : ∀ m ∈ ms, CborInverse pkg m) {mtu : ℤ}
    (hmtu : bleAttHeaderBytes < mtu) {w : List (ℕ × List UInt8)}
    (hw : Interleaving (ms.map (packetsOf pkg mtu)) w) (hc : Contiguous w) :
    (delivered (feed pkg [] (w.map Prod.snd)).1).Perm ms := by
  have hne : ∀ c ∈ ms.map (packetsOf pkg mtu), c ≠ [] := by
    intro c hcm
    obtain ⟨m, hm, rfl⟩ := List.mem_map.mp hcm
    exact (feed_packetsOf hhex hcobs (hms m hm) hmtu).1
  obtain ⟨order, hperm, heq⟩ := hw.exists_order hne hc
  have hlt : ∀ i ∈ order, i < ms.length := by
    intro i hi
    have h := hperm.mem_iff.mp hi
    rwa [List.mem_range, List.length_map] at h
  -- the messages in the order in which their packets are written
  have hmsgs : ∃ sent : List DataMap, sent.Perm ms ∧
      w.map Prod.snd = sent.flatMap (packetsOf pkg mtu) := by
    refine ⟨order.filterMap fun i => ms[i]?, ?_, ?_⟩
    · have h := hperm.filterMap fun i => ms[i]?
      rw [List.length_map] at h
      exact h.trans (List.Perm.of_eq (filterMap_range ms))
    · rw [heq]
      exact flatMap_getD (packetsOf pkg mtu) hlt
  obtain ⟨sent, hsent, hstream⟩ := hmsgs
  rw [hstream, (feed_order hhex hcobs hmtu fun m hm => hms m (hsent.mem_iff.mp hm)).1]
  exact hsent

/-- The packets of `deviceInfoCommand` and `readPrioDataCommand` at the default
MTU, two for each, the calls one after the other. -/
def inTurn : List (ℕ × List UInt8) :=
  (packetsOf samplePackages 23 deviceInfoCommand).map (Prod.mk 0) ++
    (packetsOf samplePackages 23 readPrioDataCommand).map (Prod.mk 1)

/-- The same packets, the two calls writing in alternation. -/
def alternating : List (ℕ × List UInt8) :=
  ((packetsOf samplePackages 23 deviceInfoCommand).zip
    (packetsOf samplePackages 23 readPrioDataCommand)).flatMap fun p => [(0, p.1), (1, p.2)]

lemma interleaving_iff {α : Type*} {a b : List α} {w : List (ℕ × α)} :
    Interleaving [a, b] w ↔ (∀ x ∈ w, x.1 < 2) ∧
      (w.filter fun x => decide (x.1 = 0)).map Prod.snd = a ∧
      (w.filter fun x => decide (x.1 = 1)).map Prod.snd = b := by
  refine ⟨fun h => ⟨h.index_lt, h.items 0 (by simp), h.items 1 (by simp)⟩, ?_⟩
  rintro ⟨hlt, ha, hb⟩
  refine ⟨hlt, fun i hi => ?_⟩
  match i, hi with
  | 0, _ => exact ha
  | 1, _ => exact hb

lemma cborInverse_commands :
    ∀ m ∈ [deviceInfoCommand, readPrioDataCommand], CborInverse samplePackages m :=
  fun _ hm => cborInverse_sample (List.mem_append_right [fwBlockResponse, newDataEvent] hm)

/-- Two calls one after the other. -/
theorem contiguous_writes_sample :
    (delivered (feed samplePackages [] (inTurn.map Prod.snd)).1).Perm
      [deviceInfoCommand, readPrioDataCommand] := by
  refine contiguous_writes_received (standardHex_reference _ _) (standardCobs_reference _ _).inverse
    cborInverse_commands (show bleAttHeaderBytes < 23 by decide) ?_ ?_
  · exact interleaving_iff.mpr (by decide +kernel)
  · exact Contiguous.of_pairwise (by decide +kernel)

/-- Two calls at the default MTU that write their packets in alternation: the
receiver obtains neither message. -/
theorem alternating_writes_lost :
    ¬ ∀ (pkg : Packages), StandardHex pkg → CobsInverse pkg → ∀ ms : List DataMap,
      (∀ m ∈ ms, CborInverse pkg m) → ∀ mtu : ℤ, bleAttHeaderBytes < mtu →
      ∀ w, Interleaving (ms.map (packetsOf pkg mtu)) w →
        ∀ m ∈ ms, m ∈ delivered (feed pkg [] (w.map Prod.snd)).1 := by
  intro h
  have hlost : delivered (feed samplePackages [] (alternating.map Prod.snd)).1 = [] := by
    decide +kernel
  have h0 := h samplePackages (standardHex_reference _ _) (standardCobs_reference _ _).inverse
    [deviceInfoCommand, readPrioDataCommand] cborInverse_commands 23 (by decide) alternating
    (interleaving_iff.mpr (by decide +kernel)) deviceInfoCommand (by simp)
  rw [hlost] at h0
  exact absurd h0 (by simp)

end SopepApp
