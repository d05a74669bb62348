import SopepApp.Ble.Write
import SopepApp.Codec.Channel

/-!
`writeCborWithoutResponse` while the MTU changes: every round of the loop reads
the field `_mtu` again, which `getMtuSize` assigns between two of them.

* `roundLoop`, `writeRounds`: the loop over any list, with the MTU that each
  round reads; `writeRounds_const`: with one MTU it is `writePackets`;
* `roundLoop_starts`: rounds that continue each other read one MTU;
* `rounds_exact_iff`: each position of the message is written once and in order
  exactly if all rounds read one MTU, or the first one leaves no room for a
  packet; a negotiation that starts after the first packet ends the write with a
  `RangeError`.
-/

namespace SopepApp

open Dart Delimited Packets

variable {α : Type} {pkg : Packages}

/-- The loop over all packets but the last, `n` of them to go from packet `i`;
`mtus i` is what the round of packet `i` reads. -/
def roundLoop (mtus : ℕ → ℤ) (encoded : List α) : ℕ → ℕ → Effect (List (List α)) ℕ
  | 0, i => pure i
  | n + 1, i => do
    let size := mtus i - bleAttHeaderBytes
    let value ← Effect.lift (getRange encoded (size * i) (size * (i + 1)))
    modify fun packets => packets ++ [value]
    roundLoop mtus encoded n (i + 1)

/-- The packets of an encoded message. The first round follows the count of the
packets without an `await`. -/
def writeRounds (mtus : ℕ → ℤ) (encoded : List α) : Effect (List (List α)) Unit := do
  let totalPackets ← Effect.lift (ceilDiv encoded.length (mtus 0 - bleAttHeaderBytes))
  let i ← roundLoop mtus encoded (totalPackets - 1).toNat 0
  let value ← Effect.lift
    (getRange encoded ((mtus i - bleAttHeaderBytes) * i) encoded.length)
  modify fun packets => packets ++ [value]

variable {mtus mtus' : ℕ → ℤ} {encoded : List α} {ws ws' : List (List α)} {n k i j s : ℕ}

/-- Rounds that read one MTU are those of the packet loop. -/
lemma roundLoop_eq {size : ℤ} : ∀ {n i : ℕ},
    (∀ r, i ≤ r → r < i + n → mtus r - bleAttHeaderBytes = size) →
    roundLoop mtus encoded n i = packetLoop encoded size n i := by
  intro n
  induction n with
  | zero => exact fun _ => rfl
  | succ n ih =>
      intro i hsame
      rw [roundLoop, packetLoop, hsame i le_rfl (by omega),
        ih fun r hr hlt => hsame r (by omega) (by omega)]
      rfl

/-- **With one MTU** the rounds write the packets of `writePackets`. -/
lemma writeRounds_const {m : DataMap} {encoded : List UInt8} (henc : encoder pkg m = .ok encoded)
    (mtu : ℤ) : (writeRounds (fun _ => mtu) encoded).run [] = (writePackets pkg mtu m).run [] := by
  have hloop : ∀ n i, roundLoop (fun _ => mtu) encoded n i =
      packetLoop encoded (mtu - bleAttHeaderBytes) n i := fun n i => roundLoop_eq fun _ _ _ => rfl
  rw [writeRounds, writePackets, henc]
  simp only [hloop]
  rfl

/-- The loop adds to what has been written. -/
lemma roundLoop_append : ∀ {n i : ℕ} {ws : List (List α)},
    (roundLoop mtus encoded n i).run ws = .ok j ws' → j = i + n ∧ ws <+: ws' := by
  intro n
  induction n with
  | zero =>
      intro i ws h
      obtain ⟨rfl, rfl⟩ : i = j ∧ ws = ws' := by simpa [roundLoop] using h
      exact ⟨rfl, List.prefix_rfl⟩
  | succ n ih =>
      intro i ws h
      rw [roundLoop, Effect.run_bind_eq_ok] at h
      obtain ⟨value, t, hvalue, h⟩ := h
      obtain ⟨-, rfl⟩ := Effect.run_lift_eq_ok.mp hvalue
      obtain ⟨hj, hprefix⟩ := ih h
      exact ⟨by omega, (List.prefix_append _ _).trans hprefix⟩

/-! ### Positions -/

/-- A range of the positions. -/
lemma getRange_range {total : ℕ} {value : List ℕ} {start stop : ℤ} :
    getRange (List.range total) start stop = .ok value ↔
      (0 ≤ start ∧ start ≤ stop ∧ stop ≤ total) ∧
        value = List.range' start.toNat (stop - start).toNat := by
  rw [getRange_eq_ok_iff, List.length_range]
  refine and_congr_right fun h => ?_
  rw [List.range_eq_range', List.drop_range', List.take_range'_of_length_ge (by omega), eq_comm,
    Nat.mul_one, Nat.zero_add]

/-- What continues the positions up to `k` begins with `k`. -/
lemma eq_of_range_append {total k x : ℕ} {xs : List ℕ}
    (h : List.range k ++ x :: xs <+: List.range total) : x = k := by
  obtain ⟨t, ht⟩ := h
  have hk := congrArg (fun l => l[k]?) ht
  simp only [List.append_assoc, List.getElem?_append_right, List.length_range, le_refl,
    Nat.sub_self, List.cons_append, List.getElem?_cons_zero] at hk
  obtain ⟨hlt, heq⟩ := List.getElem?_eq_some_iff.mp hk.symm
  rw [← heq, List.getElem_range]

/-- The size of the packets, from where a packet starts. -/
lemma size_unique {size : ℤ} (hfirst : i = 0 → size = s) (hnonneg : 0 ≤ size * i)
    (hstart : (size * i).toNat = s * i) : size = s := by
  rcases Nat.eq_zero_or_pos i with hi | hi
  · exact hfirst hi
  · have hcast : ((size * i).toNat : ℤ) = ((s * i : ℕ) : ℤ) := by rw [hstart]
    rw [Int.toNat_of_nonneg hnonneg, Nat.cast_mul] at hcast
    exact mul_right_cancel₀ (by exact_mod_cast hi.ne') hcast

/-- One more round. -/
lemma range_append_round (s i : ℕ) :
    List.range (s * i) ++ List.range' (s * i) s = List.range (s * (i + 1)) := by
  calc List.range (s * i) ++ List.range' (s * i) s
      = List.range' 0 (s * i) ++ List.range' (0 + s * i) s := by
        rw [List.range_eq_range', Nat.zero_add]
    _ = List.range' 0 (s * i + s) := List.range'_append_1
    _ = List.range (s * (i + 1)) := by rw [List.range_eq_range', Nat.mul_succ]

/-- **Rounds that continue each other** read one MTU. -/
lemma roundLoop_starts {total : ℕ} (hroom : ∀ i, mtus i ≠ bleAttHeaderBytes)
    (hfirst : mtus 0 - bleAttHeaderBytes = s) : ∀ {n i : ℕ} {ws : List (List ℕ)} {j : ℕ}
    {ws' : List (List ℕ)}, (roundLoop mtus (List.range total) n i).run ws = .ok j ws' →
      ws.flatten = List.range (s * i) → ws'.flatten <+: List.range total →
      (∀ r, i ≤ r → r < i + n → mtus r = mtus 0) ∧ ws'.flatten = List.range (s * (i + n)) := by
  intro n
  induction n with
  | zero =>
      intro i ws j ws' h hws hprefix
      obtain ⟨-, rfl⟩ : i = j ∧ ws = ws' := by simpa [roundLoop] using h
      exact ⟨fun r hr hlt => by omega, hws⟩
  | succ n ih =>
      intro i ws j ws' h hws hprefix
      rw [roundLoop, Effect.run_bind_eq_ok] at h
      obtain ⟨value, t, hvalue, h⟩ := h
      obtain ⟨hrange, rfl⟩ := Effect.run_lift_eq_ok.mp hvalue
      have hnext : (roundLoop mtus (List.range total) n (i + 1)).run (ws ++ [value]) =
          .ok j ws' := h
      obtain ⟨⟨hstart, hstop, hend⟩, rfl⟩ := getRange_range.mp hrange
      generalize hsize : mtus i - bleAttHeaderBytes = size at *
      have hpos : 0 < size := by
        have hne : size ≠ 0 := fun h0 => hroom i (by omega)
        rw [mul_add, mul_one] at hstop
        omega
      -- the round starts where the one before it ended
      have hstart : (size * i).toNat = s * i := by
        obtain ⟨t, rfl⟩ := (roundLoop_append hnext).2
        obtain ⟨len, hlen⟩ : ∃ len, (size * (i + 1) - size * i).toNat = len + 1 :=
          ⟨(size * (i + 1) - size * i).toNat - 1, by rw [mul_add, mul_one]; omega⟩
        rw [List.flatten_append, List.flatten_append, List.flatten_singleton, hws, hlen,
          List.range'_succ, List.append_assoc] at hprefix
        exact eq_of_range_append hprefix
      have hsame : size = s := by
        refine size_unique (fun h => ?_) (mul_nonneg hpos.le (Int.natCast_nonneg i)) hstart
        rw [← hsize, h, hfirst]
      subst hsame
      have hflat : (ws ++ [List.range' (s * i : ℤ).toNat
          ((s : ℤ) * (i + 1) - s * i).toNat]).flatten = List.range (s * (i + 1)) := by
        rw [List.flatten_append, hws, List.flatten_singleton, hstart, mul_add, mul_one,
          add_sub_cancel_left, Int.toNat_natCast, range_append_round]
      obtain ⟨hlater, hend⟩ := ih hnext hflat hprefix
      refine ⟨fun r hr hlt => ?_, by rw [hend]; congr 2; omega⟩
      rcases Nat.eq_or_lt_of_le hr with rfl | hr
      · omega
      · exact hlater r hr (by omega)

/-! ### The rounds of a message -/

/-- The range of a packet with no room throws, the first packet apart. -/
lemma getRange_negative (encoded : List α) (stop : ℤ) (hi : 0 < i)
    (hlow : mtus i < bleAttHeaderBytes) :
    getRange encoded ((mtus i - bleAttHeaderBytes) * i) stop = .error .rangeError := by
  have hneg : (mtus i - bleAttHeaderBytes) * i < 0 :=
    mul_neg_of_neg_of_pos (by omega) (by exact_mod_cast hi)
  rw [getRange, if_neg (by omega)]

/-- All rounds of a message of the length read one MTU; or the first one leaves
no room for a packet, and there is no other round. -/
def OneMtu (mtus : ℕ → ℤ) (length : ℕ) : Prop :=
  mtus 0 < bleAttHeaderBytes ∨
    ∀ i : ℕ, (mtus 0 - bleAttHeaderBytes) * i < length → mtus i = mtus 0

/-- Without room for a packet the message is written as one. -/
lemma writeRounds_negative (hmtu : mtus 0 < bleAttHeaderBytes) (encoded : List α) :
    (writeRounds mtus encoded).run [] = .ok () [encoded] := by
  obtain ⟨total, htotal⟩ : ∃ total,
      ceilDiv encoded.length (mtus 0 - bleAttHeaderBytes) = .ok total :=
    ⟨_, by rw [ceilDiv, if_neg (by omega)]⟩
  have hnone : (total - 1).toNat = 0 := by
    have hle := ceilDiv_neg (by omega) (by omega) htotal
    omega
  have hrange := getRange_ok (Nat.zero_le _) (le_refl encoded.length)
  rw [writeRounds, htotal]
  simp only [EStateM.run_bind, Effect.run_lift_ok, hnone, roundLoop, EStateM.run_pure,
    Nat.cast_zero, mul_zero]
  push_cast at hrange
  simp [hrange]

/-- With room for packets, what the rounds come to. -/
lemma writeRounds_run (hs : 0 < s) (hfirst : mtus 0 - bleAttHeaderBytes = s)
    (hone : ∀ i : ℕ, s * i < encoded.length → mtus i = mtus 0) (hne : encoded ≠ []) :
    ∃ packets, (writeRounds mtus encoded).run [] = .ok () packets ∧
      packets.flatten = encoded := by
  obtain ⟨n, hlt, htotal, hloop, hrange, hcut⟩ := exists_packets hs hne
  have hsame : ∀ r ≤ n, mtus r - bleAttHeaderBytes = s := fun r hr => by
    rw [hone r (lt_of_le_of_lt (Nat.mul_le_mul_left s hr) hlt), hfirst]
  rw [← roundLoop_eq fun r _ hr => hsame r (by omega)] at hloop
  refine ⟨_, ?_, hcut.flatten⟩
  rw [writeRounds, hfirst]
  push_cast at htotal
  simp only [EStateM.run_bind, Effect.run_lift_ok, htotal, add_sub_cancel_right,
    Int.toNat_natCast, hloop, hsame n le_rfl, hrange, EStateM.run_modify]

/-- **One MTU** writes what it is given. -/
lemma OneMtu.exact {length : ℕ} (h : OneMtu mtus length) (hlen : encoded.length = length)
    (hne : encoded ≠ []) (hroom : ∀ i, mtus i ≠ bleAttHeaderBytes) :
    ∃ packets, (writeRounds mtus encoded).run [] = .ok () packets ∧ packets.flatten = encoded := by
  subst hlen
  rcases lt_or_gt_of_ne (hroom 0) with hlow | hhigh
  · exact ⟨_, writeRounds_negative hlow encoded, List.flatten_singleton⟩
  obtain ⟨s, hs⟩ : ∃ s : ℕ, mtus 0 - bleAttHeaderBytes = s :=
    ⟨_, (Int.toNat_of_nonneg (by omega)).symm⟩
  refine writeRounds_run (by omega) hs (fun i hi => ?_) hne
  rcases h with hlow | hone
  · omega
  · exact hone i (by rw [hs]; exact_mod_cast hi)

/-- **Positions written once and in order** need one MTU. -/
lemma OneMtu.of_positions {length : ℕ} (hlen : 0 < length)
    (hroom : ∀ i, mtus i ≠ bleAttHeaderBytes) {packets : List (List ℕ)}
    (hrun : (writeRounds mtus (List.range length)).run [] = .ok () packets)
    (hflat : packets.flatten = List.range length) : OneMtu mtus length := by
  rcases lt_or_gt_of_ne (hroom 0) with hlow | hhigh
  · exact Or.inl hlow
  obtain ⟨s, hs⟩ : ∃ s : ℕ, mtus 0 - bleAttHeaderBytes = s :=
    ⟨_, (Int.toNat_of_nonneg (by omega)).symm⟩
  have hpos : 0 < s := by omega
  obtain ⟨n, hlt, hle, htotal⟩ := exists_count hpos hlen
  rw [writeRounds, List.length_range, hs, htotal, Effect.run_bind_of_ok (Effect.run_lift_ok _ _),
    Nat.cast_add, Nat.cast_one, add_sub_cancel_right, Int.toNat_natCast,
    Effect.run_bind_eq_ok] at hrun
  obtain ⟨j, ws, hloop, hrun⟩ := hrun
  rw [Effect.run_bind_eq_ok] at hrun
  obtain ⟨value, t, hvalue, hrun⟩ := hrun
  obtain ⟨hrange, rfl⟩ := Effect.run_lift_eq_ok.mp hvalue
  obtain rfl : ws ++ [value] = packets := by
    simpa [EStateM.run_modify] using hrun
  have hj : j = n := by
    rw [(roundLoop_append hloop).1, Nat.zero_add]
  subst hj
  rw [List.flatten_append, List.flatten_singleton] at hflat
  obtain ⟨hsame, hws⟩ := roundLoop_starts hroom hs hloop rfl ⟨value, hflat⟩
  rw [Nat.zero_add] at hsame hws
  -- the last packet starts where the loop ended
  have hlast : ((mtus j - bleAttHeaderBytes) * j).toNat = s * j := by
    obtain ⟨⟨hstart, -, -⟩, rfl⟩ := getRange_range.mp hrange
    rw [hws] at hflat
    obtain ⟨len, hlen'⟩ : ∃ len, ((length : ℤ) -
        (mtus j - bleAttHeaderBytes) * j).toNat = len + 1 := by
      have hlength := congrArg List.length hflat
      rw [List.length_append, List.length_range, List.length_range', List.length_range] at hlength
      exact ⟨_ - 1, (Nat.sub_add_cancel (by omega)).symm⟩
    rw [hlen', List.range'_succ] at hflat
    exact eq_of_range_append ⟨_, by rw [List.append_nil]; exact hflat⟩
  have hsize : mtus j - bleAttHeaderBytes = s := by
    obtain ⟨⟨hstart, -, -⟩, -⟩ := getRange_range.mp hrange
    exact size_unique (fun h => by rw [h]; exact hs) hstart hlast
  refine Or.inr fun i hi => ?_
  have hij : i ≤ j := by
    rw [hs] at hi
    have hlt' : s * i < s * (j + 1) := lt_of_lt_of_le (by exact_mod_cast hi) hle
    have h := Nat.lt_of_mul_lt_mul_left hlt'
    omega
  rcases Nat.eq_or_lt_of_le hij with rfl | hij
  · omega
  · exact hsame i (Nat.zero_le i) hij

/-! ### A negotiation meanwhile -/

/-- The loop in two parts. -/
lemma roundLoop_add (n : ℕ) : ∀ {k i : ℕ}, roundLoop mtus encoded (k + n) i =
    roundLoop mtus encoded k i >>= roundLoop mtus encoded n := by
  intro k
  induction k with
  | zero =>
      intro i
      rw [Nat.zero_add, roundLoop, pure_bind]
  | succ k ih =>
      intro i
      rw [Nat.succ_add, roundLoop, roundLoop]
      simp only [bind_assoc, ih]

/-- Rounds that read one MTU write pieces of the message. -/
lemma roundLoop_run (hsame : ∀ r < n, mtus r - bleAttHeaderBytes = s)
    (hle : s * n ≤ encoded.length) :
    (roundLoop mtus encoded n 0).run [] = .ok n (pieces s n encoded) := by
  have hloop := packetLoop_run encoded s n 0 [] (by rwa [Nat.zero_add])
  rw [Nat.mul_zero, List.drop_zero, Nat.zero_add, List.nil_append] at hloop
  rw [roundLoop_eq fun r _ hr => hsame r (by omega), hloop]

/-- The loop up to a round that reads no room for a packet. -/
lemma roundLoop_error (hsame : ∀ r < k, mtus r - bleAttHeaderBytes = s)
    (hle : s * k ≤ encoded.length) (hkn : k < n) (hk : 0 < k) (hlow : mtus k < bleAttHeaderBytes) :
    (roundLoop mtus encoded n 0).run [] = .error .rangeError (pieces s k encoded) := by
  obtain ⟨n, rfl⟩ : ∃ n', n = k + (n' + 1) := ⟨n - k - 1, by omega⟩
  have hthrow := getRange_negative encoded ((mtus k - bleAttHeaderBytes) * (k + 1)) hk hlow
  rw [roundLoop_add, Effect.run_bind_of_ok (roundLoop_run hsame hle), roundLoop, hthrow]
  rfl

/-- **A negotiation starts** between two packets and clears the field: the next
round throws, and what is written are the packets before it. -/
lemma writeRounds_error (hs : 0 < s) (hfirst : mtus 0 - bleAttHeaderBytes = s) (hk : 0 < k)
    (hsame : ∀ i < k, mtus i = mtus 0) (hlow : mtus k < bleAttHeaderBytes)
    (hlt : s * k < encoded.length) :
    (writeRounds mtus encoded).run [] = .error .rangeError (pieces s k encoded) := by
  obtain ⟨n, -, hle, htotal⟩ := exists_count hs (Nat.zero_lt_of_lt hlt)
  have hkn : k ≤ n := by
    have h := Nat.lt_of_mul_lt_mul_left (lt_of_lt_of_le hlt hle)
    omega
  have hsize : ∀ r < k, mtus r - bleAttHeaderBytes = s := fun r hr => by
    rw [hsame r hr, hfirst]
  rw [writeRounds, hfirst, htotal, Effect.run_bind_of_ok (Effect.run_lift_ok _ _), Nat.cast_add,
    Nat.cast_one, add_sub_cancel_right, Int.toNat_natCast]
  rcases Nat.eq_or_lt_of_le hkn with rfl | hkn
  · rw [Effect.run_bind_of_ok (roundLoop_run hsize hlt.le),
      getRange_negative encoded encoded.length hk hlow]
    rfl
  · rw [Effect.run_bind_of_error (roundLoop_error hsize hlt.le hkn hk hlow)]

/-- A beginning of a message delivers nothing. -/
lemma delivered_pieces (hhex : StandardHex pkg) (hcobs : CobsInverse pkg) {m : DataMap}
    {encoded : List UInt8} (henc : encoder pkg m = .ok encoded) (hlt : s * k < encoded.length) :
    delivered (feed pkg [] (pieces s k encoded)).1 = [] := by
  rw [encoder_eq hhex hcobs, Except.ok.injEq] at henc
  subst henc
  have hnone : (split 0 [] (pieces s k (frame 0 (body pkg m))).flatten).1 = [] := by
    rw [flatten_pieces]
    exact split_of_lt_frame (isBody_body hcobs m) (List.take_append_drop _ _)
      (by rw [List.length_take]; omega)
  have hempty : ∀ fs ∈ completed 0 [] (pieces s k (frame 0 (body pkg m))), fs = [] := by
    have h := flatten_completed 0 (pieces s k (frame 0 (body pkg m))) []
    rwa [hnone, List.flatten_eq_nil_iff] at h
  rw [feed_run _ [] (by rw [hnone]; simp), delivered, List.filterMap_eq_nil_iff]
  intro r hr
  obtain ⟨fs, hfs, rfl⟩ := List.mem_map.mp hr
  rw [hempty fs hfs]
  rfl

/-- **Which MTUs the rounds may read**: if no round reads the header's size,
each position of a message is written once and in order exactly if all rounds
read one MTU or the first one leaves no room for a packet, and then the packets
carry the message. A negotiation that starts after the first packet ends the
write with a `RangeError`, and the receiver obtains nothing. -/
theorem rounds_exact_iff (hhex : StandardHex pkg) (hcobs : CobsInverse pkg) {m : DataMap}
    (hm : CborInverse pkg m) {encoded : List UInt8} (henc : encoder pkg m = .ok encoded)
    (hroom : ∀ i, mtus i ≠ bleAttHeaderBytes) :
    ((∃ packets, (writeRounds mtus (List.range encoded.length)).run [] = .ok () packets ∧
        packets.flatten = List.range encoded.length) ↔ OneMtu mtus encoded.length) ∧
      (OneMtu mtus encoded.length →
        ∃ packets, (writeRounds mtus encoded).run [] = .ok () packets ∧ Carries pkg m packets) ∧
      ∀ k, 0 < k → (∀ i < k, mtus i = mtus 0) → bleAttHeaderBytes < mtus 0 →
        mtus k < bleAttHeaderBytes → (mtus 0 - bleAttHeaderBytes) * k < encoded.length →
        ∃ packets, (writeRounds mtus encoded).run [] = .error .rangeError packets ∧
          delivered (feed pkg [] packets).1 = [] := by
  have hne : encoded ≠ [] := by
    have h := henc
    rw [encoder_eq hhex hcobs, Except.ok.injEq] at h
    rw [← h]
    simp [frame]
  have hlen := List.length_pos_of_ne_nil hne
  refine ⟨⟨fun h => ?_, fun h => h.exact List.length_range
    (by simpa using hlen.ne') hroom⟩, fun h => ?_, ?_⟩
  · obtain ⟨packets, hrun, hflat⟩ := h
    exact .of_positions hlen hroom hrun hflat
  · obtain ⟨packets, hrun, hflat⟩ := h.exact rfl hne hroom
    exact ⟨packets, hrun, Encodes.carries hhex hcobs ⟨hm, by rw [hflat, henc]⟩⟩
  · intro k hk hsame hhigh hlow hlt
    obtain ⟨s, hs⟩ : ∃ s : ℕ, mtus 0 - bleAttHeaderBytes = s :=
      ⟨_, (Int.toNat_of_nonneg (by omega)).symm⟩
    rw [hs] at hlt
    have hlt' : s * k < encoded.length := by exact_mod_cast hlt
    exact ⟨_, writeRounds_error (by omega) hs hk hsame hlow hlt',
      delivered_pieces hhex hcobs henc hlt'⟩

/-- A message in three packets, and a negotiation after the second of them. -/
theorem rounds_exact_iff_sample :
    (∃ packets, (writeRounds (fun _ => 11) fwBlockFrame).run [] = .ok () packets ∧
        Carries samplePackages fwBlockResponse packets) ∧
      ∃ packets, (writeRounds (fun i => if i < 2 then 11 else 0) fwBlockFrame).run [] =
          .error .rangeError packets ∧ delivered (feed samplePackages [] packets).1 = [] := by
  have hhex := standardHex_reference samplePackages.cborEncode samplePackages.cborDecode
  have hcobs := (standardCobs_reference samplePackages.cborEncode samplePackages.cborDecode).inverse
  have hm := cborInverse_sample (m := fwBlockResponse) (by simp)
  refine ⟨(rounds_exact_iff hhex hcobs hm encoder_fwBlock (fun _ => by decide)).2.1
    (Or.inr fun _ _ => rfl), ?_⟩
  have hroom : ∀ i : ℕ, (if i < 2 then 11 else 0 : ℤ) ≠ bleAttHeaderBytes := by
    intro i
    split_ifs
    · decide
    · decide
  refine (rounds_exact_iff hhex hcobs hm encoder_fwBlock hroom).2.2 2 (by decide) ?_ (by decide)
    (by decide) (by decide)
  intro i hi
  rw [if_pos hi, if_pos (by decide)]

end SopepApp
