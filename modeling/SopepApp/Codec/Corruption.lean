import SopepApp.Codec.Stream
import SopepApp.Framing.Crc

/-!
Messages that arrive with errors, under the CRC-32C of the codec.

* `StandardCrc`: the checksum of the package is CRC-32C;
* `bytesBits`: bytes in the order in which the checksum reads their bits;
* `crc32C_eq`: CRC-32C as the check value of those bits;
* `Corrupted`: a frame that carries the payload of a message with an error burst
  of at most 32 bits;
* `decode_corrupted`: such a frame is null;
* `intact_delivered`: of a stream of frames, some of them corrupted, exactly the
  messages of the intact ones are delivered.
-/

namespace SopepApp

open Dart Delimited

variable {pkg : Packages}

/-- `Crc32C` of `crclib` is CRC-32C. -/
def StandardCrc (pkg : Packages) : Prop := ∀ data, pkg.crc32C data = crc32C data

/-! ### The checksum over bits -/

/-- The bits of bytes, the lowest of each byte first. -/
def bytesBits (bs : List UInt8) : List Bool := bs.flatMap fun b => Crc.bits 8 b.toNat

/-- The reflected Castagnoli polynomial. -/
def castagnoli : BitVec 32 := 0x82F63B78#32

lemma crcBit_eq (crc : UInt32) : (crcBit crc).toBitVec = Crc.shift castagnoli crc.toBitVec := by
  have hlow : crc &&& 1 = 1 ↔ crc.toBitVec.getLsbD 0 = true := by
    rw [← UInt32.toNat_inj, UInt32.toNat_and, BitVec.getLsbD, Nat.testBit_zero, decide_eq_true_eq]
    simp [Nat.and_one_is_mod]
  rw [crcBit, Crc.shift]
  by_cases h : crc &&& 1 = 1
  · rw [if_pos h, if_pos (hlow.mp h)]
    rfl
  · rw [if_neg h, if_neg fun hbit => h (hlow.mpr hbit)]
    rfl

lemma crcByte_eq (crc : UInt32) (b : UInt8) :
    (crcByte crc b).toBitVec = Crc.feed castagnoli crc.toBitVec (Crc.bits 8 b.toNat) := by
  have hbyte : b.toUInt32.toBitVec.toNat = b.toNat := by simp
  have hvec : (Crc.vec (Crc.bits 8 b.toNat) : BitVec 32) = b.toUInt32.toBitVec := by
    rw [← hbyte]
    exact Crc.vec_bits (by rw [hbyte]; exact b.toNat_lt)
  have hiter : ∀ (n : ℕ) (r : UInt32),
      (crcBit^[n] r).toBitVec = (Crc.shift castagnoli)^[n] r.toBitVec := by
    intro n
    induction n with
    | zero => exact fun r => rfl
    | succ n ih =>
        intro r
        rw [Function.iterate_succ_apply, Function.iterate_succ_apply, ih, crcBit_eq]
  rw [crcByte, hiter, Crc.feed_eq _ _ (by simp), Crc.length_bits, hvec, UInt32.toBitVec_xor]

/-- **CRC-32C as a check value.** -/
lemma crc32C_eq (data : List UInt8) :
    (crc32C data).toBitVec =
      Crc.feed castagnoli 0xFFFFFFFF#32 (bytesBits data) ^^^ 0xFFFFFFFF#32 := by
  have hfold : ∀ (r : UInt32), (data.foldl crcByte r).toBitVec =
      Crc.feed castagnoli r.toBitVec (bytesBits data) := by
    induction data with
    | nil => exact fun r => rfl
    | cons b data ih =>
        intro r
        rw [List.foldl_cons, ih, crcByte_eq, ← Crc.feed_append]
        rfl
  rw [crc32C, UInt32.toBitVec_xor, hfold]
  rfl

/-! ### Payloads as checked inputs -/

lemma bits_add (j k n : ℕ) : Crc.bits (j + k) n = Crc.bits j n ++ Crc.bits k (n / 2 ^ j) := by
  rw [Crc.bits, List.range_add, List.map_append, List.map_map]
  congr 1
  refine List.map_congr_left fun i _ => ?_
  rw [Function.comp_apply, Nat.testBit_div_two_pow, Nat.add_comm]

lemma bits_mod (k n : ℕ) : Crc.bits k (n % 2 ^ k) = Crc.bits k n := by
  refine List.map_congr_left fun i hi => ?_
  rw [Nat.testBit_mod_two_pow, decide_eq_true (List.mem_range.mp hi), Bool.true_and]

lemma bytesBits_append (xs ys : List UInt8) :
    bytesBits (xs ++ ys) = bytesBits xs ++ bytesBits ys := List.flatMap_append

lemma length_bytesBits (bs : List UInt8) : (bytesBits bs).length = 8 * bs.length := by
  induction bs with
  | nil => rfl
  | cons b bs ih =>
      rw [bytesBits, List.flatMap_cons, List.length_append, Crc.length_bits, List.length_cons]
      change 8 + (bytesBits bs).length = _
      rw [ih]
      ring

lemma bytesBits_injective : Function.Injective bytesBits := by
  intro xs
  induction xs with
  | nil =>
      intro ys h
      have hlen := congrArg List.length h
      rw [length_bytesBits, length_bytesBits, List.length_nil] at hlen
      exact (List.length_eq_zero_iff.mp (by omega)).symm
  | cons x xs ih =>
      intro ys h
      cases ys with
      | nil =>
          have hlen := congrArg List.length h
          rw [length_bytesBits, length_bytesBits, List.length_nil, List.length_cons] at hlen
          omega
      | cons y ys =>
          obtain ⟨hbits, hrest⟩ := List.append_inj (h : Crc.bits 8 x.toNat ++ bytesBits xs =
            Crc.bits 8 y.toNat ++ bytesBits ys) (by simp)
          have hvec := congrArg (Crc.vec : List Bool → BitVec 8) hbits
          have hx : Crc.vec (Crc.bits 8 x.toNat) = x.toBitVec := Crc.vec_bits x.toBitVec.isLt
          have hy : Crc.vec (Crc.bits 8 y.toNat) = y.toBitVec := Crc.vec_bits y.toBitVec.isLt
          rw [hx, hy, UInt8.toBitVec_inj] at hvec
          rw [hvec, ih hrest]

lemma bytesBits_littleEndian (n : UInt32) :
    bytesBits (Hex.littleEndian n) = Crc.bits 32 n.toNat := by
  have hbyte : ∀ s : UInt32, s.toNat < 32 →
      Crc.bits 8 (n >>> s).toUInt8.toNat = Crc.bits 8 (n.toNat / 2 ^ s.toNat) := by
    intro s hs
    rw [← Hex.ofNat_shift n s hs, UInt8.toNat_ofNat', Nat.mod_mod]
    exact bits_mod 8 _
  have h0 : Crc.bits 8 n.toUInt8.toNat = Crc.bits 8 n.toNat := by
    rw [UInt32.toNat_toUInt8]
    exact bits_mod 8 _
  have h8 := hbyte 8 (by decide)
  have h16 := hbyte 16 (by decide)
  have h24 := hbyte 24 (by decide)
  have hsplit : Crc.bits 32 n.toNat = Crc.bits 8 n.toNat ++ (Crc.bits 8 (n.toNat / 2 ^ 8) ++
      (Crc.bits 8 (n.toNat / 2 ^ 16) ++ Crc.bits 8 (n.toNat / 2 ^ 24))) := by
    rw [show 32 = 8 + (8 + (8 + 8)) from rfl, bits_add, bits_add, bits_add, Nat.div_div_eq_div_mul,
      Nat.div_div_eq_div_mul]
    rfl
  rw [hsplit, bytesBits, Hex.littleEndian]
  simp only [List.flatMap_cons, List.flatMap_nil, List.append_nil, h0, h8, h16, h24]
  rfl

/-- **Bytes with their checksum are a checked input.** -/
lemma bytesBits_checked (p : List UInt8) :
    bytesBits (p ++ Hex.littleEndian (crc32C p)) = bytesBits p ++ Crc.bits 32
      (Crc.feed castagnoli 0xFFFFFFFF#32 (bytesBits p) ^^^ 0xFFFFFFFF#32).toNat := by
  rw [bytesBits_append, bytesBits_littleEndian, ← crc32C_eq]
  rfl

/-! ### Corrupted frames -/

/-- A frame, without its delimiters, that carries the payload of the message `m`
with an error burst of at most 32 bits. -/
structure Corrupted (pkg : Packages) (m : DataMap) (c : List UInt8) : Prop where
  isBody : IsBody 0 c
  burst : ∃ q, Cobs.decode c = some q ∧ q ≠ payload pkg m ∧
    Crc.Burst 32 (bytesBits (payload pkg m)) (bytesBits q)

/-- A burst keeps the length. -/
lemma length_eq_of_burst {p q : List UInt8} {k : ℕ}
    (h : Crc.Burst k (bytesBits p) (bytesBits q)) : p.length = q.length := by
  obtain ⟨pre, as, bs, post, hp, hq, hlen, -⟩ := h
  have hp := congrArg List.length hp
  have hq := congrArg List.length hq
  simp only [length_bytesBits, List.length_append, hlen] at hp hq
  omega

/-- **A corrupted frame is null**: its checksum is wrong. -/
theorem decode_corrupted (hhex : StandardHex pkg) (hcobs : StandardCobs pkg)
    (hcrc : StandardCrc pkg) {m : DataMap} {c : List UInt8} (hc : Corrupted pkg m c) :
    decode pkg c = .ok none := by
  obtain ⟨q, hdec, hne, hburst⟩ := hc.burst
  have hlen : 4 ≤ q.length := by
    rw [← length_eq_of_burst hburst, length_payload]
    omega
  rw [decode_eq_checkPayload hhex hcobs, hdec]
  dsimp only
  rw [checkPayload, if_neg (by omega), if_pos]
  intro hsum
  have hq : q = q.take (q.length - 4) ++ Hex.littleEndian (crc32C (q.take (q.length - 4))) := by
    rw [← hcrc, ← hsum, List.take_append_drop]
  rw [payload, hcrc] at hne hburst
  rw [hq, bytesBits_checked, bytesBits_checked] at hburst
  have hsame := hburst.eq_of_checked (by decide)
  rw [← bytesBits_checked, ← bytesBits_checked, ← hq] at hsame
  exact hne (bytesBits_injective hsame).symm

/-! ### Streams with corrupted frames -/

/-- A stream of frames that all decode, no chunk with the ends of two: the
messages among the results are delivered. -/
lemma delivered_of_oneEnd {cs : List (List UInt8)} (hcs : ∀ c ∈ cs, IsBody 0 c)
    (hok : ∀ c ∈ cs, ∃ r, decode pkg c = .ok r) {chunks : List (List UInt8)}
    (hcut : chunks.flatten = cs.flatMap (frame 0)) (hone : OneEnd (cs.map (frame 0)) chunks) :
    (∀ r ∈ (feed pkg [] chunks).1, ∃ m, r = .ok m) ∧
      delivered (feed pkg [] chunks).1 = cs.filterMap (decoded pkg) ∧
      (feed pkg [] chunks).2 = [] := by
  have hsplit : split 0 [] chunks.flatten = (cs, []) := by rw [hcut, split_frames hcs]
  have hflat : (completed 0 [] chunks).flatten = cs := by rw [flatten_completed, hsplit]
  have hle := (completed_le_one_iff hcs (by rw [hcut, List.flatMap_def])).mpr hone
  have hlast : ∀ fs ∈ completed 0 [] chunks,
      (fs.getLast?.bind (decoded pkg)).toList = fs.filterMap (decoded pkg) := by
    intro fs hfs
    match fs, hle fs hfs with
    | [], _ => rfl
    | [f], _ => cases hf : decoded pkg f <;> simp [hf]
  have hdelivered : ∀ ls : List (List (List UInt8)), (∀ fs ∈ ls,
      (fs.getLast?.bind (decoded pkg)).toList = fs.filterMap (decoded pkg)) →
      delivered (ls.map fun fs => .ok (fs.getLast?.bind (decoded pkg))) =
        ls.flatten.filterMap (decoded pkg) := by
    intro ls hls
    induction ls with
    | nil => rfl
    | cons fs ls ih =>
        rw [List.flatten_cons, List.filterMap_append, ← hls fs List.mem_cons_self,
          ← ih fun fs' hfs' => hls fs' (List.mem_cons_of_mem fs hfs'), List.map_cons]
        cases hfs : fs.getLast?.bind (decoded pkg) with
        | none => simp [delivered]
        | some m => simp [delivered]
  rw [feed_run chunks [] (by rw [hsplit]; exact hok), hsplit]
  refine ⟨?_, ?_, rfl⟩
  · intro r hr
    obtain ⟨fs, -, rfl⟩ := List.mem_map.mp hr
    exact ⟨_, rfl⟩
  · dsimp only
    rw [hdelivered _ hlast, hflat]

/-- **Exactly the intact messages are delivered**: messages are sent, and between
its delimiters each arrives either as it was encoded or with an error burst of
at most 32 bits; as long as no chunk holds the ends of two frames, nothing
throws, the intact messages are delivered in their order and no corrupted one
is, and the stack ends empty. -/
theorem intact_delivered (hhex : StandardHex pkg) (hcobs : StandardCobs pkg)
    (hcrc : StandardCrc pkg) {sent : List (DataMap × List UInt8)}
    (hsent : ∀ e ∈ sent, CborInverse pkg e.1 ∧ (e.2 = body pkg e.1 ∨ Corrupted pkg e.1 e.2))
    {chunks : List (List UInt8)}
    (hcut : chunks.flatten = (sent.map Prod.snd).flatMap (frame 0))
    (hone : OneEnd ((sent.map Prod.snd).map (frame 0)) chunks) :
    (∀ r ∈ (feed pkg [] chunks).1, ∃ m, r = .ok m) ∧
      delivered (feed pkg [] chunks).1 =
        (sent.filter fun e => e.2 = body pkg e.1).map Prod.fst ∧
      (feed pkg [] chunks).2 = [] := by
  have hintact : ∀ e ∈ sent, e.2 = body pkg e.1 → decode pkg e.2 = .ok (some e.1) := by
    intro e he heq
    rw [heq]
    exact decode_body hhex hcobs.inverse (hsent e he).1
  have hdropped : ∀ e ∈ sent, e.2 ≠ body pkg e.1 → decode pkg e.2 = .ok none := by
    intro e he hne
    exact decode_corrupted hhex hcobs hcrc ((hsent e he).2.resolve_left hne)
  have hbody : ∀ c ∈ sent.map Prod.snd, IsBody 0 c := by
    intro c hc
    obtain ⟨e, he, rfl⟩ := List.mem_map.mp hc
    rcases (hsent e he).2 with heq | hcorrupted
    · rw [heq]
      exact isBody_body hcobs.inverse e.1
    · exact hcorrupted.isBody
  have hok : ∀ c ∈ sent.map Prod.snd, ∃ r, decode pkg c = .ok r := by
    intro c hc
    obtain ⟨e, he, rfl⟩ := List.mem_map.mp hc
    by_cases heq : e.2 = body pkg e.1
    · exact ⟨_, hintact e he heq⟩
    · exact ⟨_, hdropped e he heq⟩
  obtain ⟨hthrow, hall, hstack⟩ := delivered_of_oneEnd hbody hok hcut hone
  refine ⟨hthrow, ?_, hstack⟩
  rw [hall, List.filterMap_map, ← List.filterMap_eq_map, List.filterMap_filter]
  refine List.filterMap_congr fun e he => ?_
  rw [Function.comp_apply]
  by_cases heq : e.2 = body pkg e.1
  · rw [decoded_of_ok (hintact e he heq), if_pos (decide_eq_true heq)]
    rfl
  · rw [decoded_of_ok (hdropped e he heq), if_neg (by simpa using heq)]

/-- The response to a firmware block, one bit of its first key flipped. -/
def flippedFrame : List UInt8 :=
  [0x13, 0xA1, 0x63, 0x73, 0x73, 0x70, 0x68, 0x66, 0x77, 0x2D, 0x62, 0x6C, 0x6F, 0x63, 0x6B,
    0x37, 0xA8, 0xE8, 0x3F]

lemma corrupted_flipped : Corrupted samplePackages fwBlockResponse flippedFrame where
  isBody := ⟨List.cons_ne_nil _ _, by decide⟩
  burst := by
    refine ⟨flippedFrame.drop 1, by decide +kernel, by decide +kernel,
      bytesBits [0xA1, 0x63], bytesBits [0x72], bytesBits [0x73],
      bytesBits (flippedFrame.drop 4), ?_, ?_, ?_, ?_⟩
    all_goals decide +kernel

/-- The messages of the sample, the first with a flipped frame. -/
def flippedSent : List (DataMap × List UInt8) :=
  [(fwBlockResponse, flippedFrame), (newDataEvent, body samplePackages newDataEvent)]

lemma flippedSent_intact : ∀ e ∈ flippedSent, CborInverse samplePackages e.1 ∧
    (e.2 = body samplePackages e.1 ∨ Corrupted samplePackages e.1 e.2) := by
  simp only [flippedSent, List.forall_mem_cons]
  exact ⟨⟨cborInverse_sample (by simp), Or.inr corrupted_flipped⟩,
    ⟨cborInverse_sample (by simp), Or.inl trivial⟩, by simp⟩

/-- The flipped frame, and a message after it. -/
theorem intact_delivered_sample :
    (∀ r ∈ (feed samplePackages [] [frame 0 flippedFrame, newDataFrame]).1, ∃ m, r = .ok m) ∧
      delivered (feed samplePackages [] [frame 0 flippedFrame, newDataFrame]).1 =
        (flippedSent.filter fun e => e.2 = body samplePackages e.1).map Prod.fst ∧
      (feed samplePackages [] [frame 0 flippedFrame, newDataFrame]).2 = [] := by
  have hnew : frame 0 (body samplePackages newDataEvent) = newDataFrame := by decide +kernel
  refine intact_delivered (standardHex_reference _ _) (standardCobs_reference _ _) (fun _ => rfl)
    flippedSent_intact ?_ ?_
  · simp [flippedSent, hnew]
  · have hbody : ∀ c ∈ [flippedFrame, body samplePackages newDataEvent], IsBody 0 c := by
      simp only [List.forall_mem_cons]
      exact ⟨corrupted_flipped.isBody,
        isBody_body (standardCobs_reference _ _).inverse newDataEvent, by simp⟩
    have hcut : [frame 0 flippedFrame, newDataFrame].flatten =
        [flippedFrame, body samplePackages newDataEvent].flatMap (frame 0) := by simp [hnew]
    have hle : ∀ l ∈ completed 0 [] [frame 0 flippedFrame, newDataFrame], l.length ≤ 1 := by
      decide +kernel
    have hone := (completed_le_one_iff hbody hcut).mp hle
    simpa [flippedSent] using hone

end SopepApp
