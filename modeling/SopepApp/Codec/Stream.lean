import SopepApp.Codec.EncoderDecoder
import SopepApp.Codec.Reference

/-!
The decoder over a stream of notification chunks.

* `feed`: the chunks of a stream given to one decoder, each with its result;
  a throw drops the rest of its chunk;
* `delivered`: the non-null results, the messages a listener can pass on;
* `feed_frames`: over the chunks of encoded messages the decoder delivers one
  message for each chunk that completes a frame;
* `decoder_stream_iff`: the messages sent are the messages delivered exactly
  when no chunk holds the ends of two frames;
* `Stuck`: a stack of bytes on which `decode` throws;
* `decoder_resync_iff`: after any chunks at all, the next message sent as one
  chunk is returned exactly when the stack is not stuck; a stuck stack stays
  as it is under messages sent as whole chunks (`feed_stuck`);
* `exists_probe`: any bytes on the stack are told from an empty stack by some
  bytes after them.
-/

namespace SopepApp

open Dart Delimited

variable {pkg : Packages}

/-- The results of one decoder over the chunks of a stream, and the stack
after it. -/
def feed (pkg : Packages) : List UInt8 → List (List UInt8) →
    List (Except Error (Option DataMap)) × List UInt8
  | raw, [] => ([], raw)
  | raw, c :: chunks =>
    let rest := feed pkg ((decoder pkg c).finalState raw) chunks
    ((decoder pkg c).outcome raw :: rest.1, rest.2)

/-- The non-null results. -/
def delivered (results : List (Except Error (Option DataMap))) : List DataMap :=
  results.filterMap fun r =>
    match r with
    | .ok m => m
    | .error _ => none

lemma feed_append (chunks chunks' : List (List UInt8)) : ∀ raw : List UInt8,
    feed pkg raw (chunks ++ chunks') =
      ((feed pkg raw chunks).1 ++ (feed pkg (feed pkg raw chunks).2 chunks').1,
        (feed pkg (feed pkg raw chunks).2 chunks').2) := by
  induction chunks with
  | nil =>
      intro raw
      rfl
  | cons c chunks ih =>
      intro raw
      simp only [List.cons_append, feed, ih]

lemma delivered_append (rs rs' : List (Except Error (Option DataMap))) :
    delivered (rs ++ rs') = delivered rs ++ delivered rs' := List.filterMap_append

/-- Chunks whose frames do not throw: each delivers the message of the last
frame it completes. -/
lemma feed_run (chunks : List (List UInt8)) : ∀ raw : List UInt8,
    (∀ f ∈ (split 0 raw chunks.flatten).1, ∃ r, decode pkg f = .ok r) →
    feed pkg raw chunks =
      ((completed 0 raw chunks).map fun fs => .ok (fs.getLast?.bind (decoded pkg)),
        (split 0 raw chunks.flatten).2) := by
  induction chunks with
  | nil =>
      intro raw _
      rfl
  | cons c chunks ih =>
      intro raw hok
      rw [List.flatten_cons, split_append] at hok ⊢
      have hc := decoder_run pkg raw c
        fun f hf => hok f (List.mem_append_left _ hf)
      have hrest := ih (split 0 raw c).2 fun f hf => hok f (List.mem_append_right _ hf)
      simp only [feed, completed, List.map_cons, Effect.finalState_of_ok hc,
        Effect.outcome_of_ok hc, hrest]

/-- Filtering messages that are all there keeps the last one. -/
lemma getLast?_filterMap {α β : Type*} (g : α → Option β) (l : List α)
    (h : ∀ a ∈ l, ∃ b, g a = some b) :
    (l.filterMap g).getLast? = l.getLast?.bind g ∧ (l.filterMap g).length = l.length := by
  induction l using List.reverseRecOn with
  | nil => simp
  | append_singleton l a ih =>
      obtain ⟨b, hb⟩ := h a (by simp)
      have hl := (ih fun a' ha' => h a' (List.mem_append_left _ ha')).2
      rw [List.filterMap_append, List.filterMap_cons_some hb, List.filterMap_nil]
      simp [hb, hl]

/-- Every message is encoded, each as a frame around its COBS bytes. -/
lemma mapM_encoder (hhex : StandardHex pkg) (hcobs : CobsInverse pkg) (ms : List DataMap) :
    ms.mapM (encoder pkg) = .ok ((ms.map (body pkg)).map (frame 0)) := by
  induction ms with
  | nil => rfl
  | cons m ms ih =>
      rw [List.mapM_cons, encoder_eq hhex hcobs, ih]
      rfl

/-- The COBS bytes of messages decode to the messages. -/
lemma filterMap_decoded_body (hhex : StandardHex pkg) (hcobs : CobsInverse pkg) {ms : List DataMap}
    (hms : ∀ m ∈ ms, CborInverse pkg m) : (ms.map (body pkg)).filterMap (decoded pkg) = ms := by
  induction ms with
  | nil => rfl
  | cons m ms ih =>
      have hm := decoded_of_ok (decode_body hhex hcobs (hms m (by simp)))
      rw [List.map_cons, List.filterMap_cons_some hm,
        ih fun m' hm' => hms m' (List.mem_cons_of_mem m hm')]

/-- **The chunks of encoded messages**: nothing throws, the stack ends empty,
and each chunk delivers the last of the messages it completes. -/
theorem feed_frames (hhex : StandardHex pkg) (hcobs : CobsInverse pkg) {ms : List DataMap}
    (hms : ∀ m ∈ ms, CborInverse pkg m) {chunks : List (List UInt8)}
    (hcut : chunks.flatten = (ms.map (body pkg)).flatMap (frame 0)) :
    ∃ ls : List (List DataMap), ls.flatten = ms ∧
      ls.map List.length = (completed 0 [] chunks).map List.length ∧
      feed pkg [] chunks = (ls.map fun l => .ok l.getLast?, []) := by
  have hbody : ∀ c ∈ ms.map (body pkg), IsBody 0 c := by
    intro c hc
    obtain ⟨m, -, rfl⟩ := List.mem_map.mp hc
    exact isBody_body hcobs m
  have hok : ∀ f ∈ ms.map (body pkg), ∃ m, decode pkg f = .ok (some m) := by
    intro f hf
    obtain ⟨m, hm, rfl⟩ := List.mem_map.mp hf
    exact ⟨m, decode_body hhex hcobs (hms m hm)⟩
  have hsplit : split 0 [] chunks.flatten = (ms.map (body pkg), []) := by
    rw [hcut, split_frames hbody]
  have hflat : (completed 0 [] chunks).flatten = ms.map (body pkg) := by
    rw [flatten_completed, hsplit]
  have hsome : ∀ fs ∈ completed 0 [] chunks, ∀ f ∈ fs, ∃ m, decoded pkg f = some m := by
    intro fs hfs f hf
    obtain ⟨m, hm⟩ := hok f (by
      rw [← hflat]
      exact List.mem_flatten.mpr ⟨fs, hfs, hf⟩)
    exact ⟨m, decoded_of_ok hm⟩
  refine ⟨(completed 0 [] chunks).map (List.filterMap (decoded pkg)), ?_, ?_, ?_⟩
  · rw [← List.filterMap_flatten, hflat, filterMap_decoded_body hhex hcobs hms]
  · rw [List.map_map]
    exact List.map_congr_left fun fs hfs => (getLast?_filterMap _ fs (hsome fs hfs)).2
  · rw [feed_run chunks [] (by
      rw [hsplit]
      intro f hf
      obtain ⟨m, hm⟩ := hok f hf
      exact ⟨_, hm⟩), hsplit, List.map_map]
    refine Prod.ext (List.map_congr_left fun fs hfs => ?_) rfl
    rw [Function.comp_apply, (getLast?_filterMap _ fs (hsome fs hfs)).1]

/-- The messages delivered by results that do not throw. -/
lemma delivered_map_ok (ls : List (List DataMap)) :
    delivered (ls.map fun l => .ok l.getLast?) = ls.flatMap fun l => l.getLast?.toList := by
  induction ls with
  | nil => rfl
  | cons l ls ih =>
      rw [List.map_cons, List.flatMap_cons, ← ih]
      cases h : l.getLast? with
      | none => rfl
      | some m => rfl

/-- **The messages sent are the messages delivered**, in order and with
nothing left on the stack, exactly when no chunk holds the ends of two frames:
of the frames a chunk completes, the decoder returns the last only. -/
theorem decoder_stream_iff (hhex : StandardHex pkg) (hcobs : CobsInverse pkg) {ms : List DataMap}
    (hms : ∀ m ∈ ms, CborInverse pkg m) {frames chunks : List (List UInt8)}
    (henc : ms.mapM (encoder pkg) = .ok frames) (hcut : chunks.flatten = frames.flatten) :
    (delivered (feed pkg [] chunks).1 = ms ∧ (feed pkg [] chunks).2 = []) ↔
      OneEnd frames chunks := by
  have hframes : frames = (ms.map (body pkg)).map (frame 0) := by
    rw [mapM_encoder hhex hcobs] at henc
    exact (Except.ok.inj henc).symm
  have hbody : ∀ c ∈ ms.map (body pkg), IsBody 0 c := by
    intro c hc
    obtain ⟨m, -, rfl⟩ := List.mem_map.mp hc
    exact isBody_body hcobs m
  rw [hframes] at hcut ⊢
  obtain ⟨ls, hls, hlen, hfeed⟩ := feed_frames hhex hcobs hms hcut
  have hle : (∀ l ∈ ls, l.length ≤ 1) ↔ ∀ l ∈ completed 0 [] chunks, l.length ≤ 1 :=
    calc (∀ l ∈ ls, l.length ≤ 1)
        ↔ ∀ n ∈ ls.map List.length, n ≤ 1 := by rw [List.forall_mem_map]
      _ ↔ ∀ n ∈ (completed 0 [] chunks).map List.length, n ≤ 1 := by rw [hlen]
      _ ↔ ∀ l ∈ completed 0 [] chunks, l.length ≤ 1 := by rw [List.forall_mem_map]
  rw [hfeed, delivered_map_ok, ← completed_le_one_iff hbody hcut, ← hle, ← flatMap_getLast_iff,
    hls]
  exact and_iff_left rfl

/-- The wire bytes of `fwBlockResponse`. -/
def fwBlockFrame : List UInt8 :=
  [0x00, 0x13, 0xA1, 0x63, 0x72, 0x73, 0x70, 0x68, 0x66, 0x77, 0x2D, 0x62, 0x6C, 0x6F, 0x63, 0x6B,
    0x37, 0xA8, 0xE8, 0x3F, 0x00]

/-- The wire bytes of `newDataEvent`. -/
def newDataFrame : List UInt8 :=
  [0x00, 0x15, 0xA1, 0x65, 0x65, 0x76, 0x65, 0x6E, 0x74, 0x68, 0x6E, 0x65, 0x77, 0x2D, 0x64, 0x61,
    0x74, 0x61, 0x81, 0x2E, 0x16, 0x38, 0x00]

lemma encoder_fwBlock : encoder samplePackages fwBlockResponse = .ok fwBlockFrame := by
  decide +kernel

/-- The two messages on the wire. -/
lemma mapM_encoder_sample :
    [fwBlockResponse, newDataEvent].mapM (encoder samplePackages) =
      .ok [fwBlockFrame, newDataFrame] := by
  have hnew : encoder samplePackages newDataEvent = .ok newDataFrame := by decide +kernel
  rw [List.mapM_cons, List.mapM_cons, List.mapM_nil, encoder_fwBlock, hnew]
  rfl

/-- Two messages in three chunks: the second chunk ends the first frame and
begins the second. -/
theorem decoder_stream_sample :
    (delivered (feed samplePackages []
        [fwBlockFrame.take 5, fwBlockFrame.drop 5 ++ newDataFrame.take 9, newDataFrame.drop 9]).1 =
          [fwBlockResponse, newDataEvent] ∧
      (feed samplePackages []
        [fwBlockFrame.take 5, fwBlockFrame.drop 5 ++ newDataFrame.take 9, newDataFrame.drop 9]).2 =
          []) ↔
      OneEnd [fwBlockFrame, newDataFrame]
        [fwBlockFrame.take 5, fwBlockFrame.drop 5 ++ newDataFrame.take 9, newDataFrame.drop 9] :=
  decoder_stream_iff (standardHex_reference _ _) (standardCobs_reference _ _).inverse
    (fun _ hm => cborInverse_sample (List.mem_append_left _ hm)) mapM_encoder_sample rfl

/-- Two whole frames in one chunk: the first message is lost. -/
theorem two_frames_one_chunk :
    ¬ ∀ pkg : Packages, StandardHex pkg → CobsInverse pkg →
      ∀ (ms : List DataMap) (frames chunks : List (List UInt8)),
        (∀ m ∈ ms, CborInverse pkg m) → ms.mapM (encoder pkg) = .ok frames →
        chunks.flatten = frames.flatten →
        delivered (feed pkg [] chunks).1 = ms ∧ (feed pkg [] chunks).2 = [] := by
  intro h
  have hms := h samplePackages (standardHex_reference _ _) (standardCobs_reference _ _).inverse
    [fwBlockResponse, newDataEvent] [fwBlockFrame, newDataFrame] [fwBlockFrame ++ newDataFrame]
    (fun _ hm => cborInverse_sample (List.mem_append_left _ hm)) mapM_encoder_sample (by simp)
  have hlast : delivered (feed samplePackages [] [fwBlockFrame ++ newDataFrame]).1 =
      [newDataEvent] := by
    decide +kernel
  rw [hlast] at hms
  exact absurd hms.1 (by decide)

/-! ### Resynchronisation -/

/-- A stack on which `decode` throws: its COBS decoding succeeds and yields
fewer than four bytes, or a payload with the right checksum that is not the
CBOR of a map. -/
def Stuck (pkg : Packages) (raw : List UInt8) : Prop :=
  raw ≠ [] ∧ ∃ q, Cobs.decode raw = some q ∧
    (q.length < 4 ∨
      q.drop (q.length - 4) = Hex.littleEndian (pkg.crc32C (q.take (q.length - 4))) ∧
        ∀ m, pkg.cborDecode (q.take (q.length - 4)) ≠ .ok (.map m))

/-- The payload check throws in two cases. -/
lemma checkPayload_error_iff (q : List UInt8) :
    (∃ e, checkPayload pkg q = .error e) ↔
      (q.length < 4 ∨
        q.drop (q.length - 4) = Hex.littleEndian (pkg.crc32C (q.take (q.length - 4))) ∧
          ∀ m, pkg.cborDecode (q.take (q.length - 4)) ≠ .ok (.map m)) := by
  rw [checkPayload]
  by_cases hlen : q.length < 4
  · simp [hlen]
  by_cases hcrc : q.drop (q.length - 4) = Hex.littleEndian (pkg.crc32C (q.take (q.length - 4)))
  · cases hcbor : pkg.cborDecode (q.take (q.length - 4)) with
    | error e => simp [hlen, hcrc]
    | ok v => cases v <;> simp [hlen, hcrc]
  · simp [hlen, hcrc]

/-- `decode` throws on a stuck stack and on no other non-empty one. -/
lemma decode_error_iff (hhex : StandardHex pkg) (hcobs : StandardCobs pkg) {raw : List UInt8}
    (hraw : raw ≠ []) : (∃ e, decode pkg raw = .error e) ↔ Stuck pkg raw := by
  rw [decode_eq_checkPayload hhex hcobs, Stuck]
  cases Cobs.decode raw with
  | none => simp
  | some q => simp [checkPayload_error_iff, hraw]

/-- A stack that is not stuck is empty or decodes. -/
lemma decodes_of_not_stuck (hhex : StandardHex pkg) (hcobs : StandardCobs pkg) {raw : List UInt8}
    (h : ¬ Stuck pkg raw) : raw = [] ∨ ∃ r, decode pkg raw = .ok r := by
  by_cases hraw : raw = []
  · exact Or.inl hraw
  · rw [← decode_error_iff hhex hcobs hraw] at h
    cases hdec : decode pkg raw with
    | ok r => exact Or.inr ⟨r, rfl⟩
    | error e => exact absurd ⟨e, hdec⟩ h

/-- The decoder on the bytes of a message after the first delimiter. -/
lemma decoderLoop_body (hhex : StandardHex pkg) (hcobs : CobsInverse pkg) {m : DataMap}
    (hm : CborInverse pkg m) (dataMap : Option DataMap) :
    (decoderLoop pkg (body pkg m ++ [0]) dataMap).run [] = .ok (some m) [] := by
  have hm' := decode_body hhex hcobs hm
  have hsplit : split 0 [] (body pkg m ++ [0]) = ([body pkg m], []) :=
    split_body_append (isBody_body hcobs m) []
  rw [decoderLoop_run _ _ _ (by simp [hsplit, hm']), hsplit]
  simp [decoded_of_ok hm']

/-- The decoder on a whole frame: the first delimiter gives what is on the
stack to `decode`. -/
lemma decoder_frame (hhex : StandardHex pkg) (hcobs : CobsInverse pkg) {m : DataMap}
    (hm : CborInverse pkg m) {raw : List UInt8}
    (hok : raw = [] ∨ ∃ r, decode pkg raw = .ok r) :
    (decoder pkg (frame 0 (body pkg m))).run raw = .ok (some m) [] := by
  rw [decoder, frame]
  rcases hok with rfl | ⟨r, hr⟩
  · rw [decoderLoop_zero_nil, decoderLoop_body hhex hcobs hm]
  · by_cases hraw : raw = []
    · rw [hraw, decoderLoop_zero_nil, decoderLoop_body hhex hcobs hm]
    · rw [decoderLoop_zero_ok hraw hr, decoderLoop_body hhex hcobs hm]

/-- The decoder on an encoded message. -/
lemma decoder_encoder (hhex : StandardHex pkg) (hcobs : CobsInverse pkg) {m : DataMap}
    (hm : CborInverse pkg m) {encoded : List UInt8} (henc : encoder pkg m = .ok encoded) :
    (decoder pkg encoded).run [] = .ok (some m) [] := by
  rw [encoder_eq hhex hcobs, Except.ok.injEq] at henc
  rw [← henc]
  exact decoder_frame hhex hcobs hm (Or.inl rfl)

/-- A chunk that begins with a delimiter leaves a stuck stack as it is. -/
lemma decoder_stuck (hhex : StandardHex pkg) (hcobs : StandardCobs pkg) {raw : List UInt8}
    (hraw : Stuck pkg raw) (data : List UInt8) :
    ∃ e, (decoder pkg (0 :: data)).run raw = .error e raw := by
  obtain ⟨e, he⟩ := (decode_error_iff hhex hcobs hraw.1).mpr hraw
  exact ⟨e, decoderLoop_zero_error hraw.1 he data none⟩

/-- **A stuck stack** delivers nothing, however many messages arrive as whole
chunks. -/
theorem feed_stuck (hhex : StandardHex pkg) (hcobs : StandardCobs pkg) {raw : List UInt8}
    (hraw : Stuck pkg raw) (ms : List DataMap) :
    delivered (feed pkg raw (ms.map fun m => frame 0 (body pkg m))).1 = [] ∧
      (feed pkg raw (ms.map fun m => frame 0 (body pkg m))).2 = raw := by
  induction ms with
  | nil => exact ⟨rfl, rfl⟩
  | cons m ms ih =>
      obtain ⟨e, he⟩ := decoder_stuck hhex hcobs hraw (body pkg m ++ [0])
      rw [List.map_cons, feed, frame, Effect.finalState_of_error he, Effect.outcome_of_error he]
      exact ih

/-- A payload whose last byte may be one of two is stuck with one of them at
most: the checksum is right for one byte only. -/
lemma not_stuck_of_last {raw raw' p : List UInt8} (hp : 4 ≤ p.length)
    (h1 : Cobs.decode raw = some (p ++ [1])) (h2 : Cobs.decode raw' = some (p ++ [2])) :
    ¬ Stuck pkg raw ∨ ¬ Stuck pkg raw' := by
  have hchecksum : ∀ {r : List UInt8} {x : UInt8}, Cobs.decode r = some (p ++ [x]) →
      Stuck pkg r →
      p.drop (p.length - 3) ++ [x] = Hex.littleEndian (pkg.crc32C (p.take (p.length - 3))) := by
    rintro r x hr ⟨-, q, hq, hcase⟩
    rw [hr, Option.some.injEq] at hq
    subst hq
    have hlen : (p ++ [x]).length - 4 = p.length - 3 := by
      rw [List.length_append, List.length_singleton]
      omega
    rcases hcase with hshort | ⟨hcrc, -⟩
    · rw [List.length_append, List.length_singleton] at hshort
      omega
    · rwa [hlen, List.drop_append_of_le_length (by omega),
        List.take_append_of_le_length (by omega)] at hcrc
  by_contra hboth
  push Not at hboth
  have heq := (hchecksum h1 hboth.1).trans (hchecksum h2 hboth.2).symm
  simp at heq

/-- **Bytes on the stack show**: after any bytes that do not throw there can
come some that throw on their own, and not after these. -/
theorem exists_probe {raw : List UInt8} (hraw : raw ≠ []) (hok : ¬ Stuck pkg raw) :
    ∃ s, (0 : UInt8) ∉ s ∧ Stuck pkg s ∧ ¬ Stuck pkg (raw ++ s) := by
  have hone : Stuck pkg [1] := ⟨List.cons_ne_nil _ _, [], rfl, Or.inl (by simp)⟩
  have htwo : ∀ x : UInt8, x ≠ 0 → Stuck pkg [2, x] := by
    intro x hx
    refine ⟨List.cons_ne_nil _ _, [x], ?_, Or.inl (by simp)⟩
    exact Cobs.decodeBlock_two false hx
  have hfailed : ∀ {r : List UInt8}, Cobs.decode r = none → ¬ Stuck pkg r := by
    rintro r hr ⟨-, q, hq, -⟩
    rw [hr] at hq
    exact absurd hq (by simp)
  rcases Cobs.decode_append_cases raw with ⟨out, hout, z, hz⟩ | hnone | hnone
  · have hlen : 4 ≤ (out ++ z).length := by
      by_contra hlt
      rw [List.length_append] at hlt
      exact hok ⟨hraw, out, hout, Or.inl (by omega)⟩
    have h1 := hz 1 (by decide)
    have h2 := hz 2 (by decide)
    rw [← List.append_assoc] at h1 h2
    rcases not_stuck_of_last hlen h1 h2 with hs | hs
    · exact ⟨[2, 1], by simp, htwo 1 (by decide), hs⟩
    · exact ⟨[2, 2], by simp, htwo 2 (by decide), hs⟩
  · exact ⟨[2, 2], by simp, htwo 2 (by decide), hfailed hnone⟩
  · exact ⟨[1], by simp, hone, hfailed hnone⟩

/-- **Resynchronisation**: after any chunks, the next message sent as one
chunk is returned exactly when the bytes they leave on the stack are not
stuck. -/
theorem decoder_resync_iff (hhex : StandardHex pkg) (hcobs : StandardCobs pkg)
    (history : List (List UInt8)) {m : DataMap} (hm : CborInverse pkg m) {encoded : List UInt8}
    (henc : encoder pkg m = .ok encoded) :
    (decoder pkg encoded).outcome (feed pkg [] history).2 = .ok (some m) ↔
      ¬ Stuck pkg (feed pkg [] history).2 := by
  rw [encoder_eq hhex hcobs.inverse, Except.ok.injEq] at henc
  rw [← henc]
  refine ⟨fun h hstuck => ?_, fun h => ?_⟩
  · obtain ⟨e, he⟩ := decoder_stuck hhex hcobs hstuck (body pkg m ++ [0])
    rw [frame, Effect.outcome_of_error he] at h
    exact absurd h (by simp)
  · have hok := decodes_of_not_stuck hhex hcobs h
    exact Effect.outcome_of_ok (decoder_frame hhex hcobs.inverse hm hok)

/-- A truncated frame before a message. -/
theorem decoder_resync_sample :
    (decoder samplePackages fwBlockFrame).outcome
        (feed samplePackages [] [newDataFrame.take 12]).2 = .ok (some fwBlockResponse) ↔
      ¬ Stuck samplePackages (feed samplePackages [] [newDataFrame.take 12]).2 :=
  decoder_resync_iff (standardHex_reference _ _) (standardCobs_reference _ _) _
    (cborInverse_sample (by simp)) encoder_fwBlock

/-- A frame of one decoded byte wedges the decoder: `decode` reads the
checksum at a negative index and throws before the stack is cleared. -/
theorem short_frame_wedges :
    ¬ ∀ pkg : Packages, StandardHex pkg → StandardCobs pkg →
      ∀ (history : List (List UInt8)) (m : DataMap) (encoded : List UInt8),
        CborInverse pkg m → encoder pkg m = .ok encoded →
        (decoder pkg encoded).outcome (feed pkg [] history).2 = .ok (some m) := by
  intro h
  have hm := h samplePackages (standardHex_reference _ _) (standardCobs_reference _ _)
    [[0x00, 0x02, 0x41, 0x00]] fwBlockResponse fwBlockFrame
    (cborInverse_sample (by simp)) encoder_fwBlock
  have herr : (decoder samplePackages fwBlockFrame).outcome
      (feed samplePackages [] [[0x00, 0x02, 0x41, 0x00]]).2 = .error .rangeError := by
    decide +kernel
  rw [herr] at hm
  exact absurd hm (by simp)

end SopepApp
