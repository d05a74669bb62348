import SopepApp.Codec.Stream
import Mathlib.Algebra.Order.Floor.Div

/-!
The wire format of the codec: what `encoder` writes and what `decode` accepts.

* `encoder_format`: an encoded message is a delimiter, the COBS encoding of
  the CBOR with its checksum, and a delimiter, within a stated length;
* `cobsOutput`: what `decodeCOBS` yields for a frame;
* `Accepts`: a frame of the format, with the message it carries;
* `decode_eq_accepted`: the three outcomes of `decode` on one frame;
* `decode_exact_iff`: `decode` returns the message of a frame of the format and
  null for any other frame exactly when the frame is not stuck.
-/

namespace SopepApp

open Dart Delimited

variable {pkg : Packages}

/-! ### What is written -/

/-- The delimiter stands at the two ends of a frame and nowhere else. -/
lemma getElem?_frame_eq_delim_iff {α : Type} {d : α} {c : List α} (hc : d ∉ c) (i : ℕ) :
    (frame d c)[i]? = some d ↔ i = 0 ∨ i + 1 = (frame d c).length := by
  rw [length_frame, frame]
  cases i with
  | zero => simp
  | succ i =>
      rw [List.getElem?_cons_succ]
      rcases lt_trichotomy i c.length with hi | rfl | hi
      · rw [List.getElem?_append_left hi, List.getElem?_eq_getElem hi, Option.some.injEq]
        refine ⟨fun h => absurd (h ▸ List.getElem_mem hi) hc, fun h => ?_⟩
        omega
      · simp
      · rw [List.getElem?_eq_none (by rw [List.length_append, List.length_singleton]; omega)]
        refine ⟨fun h => absurd h (by simp), fun h => ?_⟩
        omega

/-- The overhead of COBS as a rounded quotient. -/
lemma length_body_le (hcobs : StandardCobs pkg) (m : DataMap) :
    (body pkg m).length ≤ (payload pkg m).length + (payload pkg m).length ⌈/⌉ 254 := by
  have hne := payload_ne_nil pkg m
  rw [body, hcobs.cobs_eq hne, Nat.ceilDiv_eq_add_pred_div]
  exact Cobs.length_encode_le hne

/-- **The wire format**: for every message the buffer suffices, the result is
the COBS encoding of the CBOR and its four checksum bytes between two
delimiters, the delimiter occurs at the two ends only, and `n` bytes of payload
take at most `n + ⌈n / 254⌉ + 2`. -/
theorem encoder_format (hhex : StandardHex pkg) (hcobs : StandardCobs pkg) (m : DataMap) :
    ∃ p q w : List UInt8, p = pkg.cborEncode m ∧
      q = p ++ Hex.littleEndian (pkg.crc32C p) ∧
      (pkg.encodeCOBS (byteData (q.length * 2)) q).2.status = .OK ∧
      encoder pkg m = .ok w ∧ w ≠ [] ∧
      w = [0] ++ Cobs.encode q ++ [0] ∧
      (∀ i, w[i]? = some 0 ↔ i = 0 ∨ i + 1 = w.length) ∧
      q.length = p.length + 4 ∧ w.length ≤ q.length + q.length ⌈/⌉ 254 + 2 := by
  have hne := payload_ne_nil pkg m
  have hbody : IsBody 0 (body pkg m) := isBody_body hcobs.inverse m
  have hlen := length_body_le hcobs m
  refine ⟨pkg.cborEncode m, payload pkg m, frame 0 (body pkg m), rfl, rfl, ?_, ?_, ?_, ?_, ?_, ?_,
    ?_⟩
  · exact hcobs.inverse.encode_ok _ hne
  · exact encoder_eq hhex hcobs.inverse m
  · exact List.cons_ne_nil _ _
  · rw [body, hcobs.cobs_eq hne]
    rfl
  · exact getElem?_frame_eq_delim_iff hbody.notMem
  · exact length_payload pkg m
  · rw [length_frame]
    omega

/-- The response to a firmware block on the wire. -/
theorem encoder_format_sample :
    ∃ p q w : List UInt8, p = samplePackages.cborEncode fwBlockResponse ∧
      q = p ++ Hex.littleEndian (samplePackages.crc32C p) ∧
      (samplePackages.encodeCOBS (byteData (q.length * 2)) q).2.status = .OK ∧
      encoder samplePackages fwBlockResponse = .ok w ∧ w ≠ [] ∧
      w = [0] ++ Cobs.encode q ++ [0] ∧
      (∀ i, w[i]? = some 0 ↔ i = 0 ∨ i + 1 = w.length) ∧
      q.length = p.length + 4 ∧ w.length ≤ q.length + q.length ⌈/⌉ 254 + 2 :=
  encoder_format (standardHex_reference _ _) (standardCobs_reference _ _) fwBlockResponse

/-! ### What is accepted -/

/-- The bytes `decodeCOBS` yields for a frame, none if it fails. -/
def cobsOutput (pkg : Packages) (encoded : List UInt8) : Option (List UInt8) :=
  let (temp, ret) := pkg.decodeCOBS (byteData (encoded.length * 2)) encoded
  if ret.status = .OK then some (temp.take ret.outLen) else none

/-- A frame of the format: COBS of the CBOR of the message `m` and the
little-endian CRC32C of it. -/
def Accepts (pkg : Packages) (encoded : List UInt8) (m : DataMap) : Prop :=
  ∃ q, cobsOutput pkg encoded = some q ∧ 4 ≤ q.length ∧
    q.drop (q.length - 4) = Hex.littleEndian (pkg.crc32C (q.take (q.length - 4))) ∧
    pkg.cborDecode (q.take (q.length - 4)) = .ok (.map m)

/-- The bytes that `decodeCOBS` yields are the COBS decoding. -/
lemma StandardCobs.cobsOutput_eq (hcobs : StandardCobs pkg) (encoded : List UInt8) :
    cobsOutput pkg encoded = Cobs.decode encoded := by
  rw [cobsOutput]
  cases hdec : Cobs.decode encoded with
  | none => simp [hcobs.decode_failed (byteData (encoded.length * 2)) encoded hdec]
  | some q =>
      simp [hcobs.decode_double hdec]

/-- The payload check returns a message exactly for a payload of the
format. -/
lemma checkPayload_eq_some_iff (q : List UInt8) (m : DataMap) :
    checkPayload pkg q = .ok (some m) ↔ 4 ≤ q.length ∧
      q.drop (q.length - 4) = Hex.littleEndian (pkg.crc32C (q.take (q.length - 4))) ∧
      pkg.cborDecode (q.take (q.length - 4)) = .ok (.map m) := by
  rw [checkPayload]
  by_cases hlen : q.length < 4
  · simp [hlen]
  by_cases hcrc : q.drop (q.length - 4) = Hex.littleEndian (pkg.crc32C (q.take (q.length - 4)))
  · have hlen' : 4 ≤ q.length := not_lt.mp hlen
    cases hcbor : pkg.cborDecode (q.take (q.length - 4)) with
    | error e => simp [hlen, hcrc]
    | ok v => cases v <;> simp [hlen, hlen', hcrc]
  · simp [hlen, hcrc]

/-- **`decode` returns a message exactly for a frame of the format.** -/
theorem decode_eq_some_iff (hhex : StandardHex pkg) (hcobs : StandardCobs pkg)
    (encoded : List UInt8) (m : DataMap) :
    decode pkg encoded = .ok (some m) ↔ Accepts pkg encoded m := by
  rw [decode_eq_checkPayload hhex hcobs, Accepts, hcobs.cobsOutput_eq]
  cases Cobs.decode encoded with
  | none => simp
  | some q => simp [checkPayload_eq_some_iff]

/-- The message of a frame of the format, null for any other frame. -/
def DecodesExactly (pkg : Packages) (encoded : List UInt8) : Prop :=
  (∀ m, Accepts pkg encoded m → decode pkg encoded = .ok (some m)) ∧
    ((¬ ∃ m, Accepts pkg encoded m) → decode pkg encoded = .ok none)

/-- **Exact decoding**: a non-empty frame decodes to its message if it is of
the format and to null otherwise, exactly when it is not stuck, that is, unless
its COBS decoding succeeds and yields fewer than four bytes, or a payload with
the right checksum that is not the CBOR of a map. -/
theorem decode_exact_iff (hhex : StandardHex pkg) (hcobs : StandardCobs pkg)
    {encoded : List UInt8} (hne : encoded ≠ []) :
    DecodesExactly pkg encoded ↔
      ¬ ∃ q, cobsOutput pkg encoded = some q ∧
        (q.length < 4 ∨
          q.drop (q.length - 4) = Hex.littleEndian (pkg.crc32C (q.take (q.length - 4))) ∧
            ∀ m, pkg.cborDecode (q.take (q.length - 4)) ≠ .ok (.map m)) := by
  have hthrow : (∃ e, decode pkg encoded = .error e) ↔ ∃ q, cobsOutput pkg encoded = some q ∧
      (q.length < 4 ∨
        q.drop (q.length - 4) = Hex.littleEndian (pkg.crc32C (q.take (q.length - 4))) ∧
          ∀ m, pkg.cborDecode (q.take (q.length - 4)) ≠ .ok (.map m)) := by
    rw [decode_error_iff hhex hcobs hne, Stuck, hcobs.cobsOutput_eq]
    exact and_iff_right hne
  rw [← hthrow]
  refine ⟨fun h => ?_, fun h => ⟨fun m hm => (decode_eq_some_iff hhex hcobs encoded m).mpr hm,
    fun hnone => ?_⟩⟩
  · rintro ⟨e, he⟩
    -- a frame on which `decode` throws is not of the format, and should give null
    have hnone : ¬ ∃ m, Accepts pkg encoded m := by
      rintro ⟨m, hm⟩
      have hsome := h.1 m hm
      rw [he] at hsome
      exact absurd hsome (by simp)
    have hnull := h.2 hnone
    rw [he] at hnull
    exact absurd hnull (by simp)
  · cases hdec : decode pkg encoded with
    | error e => exact absurd ⟨e, hdec⟩ h
    | ok r =>
        cases r with
        | none => rfl
        | some m => exact absurd ⟨m, (decode_eq_some_iff hhex hcobs encoded m).mp hdec⟩ hnone

/-- A frame of the format, between its delimiters. -/
theorem decode_exact_sample :
    DecodesExactly samplePackages (fwBlockFrame.drop 1).dropLast ↔
      ¬ ∃ q, cobsOutput samplePackages (fwBlockFrame.drop 1).dropLast = some q ∧
        (q.length < 4 ∨
          q.drop (q.length - 4) =
              Hex.littleEndian (samplePackages.crc32C (q.take (q.length - 4))) ∧
            ∀ m, samplePackages.cborDecode (q.take (q.length - 4)) ≠ .ok (.map m)) :=
  decode_exact_iff (standardHex_reference _ _) (standardCobs_reference _ _)
    (List.cons_ne_nil _ _)

/-- A frame of one decoded byte is of no format, and `decode` throws: it reads
the checksum before it knows that there are four bytes. -/
theorem short_frame_throws :
    ¬ ∀ pkg : Packages, StandardHex pkg → StandardCobs pkg →
      ∀ encoded : List UInt8, encoded ≠ [] → (0 : UInt8) ∉ encoded →
        DecodesExactly pkg encoded := by
  intro h
  have hdec := h samplePackages (standardHex_reference _ _) (standardCobs_reference _ _)
    [0x02, 0x41] (List.cons_ne_nil _ _) (by simp)
  have hthrow : decode samplePackages [0x02, 0x41] = .error .rangeError := by decide +kernel
  have hnone : ¬ ∃ m, Accepts samplePackages [0x02, 0x41] m := by
    rintro ⟨m, hm⟩
    have hsome := hdec.1 m hm
    rw [hthrow] at hsome
    exact absurd hsome (by simp)
  have hnull := hdec.2 hnone
  rw [hthrow] at hnull
  exact absurd hnull (by simp)

end SopepApp
