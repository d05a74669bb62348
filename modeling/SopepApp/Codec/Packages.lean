import SopepApp.Codec.Message
import SopepApp.Framing.Cobs
import SopepApp.Framing.Hex

/-!
The packages under the codec: `cbor`, `crclib`, `convert` and `cobs2`.

Their sources are not part of the repository. `Packages` names the functions
the codec calls, and the laws below state what it relies on.

* `StandardHex`: `hex.decode` reads hexadecimal pairs;
* `CobsInverse`: `encodeCOBS` succeeds with a buffer of twice the length, its
  output is non-empty and free of zeros, and `decodeCOBS` inverts it;
* `StandardCobs`: `encodeCOBS` and `decodeCOBS` are COBS encoding and decoding
  into a bounded buffer; `StandardCobs.inverse` derives `CobsInverse` from it;
* `CborInverse`: `cbor.decode` inverts `cbor.encode` on one message.
-/

namespace SopepApp

open Dart

/-- A `ByteData` buffer. -/
abbrev ByteData := List UInt8

/-- `ByteData(n)`: a buffer of `n` zeros. -/
def byteData (n : ℕ) : ByteData := List.replicate n 0

/-- The statuses of `encodeCOBS` and `decodeCOBS`, as far as the codec tells
them apart. -/
inductive CobsStatus where
  | OK
  | failed
  deriving DecidableEq, Repr

/-- The result of `encodeCOBS` and `decodeCOBS`. -/
structure CobsResult where
  status : CobsStatus
  outLen : ℕ
  deriving DecidableEq, Repr

/-- What `cbor.decode` returns: a map, or an object that is none. -/
inductive Decoded where
  | map (m : DataMap)
  | object (v : Value)
  deriving DecidableEq

/-- The functions of the packages the codec calls. `encodeCOBS dst src` and
`decodeCOBS dst src` return the buffer `dst` as they leave it. -/
structure Packages where
  cborEncode : DataMap → List UInt8
  cborDecode : List UInt8 → Except Error Decoded
  crc32C : List UInt8 → UInt32
  hexDecode : List Char → Except Error (List UInt8)
  encodeCOBS : ByteData → List UInt8 → ByteData × CobsResult
  decodeCOBS : ByteData → List UInt8 → ByteData × CobsResult

variable {pkg : Packages}

/-- `hex.decode` reads pairs of hexadecimal digits and throws a
`FormatException` on any other text. -/
def StandardHex (pkg : Packages) : Prop :=
  ∀ s, pkg.hexDecode s =
    match Hex.decode s with
    | some bs => .ok bs
    | none => .error .formatException

/-- `cbor.decode` inverts `cbor.encode` on the message `m`. -/
def CborInverse (pkg : Packages) (m : DataMap) : Prop :=
  pkg.cborDecode (pkg.cborEncode m) = .ok (.map m)

/-! ### COBS -/

/-- The bytes `encodeCOBS` writes for `src` into a buffer of twice its
length. -/
def cobs (pkg : Packages) (src : List UInt8) : List UInt8 :=
  let (dst, ret) := pkg.encodeCOBS (byteData (src.length * 2)) src
  dst.take ret.outLen

/-- `cobs2` as an encoding without zeros and its inverse. -/
structure CobsInverse (pkg : Packages) : Prop where
  encode_ok : ∀ src, src ≠ [] →
    (pkg.encodeCOBS (byteData (src.length * 2)) src).2.status = .OK
  outLen_le : ∀ src, src ≠ [] →
    (pkg.encodeCOBS (byteData (src.length * 2)) src).2.outLen ≤
      (pkg.encodeCOBS (byteData (src.length * 2)) src).1.length
  ne_nil : ∀ src, src ≠ [] → cobs pkg src ≠ []
  zero_notMem : ∀ src, src ≠ [] → (0 : UInt8) ∉ cobs pkg src
  decode : ∀ src, src ≠ [] →
    ∃ rest, pkg.decodeCOBS (byteData ((cobs pkg src).length * 2)) (cobs pkg src) =
      (src ++ rest, ⟨.OK, src.length⟩)

/-- `cobs2` as COBS into a bounded buffer, the rest of which stays as it
is. -/
structure StandardCobs (pkg : Packages) : Prop where
  encode : ∀ dst src, (Cobs.encode src).length ≤ dst.length →
    pkg.encodeCOBS dst src =
      (Cobs.encode src ++ dst.drop (Cobs.encode src).length, ⟨.OK, (Cobs.encode src).length⟩)
  decode : ∀ dst src out, Cobs.decode src = some out → out.length ≤ dst.length →
    pkg.decodeCOBS dst src = (out ++ dst.drop out.length, ⟨.OK, out.length⟩)
  decode_failed : ∀ dst src, Cobs.decode src = none →
    (pkg.decodeCOBS dst src).2.status = .failed

/-- `decodeCOBS` reports a zero in its input as an error. -/
def ReportsZero (pkg : Packages) : Prop :=
  ∀ dst src, (0 : UInt8) ∈ src → (pkg.decodeCOBS dst src).2.status = .failed

lemma StandardCobs.reportsZero (h : StandardCobs pkg) : ReportsZero pkg :=
  fun dst src hzero => h.decode_failed dst src (Cobs.decode_eq_none_of_mem hzero)

/-- A buffer of twice the length has room for the encoded bytes. -/
lemma length_encode_le_double {src : List UInt8} (hsrc : src ≠ []) :
    (Cobs.encode src).length ≤ (byteData (src.length * 2)).length := by
  have h := Cobs.length_encode_le hsrc
  have hpos := List.length_pos_of_ne_nil hsrc
  rw [byteData, List.length_replicate]
  omega

/-- A buffer of twice the length has room for the decoded bytes. -/
lemma StandardCobs.decode_double (h : StandardCobs pkg) {src out : List UInt8}
    (hdec : Cobs.decode src = some out) :
    pkg.decodeCOBS (byteData (src.length * 2)) src =
      (out ++ (byteData (src.length * 2)).drop out.length, ⟨.OK, out.length⟩) := by
  have hle := Cobs.length_decode_le hdec
  refine h.decode _ src out hdec ?_
  rw [byteData, List.length_replicate]
  omega

/-- The bytes written are the COBS encoding. -/
lemma StandardCobs.cobs_eq (h : StandardCobs pkg) {src : List UInt8} (hsrc : src ≠ []) :
    cobs pkg src = Cobs.encode src := by
  rw [cobs, h.encode _ _ (length_encode_le_double hsrc)]
  simp

/-- **COBS is an encoding without zeros and its inverse.** -/
theorem StandardCobs.inverse (h : StandardCobs pkg) : CobsInverse pkg where
  encode_ok src hsrc := by
    rw [h.encode _ _ (length_encode_le_double hsrc)]
  outLen_le src hsrc := by
    rw [h.encode _ _ (length_encode_le_double hsrc), List.length_append]
    exact Nat.le_add_right _ _
  ne_nil src hsrc := by
    rw [h.cobs_eq hsrc]
    exact Cobs.encode_ne_nil src
  zero_notMem src hsrc := by
    rw [h.cobs_eq hsrc]
    exact Cobs.zero_notMem_encode src
  decode src hsrc := by
    have hlen : src.length ≤ (byteData ((Cobs.encode src).length * 2)).length := by
      have h1 := Cobs.le_length_encode src
      rw [byteData, List.length_replicate]
      omega
    rw [h.cobs_eq hsrc]
    exact ⟨_, h.decode _ _ _ (Cobs.decode_encode src) hlen⟩

end SopepApp
