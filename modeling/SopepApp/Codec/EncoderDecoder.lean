import SopepApp.Codec.Packages
import SopepApp.Framing.Delimited

/-!
`EncoderDecoder` of `lib/src/utilities/encoder_decoder.dart`.

* `encoder`: CBOR, the little-endian CRC32C, COBS and a delimiter on each side;
* `decode`: the inverse on one frame without its delimiters;
* `decoder`: the stack of bytes `dataRaw` and its byte loop, one result
  variable a chunk;
* `crcBytes_eq`: the detour of the checksum through hexadecimal text gives its
  four bytes, the lowest first;
* `encoder_eq`: an encoded message is a frame around a COBS body;
* `decode_eq`: the stages at which `decode` returns null or throws;
* `decode_body`: `decode` inverts `encoder` on one frame;
* `decoder_run`: a chunk whose frames decode completes the frames that the
  delimiters cut off, and returns the result of the last.
-/

namespace SopepApp

open Dart

/-! ### Bytes of a buffer -/

/-- `data.getInt8(i)`. -/
def getInt8 (data : ByteData) (i : ℕ) : Except Error Int8 :=
  match data[i]? with
  | some b => .ok b.toInt8
  | none => .error .rangeError

/-- `data.setInt8(i, value)`. -/
def setInt8 (data : ByteData) (i : ℕ) (value : Int8) : Except Error ByteData :=
  if i < data.length then .ok (data.set i value.toUInt8) else .error .rangeError

/-- The loop that copies the first `outLen` bytes of a buffer into one of that
length. -/
def copyBytes (temp : ByteData) (outLen : ℕ) : Except Error ByteData :=
  (List.range outLen).foldlM (fun data i => do setInt8 data i (← getInt8 temp i))
    (byteData outLen)

/-! ### The checksum -/

/-- The loop `while (crcStr.length < 8) crcStr = '0' + crcStr`; eight rounds
are enough. -/
def padLoop : ℕ → List Char → List Char
  | 0, crcStr => crcStr
  | n + 1, crcStr => if crcStr.length < 8 then padLoop n ('0' :: crcStr) else crcStr

/-- The checksum of `data` as `encoder` and `decode` compute it: the text
`Crc32C().convert(data).toRadixString(16)` padded to eight characters, decoded
and reversed. -/
def crcBytes (pkg : Packages) (data : List UInt8) : Except Error (List UInt8) := do
  let crcStr := Nat.toDigits 16 (pkg.crc32C data).toNat
  let crcStr := if crcStr.length < 8 then padLoop 8 crcStr else crcStr
  let crc ← pkg.hexDecode crcStr
  return crc.reverse

/-! ### Encoding -/

/-- `encoder`: the bytes of a message on the wire, the empty list if COBS
fails. -/
def encoder (pkg : Packages) (decoded : DataMap) : Except Error (List UInt8) := do
  let encodedCbor := pkg.cborEncode decoded
  let crc ← crcBytes pkg encodedCbor
  let encodedCrc := encodedCbor ++ crc
  let (encodedCobsTemp, retCobs) :=
    pkg.encodeCOBS (byteData (encodedCrc.length * 2)) encodedCrc
  if retCobs.status ≠ .OK then
    return []
  let encodedCobs ← copyBytes encodedCobsTemp retCobs.outLen
  return [0] ++ encodedCobs ++ [0]

/-! ### Decoding -/

/-- `crc[i] != crcOri[i]`. -/
def differsAt (crc crcOri : List UInt8) (i : ℤ) : Except Error Bool := do
  return (← elementAt crc i) != (← elementAt crcOri i)

/-- `decode`: the message of a frame whose delimiters have been removed, null
on a COBS failure and on a wrong checksum. Fewer than four decoded bytes, a
payload that is no CBOR and a payload that is no map throw. -/
def decode (pkg : Packages) (encoded : List UInt8) : Except Error (Option DataMap) := do
  let (decodedCobsTemp, retCobs) := pkg.decodeCOBS (byteData (encoded.length * 2)) encoded
  if retCobs.status ≠ .OK then
    return none
  let decodedCobs ← copyBytes decodedCobsTemp retCobs.outLen
  let length : ℤ := decodedCobs.length
  let crcOri := [← elementAt decodedCobs (length - 4), ← elementAt decodedCobs (length - 3),
    ← elementAt decodedCobs (length - 2), ← elementAt decodedCobs (length - 1)]
  let decodedCrc := decodedCobs.dropLast.dropLast.dropLast.dropLast
  let crc ← crcBytes pkg decodedCrc
  if ← differsAt crc crcOri 0 <||> differsAt crc crcOri 1 <||>
      differsAt crc crcOri 2 <||> differsAt crc crcOri 3 then
    return none
  match ← pkg.cborDecode decodedCrc with
  | .map decodedCbor => return some decodedCbor
  | .object _ => throw .typeError

/-- The loop of `decoder` over the bytes of a chunk, with the result variable
`dataMap`; the state is the stack `_dataRaw`. A throw of `decode` leaves the
stack as it is. -/
def decoderLoop (pkg : Packages) : List UInt8 → Option DataMap →
    Effect (List UInt8) (Option DataMap)
  | [], dataMap => pure dataMap
  | b :: data, dataMap => do
    if b ≠ 0 then
      modify fun dataRaw => dataRaw ++ [b]
      decoderLoop pkg data dataMap
    else if (← get) ≠ [] then
      let dataMap ← Effect.lift (decode pkg (← get))
      set ([] : List UInt8)
      decoderLoop pkg data dataMap
    else
      decoderLoop pkg data dataMap

/-- `decoder`: the message of the last frame the chunk completes. -/
def decoder (pkg : Packages) (data : List UInt8) : Effect (List UInt8) (Option DataMap) :=
  decoderLoop pkg data none

/-! ### The stages of the codec -/

variable {pkg : Packages}

lemma byteData_succ (n : ℕ) : byteData (n + 1) = 0 :: byteData n := List.replicate_succ

/-- The first `k` rounds of the copying loop. -/
lemma copyBytes_rounds {temp : ByteData} {outLen : ℕ} (h : outLen ≤ temp.length) :
    ∀ k, k ≤ outLen →
      (List.range k).foldlM (fun data i => do setInt8 data i (← getInt8 temp i))
        (byteData outLen) =
          (.ok (temp.take k ++ byteData (outLen - k)) : Except Error ByteData) := by
  intro k
  induction k with
  | zero =>
      intro _
      simp [pure, Except.pure]
  | succ k ih =>
      intro hk
      have hget : temp[k]? = some temp[k] := List.getElem?_eq_getElem (by omega)
      have hlen : (temp.take k).length = k := by
        rw [List.length_take]
        omega
      have hlt : k < (temp.take k ++ byteData (outLen - k)).length := by
        rw [List.length_append, hlen, byteData, List.length_replicate]
        omega
      rw [List.range_succ, List.foldlM_append, ih (by omega)]
      simp only [bind, Except.bind, List.foldlM_cons, List.foldlM_nil, getInt8, hget, setInt8,
        pure, Except.pure, if_pos hlt, UInt8.toUInt8_toInt8]
      rw [List.set_append_right _ _ hlen.le, hlen, Nat.sub_self,
        show outLen - k = outLen - (k + 1) + 1 by omega, byteData_succ, List.set_cons_zero,
        List.take_add_one, hget, List.append_assoc]
      rfl

/-- Copying inside a buffer takes its first bytes. -/
lemma copyBytes_eq {temp : ByteData} {outLen : ℕ} (h : outLen ≤ temp.length) :
    copyBytes temp outLen = .ok (temp.take outLen) := by
  rw [copyBytes, copyBytes_rounds h outLen le_rfl, Nat.sub_self]
  simp [byteData]

/-- The padding loop pads to eight characters. -/
lemma padLoop_eq (n : ℕ) : ∀ crcStr : List Char, 8 ≤ crcStr.length + n →
    padLoop n crcStr = List.leftpad 8 '0' crcStr := by
  induction n with
  | zero =>
      intro crcStr h
      rw [padLoop, List.leftpad, show 8 - crcStr.length = 0 by omega]
      rfl
  | succ n ih =>
      intro crcStr h
      rw [padLoop]
      split_ifs with hlt
      · rw [ih _ (by rw [List.length_cons]; omega), List.leftpad, List.leftpad, List.length_cons,
          show 8 - crcStr.length = 8 - (crcStr.length + 1) + 1 by omega, List.replicate_succ']
        simp
      · rw [List.leftpad, show 8 - crcStr.length = 0 by omega]
        rfl

/-- **The checksum**: the four bytes of the CRC32C, the lowest first, leading
zeros of its hexadecimal text included. -/
theorem crcBytes_eq (hhex : StandardHex pkg) (data : List UInt8) :
    crcBytes pkg data = .ok (Hex.littleEndian (pkg.crc32C data)) := by
  have hpad : (if (Nat.toDigits 16 (pkg.crc32C data).toNat).length < 8
      then padLoop 8 (Nat.toDigits 16 (pkg.crc32C data).toNat)
      else Nat.toDigits 16 (pkg.crc32C data).toNat) =
        List.leftpad 8 '0' (Nat.toDigits 16 (pkg.crc32C data).toNat) := by
    split_ifs with h
    · exact padLoop_eq 8 _ (by omega)
    · rw [List.leftpad, Nat.sub_eq_zero_of_le (by omega)]
      rfl
  have hlt : (pkg.crc32C data).toNat < 16 ^ 8 := (pkg.crc32C data).toNat_lt
  rw [crcBytes, hpad, Hex.leftpad_toDigits 8 _ hlt (by norm_num), hhex, Hex.decode_word]
  simp [bind, Except.bind, pure, Except.pure]

/-! ### What is written -/

/-- The CBOR of a message and its checksum. -/
def payload (pkg : Packages) (m : DataMap) : List UInt8 :=
  pkg.cborEncode m ++ Hex.littleEndian (pkg.crc32C (pkg.cborEncode m))

/-- The COBS bytes of a message. -/
def body (pkg : Packages) (m : DataMap) : List UInt8 := cobs pkg (payload pkg m)

lemma length_payload (pkg : Packages) (m : DataMap) :
    (payload pkg m).length = (pkg.cborEncode m).length + 4 := by
  rw [payload, List.length_append, Hex.length_littleEndian]

lemma payload_ne_nil (pkg : Packages) (m : DataMap) : payload pkg m ≠ [] := by
  intro h
  have hlen := length_payload pkg m
  rw [h, List.length_nil] at hlen
  omega

/-- The bytes between the delimiters are non-empty and free of zeros. -/
lemma isBody_body (hcobs : CobsInverse pkg) (m : DataMap) : Delimited.IsBody 0 (body pkg m) :=
  ⟨hcobs.ne_nil _ (payload_ne_nil pkg m), hcobs.zero_notMem _ (payload_ne_nil pkg m)⟩

/-- **An encoded message is a frame**: `encoder` never fails, and writes the
COBS bytes between two delimiters. -/
theorem encoder_eq (hhex : StandardHex pkg) (hcobs : CobsInverse pkg) (m : DataMap) :
    encoder pkg m = .ok (Delimited.frame 0 (body pkg m)) := by
  have hok := hcobs.encode_ok _ (payload_ne_nil pkg m)
  have hlen := hcobs.outLen_le _ (payload_ne_nil pkg m)
  rw [payload] at hok hlen
  rw [encoder, crcBytes_eq hhex]
  simp only [bind, Except.bind, hok, ne_eq, not_true_eq_false, if_false, copyBytes_eq hlen]
  rfl

/-! ### What is read -/

/-- An element counted from the end of `p ++ l`. -/
lemma elementAt_append {α : Type} (p l : List α) {i k : ℕ} {a : α} (hik : i + k = l.length)
    (h : l[i]? = some a) :
    elementAt (p ++ l) (((p ++ l).length : ℤ) - k) = .ok a := by
  have hidx : (((p ++ l).length : ℤ) - k).toNat = p.length + i := by
    rw [List.length_append]
    omega
  rw [elementAt, if_neg (by rw [List.length_append]; omega), hidx,
    List.getElem?_append_right (by omega), Nat.add_sub_cancel_left, h]

lemma elementAt_negative {α : Type} (l : List α) {i : ℤ} (hi : i < 0) :
    elementAt l i = .error .rangeError := if_pos hi

lemma orM_ok (a b : Bool) : ((.ok a : Except Error Bool) <||> .ok b) = .ok (a || b) := by
  cases a <;> rfl

/-- The comparison of the four checksum bytes. -/
lemma differs_eq (c0 c1 c2 c3 o0 o1 o2 o3 : UInt8) :
    (differsAt [c0, c1, c2, c3] [o0, o1, o2, o3] 0 <||>
      differsAt [c0, c1, c2, c3] [o0, o1, o2, o3] 1 <||>
      differsAt [c0, c1, c2, c3] [o0, o1, o2, o3] 2 <||>
      differsAt [c0, c1, c2, c3] [o0, o1, o2, o3] 3) =
        .ok (decide ([c0, c1, c2, c3] ≠ [o0, o1, o2, o3])) := by
  have h0 : differsAt [c0, c1, c2, c3] [o0, o1, o2, o3] 0 = .ok (c0 != o0) := rfl
  have h1 : differsAt [c0, c1, c2, c3] [o0, o1, o2, o3] 1 = .ok (c1 != o1) := rfl
  have h2 : differsAt [c0, c1, c2, c3] [o0, o1, o2, o3] 2 = .ok (c2 != o2) := rfl
  have h3 : differsAt [c0, c1, c2, c3] [o0, o1, o2, o3] 3 = .ok (c3 != o3) := rfl
  rw [h0, h1, h2, h3, orM_ok, orM_ok, orM_ok]
  congr 1
  rw [Bool.eq_iff_iff]
  simp only [Bool.or_eq_true, bne_iff_ne, decide_eq_true_eq, ne_eq, List.cons.injEq, and_true]
  tauto

/-- What `decode` does with the bytes `q` that COBS decoding yields. -/
def checkPayload (pkg : Packages) (q : List UInt8) : Except Error (Option DataMap) :=
  if q.length < 4 then .error .rangeError
  else if q.drop (q.length - 4) ≠ Hex.littleEndian (pkg.crc32C (q.take (q.length - 4))) then
    .ok none
  else match pkg.cborDecode (q.take (q.length - 4)) with
    | .ok (.map m) => .ok (some m)
    | .ok (.object _) => .error .typeError
    | .error e => .error e

/-- A list of at least four elements ends in four. -/
lemma exists_last_four {α : Type} {q : List α} (h : 4 ≤ q.length) :
    ∃ p a b c d, q = p ++ [a, b, c, d] := by
  have hlen : (q.drop (q.length - 4)).length = 4 := by
    rw [List.length_drop]
    omega
  match hd : q.drop (q.length - 4), hlen with
  | [a, b, c, d], _ =>
      exact ⟨q.take (q.length - 4), a, b, c, d, by rw [← hd, List.take_append_drop]⟩

/-- **The stages of `decode`**: a COBS failure is null; of the decoded bytes,
fewer than four throw, a wrong checksum is null, and the payload is left to
`cbor.decode`. -/
theorem decode_eq (hhex : StandardHex pkg) (encoded : List UInt8) :
    decode pkg encoded =
      let (temp, ret) := pkg.decodeCOBS (byteData (encoded.length * 2)) encoded
      if ret.status ≠ .OK then .ok none
      else (copyBytes temp ret.outLen).bind (checkPayload pkg) := by
  rw [decode]
  cases hcobs : pkg.decodeCOBS (byteData (encoded.length * 2)) encoded with
  | mk temp ret =>
      dsimp only
      by_cases hstatus : ret.status ≠ .OK
      · rw [if_pos hstatus, if_pos hstatus]
        rfl
      · rw [if_neg hstatus, if_neg hstatus]
        cases hcopy : copyBytes temp ret.outLen with
        | error e => rfl
        | ok q =>
            dsimp only [bind, Except.bind]
            rw [checkPayload]
            by_cases hlen : q.length < 4
            · rw [if_pos hlen, elementAt_negative _ (by omega)]
            · obtain ⟨p, a, b, c, d, rfl⟩ := exists_last_four (not_lt.mp hlen)
              have hcrc := crcBytes_eq hhex p
              have hdrop : (p ++ [a, b, c, d]).dropLast.dropLast.dropLast.dropLast = p := by simp
              have htake : (p ++ [a, b, c, d]).take ((p ++ [a, b, c, d]).length - 4) = p := by simp
              have hlast : (p ++ [a, b, c, d]).drop ((p ++ [a, b, c, d]).length - 4) =
                  [a, b, c, d] := by simp
              have ha := elementAt_append p [a, b, c, d] (i := 0) (k := 4) rfl rfl
              have hb := elementAt_append p [a, b, c, d] (i := 1) (k := 3) rfl rfl
              have hc := elementAt_append p [a, b, c, d] (i := 2) (k := 2) rfl rfl
              have hd := elementAt_append p [a, b, c, d] (i := 3) (k := 1) rfl rfl
              push_cast at ha hb hc hd
              rw [if_neg hlen, ha, hb, hc, hd, hdrop, hcrc, htake, hlast, Hex.littleEndian]
              dsimp only
              rw [differs_eq]
              dsimp only
              simp only [decide_eq_true_eq, ne_comm (a := [a, b, c, d])]
              split_ifs with hne
              · rfl
              · cases pkg.cborDecode p with
                | error e => rfl
                | ok v => cases v <;> rfl

/-- `decode` in terms of the decoded bytes. -/
lemma decode_eq_checkPayload (hhex : StandardHex pkg) (hcobs : StandardCobs pkg)
    (encoded : List UInt8) :
    decode pkg encoded =
      match Cobs.decode encoded with
      | none => .ok none
      | some q => checkPayload pkg q := by
  rw [decode_eq hhex]
  cases hdec : Cobs.decode encoded with
  | none => simp [hcobs.decode_failed (byteData (encoded.length * 2)) encoded hdec]
  | some q =>
      rw [hcobs.decode_double hdec]
      dsimp only
      rw [if_neg (not_not.mpr rfl), copyBytes_eq (by rw [List.length_append]; omega),
        List.take_left]
      rfl

/-- A payload with its checksum is left to `cbor.decode`. -/
lemma checkPayload_append (p : List UInt8) :
    checkPayload pkg (p ++ Hex.littleEndian (pkg.crc32C p)) =
      match pkg.cborDecode p with
      | .ok (.map m) => .ok (some m)
      | .ok (.object _) => .error .typeError
      | .error e => .error e := by
  have hlen : (p ++ Hex.littleEndian (pkg.crc32C p)).length = p.length + 4 := by
    rw [List.length_append, Hex.length_littleEndian]
  rw [checkPayload, if_neg (by omega), hlen, Nat.add_sub_cancel, List.take_left, List.drop_left,
    if_neg (not_not.mpr rfl)]

/-- **`decode` inverts `encoder`** on the bytes of a frame. -/
theorem decode_body (hhex : StandardHex pkg) (hcobs : CobsInverse pkg) {m : DataMap}
    (hm : CborInverse pkg m) : decode pkg (body pkg m) = .ok (some m) := by
  obtain ⟨rest, hrest⟩ := hcobs.decode _ (payload_ne_nil pkg m)
  rw [decode_eq hhex, body, hrest]
  dsimp only
  rw [if_neg (not_not.mpr rfl), copyBytes_eq (by rw [List.length_append]; omega), List.take_left]
  change checkPayload pkg (payload pkg m) = _
  rw [payload, checkPayload_append, hm]

/-! ### The byte loop -/

lemma decoderLoop_of_ne {b : UInt8} (hb : b ≠ 0) (data raw : List UInt8)
    (dataMap : Option DataMap) :
    (decoderLoop pkg (b :: data) dataMap).run raw =
      (decoderLoop pkg data dataMap).run (raw ++ [b]) := by
  rw [decoderLoop, if_pos hb]
  rfl

/-- A delimiter with an empty stack is skipped. -/
lemma decoderLoop_zero_nil (data : List UInt8) (dataMap : Option DataMap) :
    (decoderLoop pkg (0 :: data) dataMap).run [] = (decoderLoop pkg data dataMap).run [] := by
  rw [decoderLoop, if_neg (not_not.mpr rfl)]
  rfl

/-- A delimiter with a stack that decodes replaces the result and clears the
stack. -/
lemma decoderLoop_zero_ok {raw : List UInt8} {r : Option DataMap} (hraw : raw ≠ [])
    (hr : decode pkg raw = .ok r) (data : List UInt8) (dataMap : Option DataMap) :
    (decoderLoop pkg (0 :: data) dataMap).run raw = (decoderLoop pkg data r).run [] := by
  rw [decoderLoop, if_neg (not_not.mpr rfl)]
  simp only [EStateM.run_bind, EStateM.run_get, if_pos hraw, hr, Effect.run_lift_ok,
    EStateM.run_set]

/-- A delimiter with a stack on which `decode` throws ends the chunk, and the
stack stays. -/
lemma decoderLoop_zero_error {raw : List UInt8} {e : Error} (hraw : raw ≠ [])
    (he : decode pkg raw = .error e) (data : List UInt8) (dataMap : Option DataMap) :
    (decoderLoop pkg (0 :: data) dataMap).run raw = .error e raw := by
  rw [decoderLoop, if_neg (not_not.mpr rfl)]
  simp only [EStateM.run_bind, EStateM.run_get, if_pos hraw, he, Effect.run_lift_error]

/-- What `decode` makes of a frame that does not throw. -/
def decoded (pkg : Packages) (frame : List UInt8) : Option DataMap :=
  match decode pkg frame with
  | .ok r => r
  | .error _ => none

lemma decoded_of_ok {frame : List UInt8} {r : Option DataMap} (h : decode pkg frame = .ok r) :
    decoded pkg frame = r := by
  rw [decoded, h]

/-- The byte loop over data whose frames do not throw. -/
lemma decoderLoop_run (data : List UInt8) : ∀ (raw : List UInt8) (dataMap : Option DataMap),
    (∀ f ∈ (Delimited.split 0 raw data).1, ∃ r, decode pkg f = .ok r) →
    (decoderLoop pkg data dataMap).run raw =
      .ok (match (Delimited.split 0 raw data).1.getLast? with
        | some f => decoded pkg f
        | none => dataMap) (Delimited.split 0 raw data).2 := by
  induction data with
  | nil =>
      intro raw dataMap _
      rfl
  | cons b data ih =>
      intro raw dataMap hok
      by_cases hb : b = 0
      · subst hb
        by_cases hraw : raw = []
        · subst hraw
          rw [Delimited.split_delim_nil] at hok ⊢
          rw [decoderLoop_zero_nil, ih _ _ hok]
        · rw [Delimited.split_delim hraw] at hok ⊢
          obtain ⟨r, hr⟩ := hok raw (by simp)
          rw [decoderLoop_zero_ok hraw hr,
            ih _ _ fun f hf => hok f (List.mem_cons_of_mem raw hf), List.getLast?_cons]
          cases (Delimited.split 0 [] data).1.getLast? with
          | none => simp only [Option.getD_none, decoded_of_ok hr]
          | some f => rfl
      · rw [Delimited.split, if_neg hb] at hok ⊢
        rw [decoderLoop_of_ne hb, ih _ _ hok]

/-- **A chunk whose frames do not throw**: the decoder returns the result of
the last frame the chunk completes and keeps what follows it. -/
theorem decoder_run (pkg : Packages) (raw data : List UInt8)
    (hok : ∀ f ∈ (Delimited.split 0 raw data).1, ∃ r, decode pkg f = .ok r) :
    (decoder pkg data).run raw =
      .ok ((Delimited.split 0 raw data).1.getLast?.bind (decoded pkg))
        (Delimited.split 0 raw data).2 := by
  rw [decoder, decoderLoop_run data raw none hok]
  cases (Delimited.split 0 raw data).1.getLast? <;> rfl

end SopepApp
