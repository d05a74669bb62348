import SopepApp.Codec.Packages

/-!
Packages that satisfy the laws, for any CBOR library.

* `crc32C`: the CRC-32C of bytes;
* `referencePackages`: the packages with hexadecimal decoding, CRC-32C and
  COBS as the libraries of this development compute them;
* `standardHex_reference`, `standardCobs_reference`: the laws.
-/

namespace SopepApp

open Dart

/-! ### CRC-32C -/

/-- One bit of the reflected CRC with the Castagnoli polynomial. -/
def crcBit (crc : UInt32) : UInt32 :=
  if crc &&& 1 = 1 then (crc >>> 1) ^^^ 0x82F63B78 else crc >>> 1

/-- One byte of the CRC. -/
def crcByte (crc : UInt32) (b : UInt8) : UInt32 := crcBit^[8] (crc ^^^ b.toUInt32)

/-- The CRC-32C of bytes. -/
def crc32C (data : List UInt8) : UInt32 := data.foldl crcByte 0xFFFFFFFF ^^^ 0xFFFFFFFF

example : crc32C [0x31, 0x32, 0x33, 0x34, 0x35, 0x36, 0x37, 0x38, 0x39] = 0xE3069283 := by
  decide +kernel

/-! ### The packages -/

/-- Writing `out` at the start of a buffer, if it fits. -/
def writeBuffer (dst : ByteData) (out : List UInt8) : ByteData × CobsResult :=
  if out.length ≤ dst.length then (out ++ dst.drop out.length, ⟨.OK, out.length⟩)
  else (dst, ⟨.failed, 0⟩)

/-- The packages around a CBOR library. -/
def referencePackages (cborEncode : DataMap → List UInt8)
    (cborDecode : List UInt8 → Except Error Decoded) : Packages where
  cborEncode := cborEncode
  cborDecode := cborDecode
  crc32C := crc32C
  hexDecode s :=
    match Hex.decode s with
    | some bs => .ok bs
    | none => .error .formatException
  encodeCOBS dst src := writeBuffer dst (Cobs.encode src)
  decodeCOBS dst src :=
    match Cobs.decode src with
    | some out => writeBuffer dst out
    | none => (dst, ⟨.failed, 0⟩)

variable (cborEncode : DataMap → List UInt8) (cborDecode : List UInt8 → Except Error Decoded)

lemma standardHex_reference : StandardHex (referencePackages cborEncode cborDecode) :=
  fun _ => rfl

/-- The packages encode and decode COBS. -/
theorem standardCobs_reference : StandardCobs (referencePackages cborEncode cborDecode) where
  encode dst src h := by
    simp only [referencePackages, writeBuffer, if_pos h]
  decode dst src out hout h := by
    simp only [referencePackages, hout, writeBuffer, if_pos h]
  decode_failed dst src h := by
    simp only [referencePackages, h]

/-! ### A table of messages -/

/-- CBOR encoding of the messages of a table. -/
def tableEncode (table : List (DataMap × List UInt8)) (m : DataMap) : List UInt8 :=
  match table.find? fun e => e.1 = m with
  | some e => e.2
  | none => []

/-- CBOR decoding of the messages of a table. -/
def tableDecode (table : List (DataMap × List UInt8)) (data : List UInt8) :
    Except Error Decoded :=
  match table.find? fun e => e.2 = data with
  | some e => .ok (.map e.1)
  | none => .error .formatException

/-- The packages with the CBOR of a table of messages. -/
def tablePackages (table : List (DataMap × List UInt8)) : Packages :=
  referencePackages (tableEncode table) (tableDecode table)

/-- The response to a firmware block. -/
def fwBlockResponse : DataMap := ⟨[(.string "rsp", .string "fw-block")], by decide⟩

/-- The event of new data. -/
def newDataEvent : DataMap := ⟨[(.string "event", .string "new-data")], by decide⟩

/-- The command that asks for the device information. -/
def deviceInfoCommand : DataMap := ⟨[(.string "cmd", .string "device-info")], by decide⟩

/-- The command that asks for the oldest priority data. -/
def readPrioDataCommand : DataMap := ⟨[(.string "cmd", .string "read-prio-data")], by decide⟩

/-- The packages with the CBOR of these messages. -/
def samplePackages : Packages := tablePackages
  [(fwBlockResponse, [0xA1, 0x63, 0x72, 0x73, 0x70, 0x68, 0x66, 0x77, 0x2D, 0x62, 0x6C, 0x6F,
      0x63, 0x6B]),
    (newDataEvent, [0xA1, 0x65, 0x65, 0x76, 0x65, 0x6E, 0x74, 0x68, 0x6E, 0x65, 0x77, 0x2D,
      0x64, 0x61, 0x74, 0x61]),
    (deviceInfoCommand, [0xA1, 0x63, 0x63, 0x6D, 0x64, 0x6B, 0x64, 0x65, 0x76, 0x69, 0x63, 0x65,
      0x2D, 0x69, 0x6E, 0x66, 0x6F]),
    (readPrioDataCommand, [0xA1, 0x63, 0x63, 0x6D, 0x64, 0x6E, 0x72, 0x65, 0x61, 0x64, 0x2D, 0x70,
      0x72, 0x69, 0x6F, 0x2D, 0x64, 0x61, 0x74, 0x61])]

/-- These messages are read back. -/
lemma cborInverse_sample {m : DataMap}
    (hm : m ∈ [fwBlockResponse, newDataEvent, deviceInfoCommand, readPrioDataCommand]) :
    CborInverse samplePackages m := by
  revert m
  simp only [CborInverse]
  decide +kernel

end SopepApp
