import SopepApp.Codec.Format
import SopepApp.Dart.Text
import SopepApp.Framing.Cbor

/-!
Messages in CBOR: the maps of the app as CBOR maps of scalars.

* `Value.item`, `DataMap.items`: a message as the entries of a CBOR map;
* `DataMap.Plain`: the messages that hold nothing but scalars;
* `StandardCbor`: `cbor` writes plain messages in the preferred form of CBOR and
  reads them back; how it writes floats is a parameter;
* `cborPackages`, `standardCbor_reference`: packages that do;
* `length_encoder`: the encoded bytes of a message whose CBOR is short.
-/

namespace SopepApp

open Dart Delimited

/-! ### Scalars -/

/-- A double that is not a number. -/
def IsNaN (bits : UInt64) : Prop :=
  bits.toNat / 2 ^ 52 % 2 ^ 11 = 2047 ∧ bits.toNat % 2 ^ 52 ≠ 0

instance (bits : UInt64) : Decidable (IsNaN bits) := inferInstanceAs (Decidable (_ ∧ _))

/-- A scalar; any other object is written in some other form. -/
def Value.item : Value → Option Cbor.Item
  | .null => some .null
  | .bool b => some (.bool b)
  | .int n => some (if 0 ≤ n then .uint n.toNat else .nint (-1 - n).toNat)
  | .double bits => some (.float bits)
  | .string s => some (.text (utf8 s))
  | .bytes bs => some (.bytes bs)
  | .other _ => none

/-- The value of a scalar. -/
def valueOf : Cbor.Item → Option Value
  | .null => some .null
  | .bool b => some (.bool b)
  | .uint n => some (.int n)
  | .nint n => some (.int (-1 - n))
  | .float bits => some (.double bits)
  | .text bs => (ofUtf8 bs).map .string
  | .bytes bs => some (.bytes bs)

/-- A scalar of the size that Dart and CBOR have. -/
def Value.Plain : Value → Prop
  | .int n => -2 ^ 63 ≤ n ∧ n < 2 ^ 63
  | .double bits => ¬ IsNaN bits
  | .string s => (utf8 s).length < 2 ^ 64
  | .bytes bs => bs.length < 2 ^ 64
  | .other _ => False
  | _ => True

instance : DecidablePred Value.Plain := fun v =>
  match v with
  | .null => isTrue trivial
  | .bool _ => isTrue trivial
  | .int n => inferInstanceAs (Decidable (-2 ^ 63 ≤ n ∧ n < 2 ^ 63))
  | .double bits => inferInstanceAs (Decidable (¬ IsNaN bits))
  | .string s => inferInstanceAs (Decidable ((utf8 s).length < 2 ^ 64))
  | .bytes bs => inferInstanceAs (Decidable (bs.length < 2 ^ 64))
  | .other _ => isFalse id

/-- **A scalar is its item**: it is read back from it, and it fits. -/
lemma Value.Plain.item {v : Value} (h : v.Plain) :
    ∃ item, v.item = some item ∧ valueOf item = some v ∧ item.Fits := by
  cases v with
  | null => exact ⟨_, rfl, rfl, trivial⟩
  | bool b => exact ⟨_, rfl, rfl, trivial⟩
  | int n =>
      refine ⟨_, rfl, ?_⟩
      obtain ⟨hlow, hhigh⟩ := h
      split_ifs with hn
      · refine ⟨?_, ?_⟩
        · rw [valueOf, Int.toNat_of_nonneg hn]
        · change n.toNat < 2 ^ 64
          omega
      · refine ⟨?_, ?_⟩
        · rw [valueOf, Int.toNat_of_nonneg (by omega)]
          congr 2
          omega
        · change (-1 - n).toNat < 2 ^ 64
          omega
  | double bits => exact ⟨_, rfl, rfl, trivial⟩
  | string s => exact ⟨_, rfl, by rw [valueOf, ofUtf8_utf8]; rfl, h⟩
  | bytes bs => exact ⟨_, rfl, rfl, h⟩
  | other text => exact h.elim

/-! ### Messages -/

/-- The entries of a message as those of a CBOR map; an entry that is no scalar
is left out. -/
def DataMap.items (m : DataMap) : List (Cbor.Item × Cbor.Item) :=
  m.entries.filterMap fun e => do return (← e.1.item, ← e.2.item)

/-- A message that holds nothing but scalars. -/
structure DataMap.Plain (m : DataMap) : Prop where
  length_lt : m.entries.length < 2 ^ 64
  entry : ∀ e ∈ m.entries, e.1.Plain ∧ e.2.Plain

/-- `package:cbor/simple.dart` on plain messages: the preferred form of CBOR, with
`float` for doubles, and its inverse. -/
structure StandardCbor (pkg : Packages) (float : UInt64 → List UInt8) : Prop where
  length_float_le : ∀ bits, (float bits).length ≤ 9
  encode : ∀ m : DataMap, m.Plain → pkg.cborEncode m = Cbor.encodeMap float m.items
  inverse : ∀ m : DataMap, m.Plain → CborInverse pkg m

/-- The entries that items stand for. -/
def entriesOf (items : List (Cbor.Item × Cbor.Item)) : Option (List (Value × Value)) :=
  items.mapM fun e => do return (← valueOf e.1, ← valueOf e.2)

/-- **A plain message is its items.** -/
lemma DataMap.Plain.items {m : DataMap} (h : m.Plain) :
    entriesOf m.items = some m.entries ∧ m.items.length = m.entries.length ∧
      ∀ e ∈ m.items, e.1.Fits ∧ e.2.Fits := by
  have hentry := h.entry
  rw [DataMap.items]
  generalize m.entries = entries at hentry ⊢
  induction entries with
  | nil => exact ⟨rfl, rfl, by simp⟩
  | cons e entries ih =>
      obtain ⟨hentries, hlen, hfits⟩ := ih fun e' he' => hentry e' (List.mem_cons_of_mem e he')
      obtain ⟨hkey, hvalue⟩ := hentry e List.mem_cons_self
      obtain ⟨key, hkey, hkey', hkeyfits⟩ := hkey.item
      obtain ⟨value, hvalue, hvalue', hvaluefits⟩ := hvalue.item
      rw [List.filterMap_cons_some (b := (key, value)) (by rw [hkey, hvalue]; rfl)]
      refine ⟨?_, ?_, ?_⟩
      · rw [entriesOf] at hentries ⊢
        rw [List.mapM_cons, hentries, hkey', hvalue']
        rfl
      · rw [List.length_cons, List.length_cons, hlen]
      · rw [List.forall_mem_cons]
        exact ⟨⟨hkeyfits, hvaluefits⟩, hfits⟩

/-! ### Packages with CBOR -/

/-- The message of a CBOR map. -/
def cborDecodeMap (data : List UInt8) : Except Error Decoded :=
  match (Cbor.decodeMap data).bind entriesOf with
  | some entries =>
    if h : (stringKeys entries).Nodup then .ok (.map ⟨entries, h⟩) else .error .formatException
  | none => .error .formatException

/-- The packages with CBOR in the preferred form, doubles in eight bytes. -/
def cborPackages : Packages :=
  referencePackages (fun m => Cbor.encodeMap Cbor.double m.items) cborDecodeMap

theorem standardCbor_reference : StandardCbor cborPackages Cbor.double where
  length_float_le bits := by rw [Cbor.double, List.length_cons, Cbor.length_bigEndian]
  encode m _ := rfl
  inverse m h := by
    obtain ⟨hentries, hlen, hfits⟩ := h.items
    have hmap := Cbor.decodeMap_encodeMap (hlen ▸ h.length_lt) hfits
    change cborDecodeMap (Cbor.encodeMap Cbor.double m.items) = _
    rw [cborDecodeMap, hmap, Option.bind_some, hentries]
    dsimp only
    rw [dif_pos m.nodup]

/-! ### Lengths -/

variable {pkg : Packages} {float : UInt64 → List UInt8}

/-- The encoded bytes of a message: delimiters, a code byte and the checksum
around up to 250 bytes of CBOR. -/
lemma length_encoder (hhex : StandardHex pkg) (hcobs : StandardCobs pkg) {m : DataMap}
    (hlen : (pkg.cborEncode m).length ≤ 250) :
    ∃ encoded, encoder pkg m = .ok encoded ∧ encoded.length = (pkg.cborEncode m).length + 7 := by
  have hpayload := length_payload pkg m
  have hne := payload_ne_nil pkg m
  refine ⟨_, encoder_eq hhex hcobs.inverse m, ?_⟩
  rw [length_frame, body, hcobs.cobs_eq hne, Cobs.length_encode_of_le hne (by omega)]
  omega

end SopepApp
