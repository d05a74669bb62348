import Mathlib.Tactic

/-!
CBOR of maps of scalars, in the preferred form: every head in the fewest bytes,
every length definite.

* `bigEndian`, `ofBigEndian`: numbers as bytes, the highest first;
* `head`, `decodeHead`: a major type with its argument;
* `Item`, `encode`, `decode`: a scalar; how a float is written is a parameter,
  and `double` writes its eight bytes;
* `encodeMap`, `decodeMap`: a map, by its entries;
* `decode_encode`, `decodeMap_encodeMap`: what is written is read back;
* `length_head`, `length_encodeMap`: how many bytes are written.
-/

namespace Cbor

/-! ### Numbers -/

/-- The last `k` bytes of a number, the highest first. -/
def bigEndian : ℕ → ℕ → List UInt8
  | 0, _ => []
  | k + 1, n => bigEndian k (n / 256) ++ [UInt8.ofNat n]

/-- The number that bytes write, the highest first. -/
def ofBigEndian (bs : List UInt8) : ℕ := bs.foldl (fun n b => 256 * n + b.toNat) 0

@[simp] lemma length_bigEndian (k : ℕ) : ∀ n : ℕ, (bigEndian k n).length = k := by
  induction k with
  | zero => exact fun n => rfl
  | succ k ih =>
      intro n
      rw [bigEndian, List.length_append, ih, List.length_singleton]

/-- A number below `256 ^ k` is read back from its `k` bytes. -/
lemma ofBigEndian_bigEndian (k : ℕ) : ∀ {n : ℕ}, n < 256 ^ k →
    ofBigEndian (bigEndian k n) = n := by
  induction k with
  | zero =>
      intro n hn
      rw [pow_zero, Nat.lt_one_iff] at hn
      rw [hn]
      rfl
  | succ k ih =>
      intro n hn
      rw [pow_succ] at hn
      have hhigh : ofBigEndian (bigEndian k (n / 256)) = n / 256 := ih (by omega)
      rw [ofBigEndian] at hhigh
      rw [bigEndian, ofBigEndian, List.foldl_append, hhigh, List.foldl_cons, List.foldl_nil,
        UInt8.toNat_ofNat']
      omega

/-! ### Heads -/

/-- A major type and its argument in `2 ^ j` bytes after the first. -/
def longHead (major j n : ℕ) : List UInt8 :=
  UInt8.ofNat (32 * major + 24 + j) :: bigEndian (2 ^ j) n

/-- A major type and its argument. -/
def head (major n : ℕ) : List UInt8 :=
  if n < 24 then [UInt8.ofNat (32 * major + n)]
  else if n < 2 ^ 8 then longHead major 0 n
  else if n < 2 ^ 16 then longHead major 1 n
  else if n < 2 ^ 32 then longHead major 2 n
  else longHead major 3 n

/-- The major type, the argument, and the bytes after them. -/
def decodeHead : List UInt8 → Option (ℕ × ℕ × List UInt8)
  | [] => none
  | b :: rest =>
    let info := b.toNat % 32
    if info < 24 then some (b.toNat / 32, info, rest)
    else if info < 28 ∧ 2 ^ (info - 24) ≤ rest.length then
      some (b.toNat / 32, ofBigEndian (rest.take (2 ^ (info - 24))), rest.drop (2 ^ (info - 24)))
    else none

lemma decodeHead_longHead {major j n : ℕ} (hmajor : major < 8) (hj : j < 4)
    (hn : n < 256 ^ 2 ^ j) (rest : List UInt8) :
    decodeHead (longHead major j n ++ rest) = some (major, n, rest) := by
  have hbyte : (UInt8.ofNat (32 * major + 24 + j)).toNat = 32 * major + 24 + j := by
    rw [UInt8.toNat_ofNat']
    omega
  have hmod : (32 * major + 24 + j) % 32 = 24 + j := by omega
  have hdiv : (32 * major + 24 + j) / 32 = major := by omega
  have hlen := length_bigEndian (2 ^ j) n
  rw [longHead, List.cons_append, decodeHead, hbyte, hmod, hdiv, if_neg (by omega),
    Nat.add_sub_cancel_left, if_pos ⟨by omega, by rw [List.length_append, hlen]; omega⟩,
    List.take_left' hlen, List.drop_left' hlen, ofBigEndian_bigEndian _ hn]

/-- **Heads are read back.** -/
lemma decodeHead_head {major n : ℕ} (hmajor : major < 8) (hn : n < 2 ^ 64) (rest : List UInt8) :
    decodeHead (head major n ++ rest) = some (major, n, rest) := by
  rw [head]
  split_ifs with h0 h1 h2 h3
  · have hbyte : (UInt8.ofNat (32 * major + n)).toNat = 32 * major + n := by
      rw [UInt8.toNat_ofNat']
      omega
    have hmod : (32 * major + n) % 32 = n := by omega
    have hdiv : (32 * major + n) / 32 = major := by omega
    rw [List.singleton_append, decodeHead, hbyte, hmod, hdiv, if_pos h0]
  · exact decodeHead_longHead hmajor (by decide) h1 rest
  · exact decodeHead_longHead hmajor (by decide) h2 rest
  · exact decodeHead_longHead hmajor (by decide) h3 rest
  · exact decodeHead_longHead hmajor (by decide) hn rest

/-- **The bytes of a head.** -/
lemma length_head (major n : ℕ) : (head major n).length =
    if n < 24 then 1 else if n < 2 ^ 8 then 2 else if n < 2 ^ 16 then 3
    else if n < 2 ^ 32 then 5 else 9 := by
  rw [head]
  split_ifs <;> simp [longHead]

lemma length_head_le (major n : ℕ) : (head major n).length ≤ 9 := by
  rw [length_head]
  split_ifs <;> omega

/-- The first byte of a head is below those of the major type 7. -/
lemma head_eq_cons {major : ℕ} (hmajor : major < 7) (n : ℕ) :
    ∃ b rest, head major n = b :: rest ∧ b.toNat < 224 := by
  have hbyte : ∀ k < 224, (UInt8.ofNat k).toNat < 224 := by
    intro k hk
    rw [UInt8.toNat_ofNat', Nat.mod_eq_of_lt (by omega)]
    exact hk
  rw [head]
  split_ifs
  · exact ⟨_, _, rfl, hbyte _ (by omega)⟩
  all_goals exact ⟨_, _, rfl, hbyte _ (by omega)⟩

/-! ### Scalars -/

/-- A scalar; a text by its UTF-8 bytes, a float by its 64 bits. -/
inductive Item where
  | uint (n : ℕ)
  /-- the number `-1 - n` -/
  | nint (n : ℕ)
  | bytes (bs : List UInt8)
  | text (utf8 : List UInt8)
  | bool (b : Bool)
  | null
  | float (bits : UInt64)
  deriving DecidableEq, Repr

/-- The bytes of a scalar, `float` writing the floats. -/
def encode (float : UInt64 → List UInt8) : Item → List UInt8
  | .uint n => head 0 n
  | .nint n => head 1 n
  | .bytes bs => head 2 bs.length ++ bs
  | .text utf8 => head 3 utf8.length ++ utf8
  | .bool b => if b then [0xF5] else [0xF4]
  | .null => [0xF6]
  | .float bits => float bits

/-- A float in its eight bytes. -/
def double (bits : UInt64) : List UInt8 := 0xFB :: bigEndian 8 bits.toNat

/-- The argument of a scalar as a length: so many bytes. -/
def cut (n : ℕ) (rest : List UInt8) : Option (List UInt8 × List UInt8) :=
  if n ≤ rest.length then some (rest.take n, rest.drop n) else none

/-- The number or the string after a head. -/
def ofHead (major n : ℕ) (rest : List UInt8) : Option (Item × List UInt8) :=
  match major with
  | 0 => some (.uint n, rest)
  | 1 => some (.nint n, rest)
  | 2 => (cut n rest).map fun c => (.bytes c.1, c.2)
  | 3 => (cut n rest).map fun c => (.text c.1, c.2)
  | _ => none

/-- The scalar at the start of bytes, and the bytes after it. -/
def decode (data : List UInt8) : Option (Item × List UInt8) :=
  match data with
  | 0xF4 :: rest => some (.bool false, rest)
  | 0xF5 :: rest => some (.bool true, rest)
  | 0xF6 :: rest => some (.null, rest)
  | 0xFB :: rest => (cut 8 rest).map fun c => (.float (UInt64.ofNat (ofBigEndian c.1)), c.2)
  | _ =>
    match decodeHead data with
    | some (major, n, rest) => ofHead major n rest
    | none => none

/-- The arguments fit into 64 bits. -/
def Item.Fits : Item → Prop
  | .uint n => n < 2 ^ 64
  | .nint n => n < 2 ^ 64
  | .bytes bs => bs.length < 2 ^ 64
  | .text utf8 => utf8.length < 2 ^ 64
  | _ => True

lemma cut_append (bs rest : List UInt8) : cut bs.length (bs ++ rest) = some (bs, rest) := by
  rw [cut, if_pos (by rw [List.length_append]; omega), List.take_left, List.drop_left]

/-- A head of a number or of a string is read as one. -/
lemma decode_head {major n : ℕ} (hmajor : major < 7) (hn : n < 2 ^ 64) (rest : List UInt8) :
    decode (head major n ++ rest) = ofHead major n rest := by
  have hhead := decodeHead_head (by omega : major < 8) hn rest
  obtain ⟨b, tail, hcons, hlt⟩ := head_eq_cons hmajor n
  rw [hcons, List.cons_append] at hhead ⊢
  rw [decode, hhead]
  · rintro rest' ⟨rfl, -⟩
    exact absurd hlt (by decide)
  · rintro rest' ⟨rfl, -⟩
    exact absurd hlt (by decide)
  · rintro rest' ⟨rfl, -⟩
    exact absurd hlt (by decide)
  · rintro rest' ⟨rfl, -⟩
    exact absurd hlt (by decide)

/-- **A scalar is read back.** -/
theorem decode_encode {item : Item} (hfits : item.Fits) (rest : List UInt8) :
    decode (encode double item ++ rest) = some (item, rest) := by
  cases item with
  | uint n => exact decode_head (by decide) hfits rest
  | nint n => exact decode_head (by decide) hfits rest
  | bytes bs =>
      rw [encode, List.append_assoc, decode_head (by decide) hfits, ofHead, cut_append]
      rfl
  | text utf8 =>
      rw [encode, List.append_assoc, decode_head (by decide) hfits, ofHead, cut_append]
      rfl
  | bool b => cases b <;> rfl
  | null => rfl
  | float bits =>
      have hlen := length_bigEndian 8 bits.toNat
      have hcut := cut_append (bigEndian 8 bits.toNat) rest
      rw [hlen] at hcut
      rw [encode, double, List.cons_append, decode, hcut, Option.map_some,
        ofBigEndian_bigEndian 8 bits.toNat_lt, UInt64.ofNat_toNat]

/-! ### Maps -/

/-- A map by its entries. -/
def encodeMap (float : UInt64 → List UInt8) (entries : List (Item × Item)) : List UInt8 :=
  head 5 entries.length ++ entries.flatMap fun e => encode float e.1 ++ encode float e.2

/-- So many entries at the start of bytes, and the bytes after them. -/
def decodeEntries : ℕ → List UInt8 → Option (List (Item × Item) × List UInt8)
  | 0, data => some ([], data)
  | n + 1, data => do
    let (key, data) ← decode data
    let (value, data) ← decode data
    let (entries, data) ← decodeEntries n data
    return ((key, value) :: entries, data)

/-- The entries of a map that takes all the bytes. -/
def decodeMap (data : List UInt8) : Option (List (Item × Item)) := do
  let (major, n, data) ← decodeHead data
  let (entries, data) ← decodeEntries n data
  if major = 5 ∧ data = [] then some entries else none

lemma decodeEntries_encode {entries : List (Item × Item)}
    (hfits : ∀ e ∈ entries, e.1.Fits ∧ e.2.Fits) (rest : List UInt8) :
    decodeEntries entries.length
      ((entries.flatMap fun e => encode double e.1 ++ encode double e.2) ++ rest) =
        some (entries, rest) := by
  induction entries with
  | nil => rfl
  | cons e entries ih =>
      obtain ⟨hkey, hvalue⟩ := hfits e List.mem_cons_self
      have hrest := ih fun e' he' => hfits e' (List.mem_cons_of_mem e he')
      rw [List.flatMap_cons, List.append_assoc, List.append_assoc, List.length_cons, decodeEntries,
        decode_encode hkey]
      simp only [Option.bind_eq_bind, Option.bind_some, decode_encode hvalue, hrest, Option.pure_def]

/-- **A map is read back.** -/
theorem decodeMap_encodeMap {entries : List (Item × Item)} (hlen : entries.length < 2 ^ 64)
    (hfits : ∀ e ∈ entries, e.1.Fits ∧ e.2.Fits) :
    decodeMap (encodeMap double entries) = some entries := by
  have hentries := decodeEntries_encode hfits []
  rw [List.append_nil] at hentries
  rw [encodeMap, decodeMap, decodeHead_head (by decide) hlen]
  simp only [Option.bind_eq_bind, Option.bind_some, hentries, and_self, if_true]

/-- **The bytes of a map.** -/
lemma length_encodeMap (float : UInt64 → List UInt8) (entries : List (Item × Item)) :
    (encodeMap float entries).length = (head 5 entries.length).length +
      (entries.map fun e => (encode float e.1).length + (encode float e.2).length).sum := by
  rw [encodeMap, List.length_append, List.length_flatMap]
  congr 2
  exact List.map_congr_left fun e _ => List.length_append

end Cbor
