import SopepApp.Dart.Effect

/-!
Messages of the sOPEP device, as the app sees them: the maps
`Map<Object?, Object?>` that `cbor.decode` of `package:cbor/simple.dart`
returns and the command methods of `BleSopepInteractor` build.

* `Value`: the Dart objects a map holds, as far as the app tells them apart;
* `DataMap`: a map in insertion order, no string key twice;
* `DataMap.get`: the operator `[]`, `null` for an absent key.
-/

namespace SopepApp

open Dart

/-- A decoded object. -/
inductive Value where
  | null
  | bool (b : Bool)
  | int (n : ℤ)
  /-- a double, by its IEEE 754 bits -/
  | double (bits : UInt64)
  | string (s : String)
  | bytes (bs : List UInt8)
  /-- any other object, by its `toString()`: a list, a map, a `BigInt`, a
  `DateTime`; it is equal to no literal and fails every cast of the app -/
  | other (text : String)
  deriving DecidableEq, Repr

namespace Value

/-- The int a number is equal to, if there is one. -/
def toInt? : Value → Option ℤ
  | int n => some n
  | double bits => doubleToInt? bits
  | _ => none

/-- `value == n` for an int `n`: ints and doubles compare by value. -/
def eqInt (v : Value) (n : ℤ) : Prop := v.toInt? = some n

instance (v : Value) (n : ℤ) : Decidable (v.eqInt n) :=
  inferInstanceAs (Decidable (v.toInt? = some n))

/-- `value!`: throws on `null`. -/
def nullCheck (v : Value) : Except Error Value :=
  if v = null then .error .nullCheck else .ok v

/-- `value as int`. -/
def asInt : Value → Except Error ℤ
  | int n => .ok n
  | _ => .error .typeError

/-- `value as List<int>`. -/
def asBytes : Value → Except Error (List UInt8)
  | bytes bs => .ok bs
  | _ => .error .typeError

/-- `value as bool`. -/
def asBool : Value → Except Error Bool
  | bool b => .ok b
  | _ => .error .typeError

/-- A cast that succeeds. -/
lemma asInt_toOption_eq_some {v : Value} {n : ℤ} : v.asInt.toOption = some n ↔ v = .int n := by
  cases v <;> simp [asInt, Except.toOption]

lemma asBytes_isSome {v : Value} : v.asBytes.toOption.isSome ↔ ∃ bs, v = .bytes bs := by
  cases v <;> simp [asBytes, Except.toOption]

lemma asInt_eq_ok {v : Value} {n : ℤ} : v.asInt = .ok n ↔ v = .int n := by
  cases v <;> simp [asInt]

lemma asBool_eq_ok {v : Value} {b : Bool} : v.asBool = .ok b ↔ v = .bool b := by
  cases v <;> simp [asBool]

@[simp] lemma nullCheck_of_ne {v : Value} (h : v ≠ null) : v.nullCheck = .ok v := if_neg h

lemma nullCheck_eq_ok {v w : Value} : v.nullCheck = .ok w ↔ v ≠ null ∧ v = w := by
  rw [nullCheck]
  split_ifs with h
  · simp [h]
  · simp [h]

end Value

/-- The string keys among the keys of a list of entries. -/
def stringKeys (entries : List (Value × Value)) : List String :=
  entries.filterMap fun e => match e.1 with
    | .string s => some s
    | _ => none

/-- A map in insertion order. -/
structure DataMap where
  entries : List (Value × Value)
  nodup : (stringKeys entries).Nodup
  deriving DecidableEq

namespace DataMap

/-- `dataMap[key]` for a string key. -/
def get (m : DataMap) (key : String) : Value :=
  match m.entries.find? fun e => e.1 = .string key with
  | some e => e.2
  | none => .null

/-- `dataMap.containsKey(key)`. -/
def containsKey (m : DataMap) (key : String) : Prop := ∃ e ∈ m.entries, e.1 = .string key

instance (m : DataMap) (key : String) : Decidable (m.containsKey key) := by
  unfold containsKey
  infer_instance

end DataMap

/-- What the platform libraries print: a double, and a moment in milliseconds
since the epoch under a pattern of `DateFormat` in local time. -/
structure Platform where
  doubleText : UInt64 → String
  formatDate : String → ℤ → String

/-- `'$value'`, the text of an object in a string interpolation. -/
def Value.toText (p : Platform) : Value → String
  | .null => "null"
  | .bool b => if b then "true" else "false"
  | .int n => toString n
  | .double bits => p.doubleText bits
  | .string s => s
  | .bytes bs => "[" ++ ", ".intercalate (bs.map fun b => toString b.toNat) ++ "]"
  | .other text => text

end SopepApp
