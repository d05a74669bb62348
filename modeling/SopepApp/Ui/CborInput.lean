import SopepApp.Ble.Write
import SopepApp.Codec.Cbor
import SopepApp.Keyed.Current
import SopepApp.Ui.Numbers

/-!
The input of the CBOR dialog, `_parseInput` of `cbor_interaction_dialog.dart`.

* `DataMap.put`: the assignment `raw[key] = value`;
* `parseInput`: the map of the rows that have been typed; `parseInput_current`:
  it has one entry for each name, with the value typed last under it;
* `typed_map_received`: that map is what a receiver decodes from the packets
  which Send writes.
-/

namespace SopepApp

open Dart Delimited Keyed Numbers

/-! ### Assignments to a map -/

lemma stringKeys_eq (entries : List (Value × Value)) :
    stringKeys entries = (entries.map Prod.fst).filterMap fun key => match key with
      | .string s => some s
      | _ => none := by
  rw [stringKeys, List.filterMap_map]
  rfl

/-- An assignment adds its key, unless it is there. -/
lemma nodup_put {entries : List (Value × Value)} (h : (stringKeys entries).Nodup) (key : String)
    (value : Value) : (stringKeys (put Prod.fst entries (.string key, value))).Nodup := by
  rw [stringKeys_eq] at h
  rw [stringKeys_eq, map_put]
  split_ifs with hmem
  · exact h
  · rw [List.filterMap_append]
    refine h.append (List.nodup_singleton key) (List.disjoint_singleton.mpr fun hkey => hmem ?_)
    obtain ⟨k, hk, hstring⟩ := List.mem_filterMap.mp hkey
    cases k with
    | string s =>
        obtain rfl := Option.some.inj hstring
        exact hk
    | _ => exact absurd hstring (by simp)

/-- `raw[key] = value`: the entry with the key, or a new one at the end. -/
def DataMap.put (raw : DataMap) (key : String) (value : Value) : DataMap :=
  ⟨Keyed.put Prod.fst raw.entries (.string key, value), nodup_put raw.nodup key value⟩

namespace CborDialog

variable (doubleTryParse : String → Option UInt64)

/-! ### The rows -/

/-- A row of the dialog: the texts of its two fields. -/
structure GroupControllers where
  str : String := ""
  val : String := ""

/-- The value of a text: a number if it is one. -/
def inputValue (text : String) : Except Error Value :=
  if (doubleTryParse text).isSome then numParse doubleTryParse text else .ok (.string text)

/-- `_parseInput`: the first row begins the map, the others are assigned to
it. -/
def parseInput : List GroupControllers → Except Error DataMap
  | [] => .error .rangeError
  | group :: groups => do
    let value ← inputValue doubleTryParse group.val
    groups.foldlM (fun raw group => do
      let value ← inputValue doubleTryParse group.val
      return raw.put group.str value) (DataMap.put ⟨[], List.nodup_nil⟩ group.str value)

/-- What a row assigns. -/
def typed (group : GroupControllers) : Except Error (Value × Value) := do
  return (.string group.str, ← inputValue doubleTryParse group.val)

variable {doubleTryParse}

/-- A text is always read. -/
lemma inputValue_ok (text : String) : ∃ value, inputValue doubleTryParse text = .ok value := by
  rw [inputValue]
  split_ifs with h
  · obtain ⟨bits, hbits⟩ := Option.isSome_iff_exists.mp h
    rw [numParse]
    rcases intParse_cases text with herr | ⟨n, hn⟩
    · rw [herr, doubleParse, hbits]
      exact ⟨_, rfl⟩
    · rw [hn]
      exact ⟨_, rfl⟩
  · exact ⟨_, rfl⟩

lemma length_of_mapM {groups : List GroupControllers} : ∀ {es : List (Value × Value)},
    groups.mapM (typed doubleTryParse) = .ok es → es.length = groups.length := by
  induction groups with
  | nil =>
      intro es h
      obtain rfl : [] = es := by injection h
      rfl
  | cons group groups ih =>
      intro es h
      rw [List.mapM_cons, bind_eq_ok] at h
      obtain ⟨e, -, h⟩ := h
      obtain ⟨es', hes, h⟩ := bind_eq_ok.mp h
      obtain rfl : e :: es' = es := by injection h
      rw [List.length_cons, List.length_cons, ih hes]

/-- The rows after the first one. -/
lemma foldlM_current {groups : List GroupControllers} : ∀ {raw : DataMap}
    {as : List (Value × Value)}, Current Prod.fst as raw.entries →
    ∃ es data, groups.mapM (typed doubleTryParse) = .ok es ∧
      groups.foldlM (fun raw group => do
        let value ← inputValue doubleTryParse group.val
        return DataMap.put raw group.str value) raw = .ok data ∧
      Current Prod.fst (as ++ es) data.entries := by
  induction groups with
  | nil =>
      intro raw as h
      exact ⟨[], raw, rfl, rfl, by rwa [List.append_nil]⟩
  | cons group groups ih =>
      intro raw as h
      obtain ⟨value, hvalue⟩ := @inputValue_ok doubleTryParse group.val
      have hput : Current Prod.fst (as ++ [(.string group.str, value)])
          (raw.put group.str value).entries := h.put _
      obtain ⟨es, data, hes, hdata, hcurrent⟩ := ih hput
      refine ⟨(.string group.str, value) :: es, data, ?_, ?_, by rwa [List.append_cons]⟩
      · rw [List.mapM_cons, typed, hvalue, hes]
        rfl
      · rw [List.foldlM_cons, hvalue]
        exact hdata

/-- **The map of the rows** has one entry for each name, with the value typed last
under it, in the order in which the names come first. -/
theorem parseInput_current {groups : List GroupControllers} (h : groups ≠ []) :
    ∃ es data, groups.mapM (typed doubleTryParse) = .ok es ∧
      parseInput doubleTryParse groups = .ok data ∧ Current Prod.fst es data.entries := by
  obtain ⟨group, groups, rfl⟩ := List.exists_cons_of_ne_nil h
  obtain ⟨value, hvalue⟩ := @inputValue_ok doubleTryParse group.val
  have hfirst : Current Prod.fst [(.string group.str, value)]
      (DataMap.put ⟨[], List.nodup_nil⟩ group.str value).entries := Current.nil.put _
  obtain ⟨es, data, hes, hdata, hcurrent⟩ := @foldlM_current doubleTryParse groups _ _ hfirst
  refine ⟨(.string group.str, value) :: es, data, ?_, ?_, hcurrent⟩
  · rw [List.mapM_cons, typed, hvalue, hes]
    rfl
  · rw [parseInput, hvalue]
    exact hdata

/-- The map of the rows is plain if what they assign is. -/
lemma plain_of_current {es : List (Value × Value)} {data : DataMap}
    (h : Current Prod.fst es data.entries) (hes : ∀ e ∈ es, e.1.Plain ∧ e.2.Plain)
    (hlength : es.length < 2 ^ 64) : data.Plain where
  entry e he := by
    have hlast := List.mem_of_getLast? (h.latest e he)
    exact hes e (List.mem_of_mem_filter hlast)
  length_lt := by
    have hsub : data.entries.map Prod.fst ⊆ es.map Prod.fst := fun k hk => (h.mem_iff k).mp hk
    have hle := (List.subperm_of_subset h.nodup hsub).length_le
    rw [List.length_map, List.length_map] at hle
    omega

/-- **What is typed is received**: whatever rows have been typed, Send writes one
map, with one entry for each name and the value typed last under it, in the order
in which the names come first; if the values are scalars that CBOR can hold,
its packets are decoded as that map. -/
theorem typed_map_received {pkg : Packages} {float : UInt64 → List UInt8} (hhex : StandardHex pkg)
    (hcobs : CobsInverse pkg) (hcbor : StandardCbor pkg float) {groups : List GroupControllers}
    (hgroups : groups ≠ []) (hlength : groups.length < 2 ^ 64) :
    ∃ es data, groups.mapM (typed doubleTryParse) = .ok es ∧
      parseInput doubleTryParse groups = .ok data ∧ Current Prod.fst es data.entries ∧
      ((∀ e ∈ es, e.1.Plain ∧ e.2.Plain) → ∀ mtu, bleAttHeaderBytes < mtu →
        delivered (feed pkg [] (packetsOf pkg mtu data)).1 = [data]) := by
  obtain ⟨es, data, hes, hdata, hcurrent⟩ := parseInput_current hgroups
  refine ⟨es, data, hes, hdata, hcurrent, fun hplain mtu hmtu => ?_⟩
  have hsize : es.length = groups.length := length_of_mapM hes
  have hm := plain_of_current hcurrent hplain (hsize ▸ hlength)
  exact (feed_packetsOf hhex hcobs (hcbor.inverse data hm) hmtu).2.1

/-- A parser that knows the double 5.0. -/
def fiveTryParse (source : String) : Option UInt64 :=
  if source = "5" then some 0x4014000000000000 else none

/-- A command that has been changed in a further row. -/
theorem typed_map_received_sample : ∃ data,
    parseInput fiveTryParse [⟨"cmd", "read-data"⟩, ⟨"seq", "5"⟩, ⟨"cmd", "read-prio-data"⟩] =
        .ok data ∧
      data.entries = [(.string "cmd", .string "read-prio-data"), (.string "seq", .int 5)] ∧
      delivered (feed cborPackages [] (packetsOf cborPackages 247 data)).1 = [data] := by
  have hrows : [⟨"cmd", "read-data"⟩, ⟨"seq", "5"⟩, ⟨"cmd", "read-prio-data"⟩].mapM
      (typed fiveTryParse) = .ok [(.string "cmd", .string "read-data"), (.string "seq", .int 5),
        (.string "cmd", .string "read-prio-data")] := by decide +kernel
  obtain ⟨es, data, hes, hdata, -, hfeed⟩ := typed_map_received (standardHex_reference _ _)
    (standardCobs_reference _ _).inverse standardCbor_reference
    (List.cons_ne_nil ⟨"cmd", "read-data"⟩ [⟨"seq", "5"⟩, ⟨"cmd", "read-prio-data"⟩]) (by decide)
  obtain rfl : _ = es := by
    have h := hrows.symm.trans hes
    injection h
  refine ⟨data, hdata, ?_, hfeed (by decide) 247 (by decide)⟩
  have hvalue : (parseInput fiveTryParse [⟨"cmd", "read-data"⟩, ⟨"seq", "5"⟩,
      ⟨"cmd", "read-prio-data"⟩]).map DataMap.entries =
      .ok [(.string "cmd", .string "read-prio-data"), (.string "seq", .int 5)] := by
    decide +kernel
  rw [hdata] at hvalue
  injection hvalue

end CborDialog

end SopepApp
