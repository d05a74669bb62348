import SopepApp.Ble.Commands
import SopepApp.Ble.Write
import SopepApp.Codec.Cbor
import SopepApp.Ui.Numbers

/-!
The dialogs that send one command: those of `sopep_settime_dialog.dart`,
`sopep_echo_dialog.dart`, `sopep_readpriodata_dialog.dart` and
`sopep_erase_dialog.dart`.

* `EraseDialog`: the boxes and switches of the erase dialog;
* `CommandDialog`, `pressed`: a dialog as it stands, and its button;
* `Says`: a command says what a dialog shows;
* `dialogs_send_what_they_show`: the button throws on a text that is no number; it
  writes nothing if there is nothing to erase; in all other cases it writes a
  command that says what the dialog shows and that a receiver decodes.
-/

namespace SopepApp.CommandDialogs

open Dart Commands Numbers Delimited
open ReadData.Dialogs (intParse)

/-! ### The dialogs -/

/-- `_SopepEraseDialogState`. -/
structure EraseDialog where
  isCheckedData : Bool := false
  isCheckedPrioData : Bool := false
  isCheckedDiagData : Bool := false
  isCheckedConfig : Bool := false
  isCheckedBleBonds : Bool := false
  toggleDeleteFormatData : Bool := false
  toggleDeleteFormatPrioData : Bool := false
  toggleDeleteFormatDiagData : Bool := false
  deriving DecidableEq

/-- The button Erase. -/
def EraseDialog.pressed (d : EraseDialog) : Option String → Except Error Write :=
  eraseFlash ⟨d.isCheckedData, some d.toggleDeleteFormatData, d.isCheckedPrioData,
    some d.toggleDeleteFormatPrioData, d.isCheckedDiagData, some d.toggleDeleteFormatDiagData,
    d.isCheckedConfig, d.isCheckedBleBonds⟩

/-- A dialog as it stands: the text of its field, or its boxes and switches. -/
inductive CommandDialog where
  | setTime (currentTime : String)
  | echo (totalBytes : String)
  | readPrioData (dataSeq : String)
  | erase (dialog : EraseDialog)

/-- `onPressed` of the button, at the time `now`. -/
def CommandDialog.pressed (now : ℤ) : CommandDialog → Option String → Except Error Write
  | .setTime currentTime, characteristic => do
    Commands.setTime now (some (← intParse currentTime)) characteristic
  | .echo totalBytes, characteristic => do
    sendEchoTest (← intParse totalBytes) characteristic
  | .readPrioData dataSeq, characteristic =>
    if dataSeq ≠ "" then do
      getPriorityData (← intParse dataSeq) characteristic
    else
      getOldestPriorityData characteristic
  | .erase dialog, characteristic => dialog.pressed characteristic

/-! ### What is shown -/

/-- The text that the button reads as a number. -/
def CommandDialog.number? : CommandDialog → Option String
  | .setTime currentTime => some currentTime
  | .echo totalBytes => some totalBytes
  | .readPrioData dataSeq => if dataSeq ≠ "" then some dataSeq else none
  | .erase _ => none

/-- The areas of the memory by their keys, with their boxes and switches. -/
def EraseDialog.areas (d : EraseDialog) : List (String × Bool × Bool) :=
  [("data", d.isCheckedData, d.toggleDeleteFormatData),
    ("prio-data", d.isCheckedPrioData, d.toggleDeleteFormatPrioData),
    ("diag-data", d.isCheckedDiagData, d.toggleDeleteFormatDiagData)]

/-- The other boxes by their keys. -/
def EraseDialog.flags (d : EraseDialog) : List (String × Bool) :=
  [("configuration", d.isCheckedConfig), ("pairing", d.isCheckedBleBonds)]

/-- Some box is checked. -/
def EraseDialog.checked (d : EraseDialog) : Bool :=
  d.isCheckedData || d.isCheckedPrioData || d.isCheckedDiagData || d.isCheckedConfig ||
    d.isCheckedBleBonds

/-- The command says what the dialog shows. -/
def Says (data : DataMap) : CommandDialog → Prop
  | .setTime currentTime => data.get "cmd" = .string "set-time" ∧
      ∃ n, intParse currentTime = .ok n ∧ data.get "timestamp" = .int n
  | .echo totalBytes => data.get "cmd" = .string "echo-test" ∧
      ∃ n, intParse totalBytes = .ok n ∧
        data.get "data" = .bytes ((List.range n.toNat).map fun i => UInt8.ofNat (i % 255))
  | .readPrioData dataSeq => data.get "cmd" = .string "read-prio-data" ∧
      if dataSeq = "" then data.get "seq" = .null
      else ∃ n, intParse dataSeq = .ok n ∧ data.get "seq" = .int n
  | .erase d => data.get "cmd" = .string "erase" ∧
      (∀ a ∈ d.areas, data.get a.1 =
        if a.2.1 then .string (if a.2.2 then "format" else "delete") else .null) ∧
      ∀ f ∈ d.flags, data.get f.1 = if f.2 then .bool true else .null

/-! ### The commands -/

/-- The filler counts up to 254 and begins anew. -/
lemma fillEcho_iterate (n : ℕ) : fillEcho^[n] ([], 0) =
    ((List.range n).map fun i => UInt8.ofNat (i % 255), n % 255) := by
  induction n with
  | zero => rfl
  | succ n ih =>
      rw [Function.iterate_succ_apply', ih, fillEcho, List.range_succ, List.map_append]
      refine Prod.ext rfl ?_
      dsimp only
      split_ifs <;> omega

/-- A map whose entries are all plain. -/
lemma plain_of_entries {data : DataMap} {args : List (String × Value)} {name : String}
    (hentries : data.entries = (.string "cmd", .string name) ::
      args.map fun a => (.string a.1, a.2))
    (hname : (Value.string name).Plain) (hargs : ∀ a ∈ args, (Value.string a.1).Plain ∧ a.2.Plain)
    (hlength : args.length < 8) : data.Plain where
  length_lt := by
    rw [hentries, List.length_cons, List.length_map]
    omega
  entry := by
    rw [hentries, List.forall_mem_cons, List.forall_mem_map]
    exact ⟨⟨(by decide : (Value.string "cmd").Plain), hname⟩, hargs⟩

/-- An entry of a command. -/
lemma get_cborCmd {name : String} {args : List (String × Value)}
    {h : ("cmd" :: args.map Prod.fst).Nodup} {a : String × Value} (ha : a ∈ args) :
    (cborCmd name args h).get a.1 = a.2 := by
  have hne : a.1 ≠ "cmd" := by
    rintro hcmd
    exact (List.nodup_cons.mp h).1 (hcmd ▸ List.mem_map_of_mem ha)
  have hfind : ∀ args : List (String × Value), (args.map Prod.fst).Nodup → a ∈ args →
      ((args.map fun a => (Value.string a.1, a.2)).find? fun e => e.1 = .string a.1) =
        some (.string a.1, a.2) := by
    intro args
    induction args with
    | nil => exact fun _ ha => absurd ha List.not_mem_nil
    | cons b args ih =>
        intro hnodup ha
        rw [List.map_cons, List.nodup_cons] at hnodup
        rw [List.map_cons]
        rcases List.mem_cons.mp ha with rfl | ha
        · rw [List.find?_cons_of_pos (by simp)]
        · have hb : b.1 ≠ a.1 := fun heq => hnodup.1 (heq ▸ List.mem_map_of_mem ha)
          rw [List.find?_cons_of_neg (by simpa using hb), ih hnodup.2 ha]
  have hkey : ((cborCmd name args h).entries.find? fun e => e.1 = .string a.1) =
      some (.string a.1, a.2) := by
    rw [cborCmd, List.find?_cons_of_neg (by simpa using hne.symm),
      hfind args (List.nodup_cons.mp h).2 ha]
  rw [DataMap.get, hkey]

/-- A key that a command does not have. -/
lemma get_cborCmd_none {name : String} {args : List (String × Value)}
    {h : ("cmd" :: args.map Prod.fst).Nodup} {key : String} (hkey : key ∉ args.map Prod.fst)
    (hne : key ≠ "cmd") : (cborCmd name args h).get key = .null := by
  have hfind : ((cborCmd name args h).entries.find? fun e => e.1 = .string key) = none := by
    rw [cborCmd, List.find?_cons_of_neg (by simpa using hne.symm), List.find?_eq_none,
      List.forall_mem_map]
    intro a ha
    rw [decide_eq_true_eq, Value.string.injEq]
    exact fun heq => hkey (heq ▸ List.mem_map_of_mem ha)
  rw [DataMap.get, hfind]

/-- The entries that have been assigned, and those that have not. -/
lemma get_assigned {name : String} {entries : List (String × Option Value)}
    (hnodup : ("cmd" :: entries.map Prod.fst).Nodup) {e : String × Option Value}
    (he : e ∈ entries) :
    (cborCmd name (assigned entries) (nodup_assigned hnodup)).get e.1 = e.2.getD .null := by
  cases hv : e.2 with
  | some v =>
      have hmem : (e.1, v) ∈ assigned entries :=
        List.mem_filterMap.mpr ⟨e, he, by rw [hv]; rfl⟩
      exact get_cborCmd hmem
  | none =>
      refine get_cborCmd_none ?_ ?_
      · intro hkey
        obtain ⟨a, ha, heq⟩ := List.mem_map.mp hkey
        obtain ⟨e', he', hassigned⟩ := List.mem_filterMap.mp ha
        obtain ⟨v, hv', rfl⟩ := Option.map_eq_some_iff.mp hassigned
        -- the keys tell the entries apart
        obtain rfl := List.inj_on_of_nodup_map (List.nodup_cons.mp hnodup).2 he' he heq
        rw [hv] at hv'
        exact absurd hv' (by simp)
      · rintro hcmd
        exact (List.nodup_cons.mp hnodup).1 (hcmd ▸ List.mem_map_of_mem he)

/-- What an area assigns. -/
def areaEntry (a : String × Bool × Bool) : String × Option Value :=
  (a.1, if a.2.1 then some (.string (if a.2.2 then "format" else "delete")) else none)

/-- What another box assigns. -/
def flagEntry (f : String × Bool) : String × Option Value :=
  (f.1, if f.2 then some (.bool true) else none)

/-- What the dialog assigns. -/
def EraseDialog.entries (d : EraseDialog) : List (String × Option Value) :=
  d.areas.map areaEntry ++ d.flags.map flagEntry

lemma nodup_entries (d : EraseDialog) : ("cmd" :: d.entries.map Prod.fst).Nodup := by
  simp [EraseDialog.entries, EraseDialog.areas, EraseDialog.flags, areaEntry, flagEntry]

/-- The call of `eraseFlash`. -/
lemma eraseFlash_eq (d : EraseDialog) (characteristic : Option String) :
    d.pressed characteristic =
      if assigned d.entries ≠ [] then
        writeCborCmd (cborCmd "erase" (assigned d.entries) (nodup_assigned (nodup_entries d)))
          characteristic
      else .ok none := by
  have hvalue : ∀ selected format, eraseValue selected (some format) =
      .ok (if selected then some (.string (if format then "format" else "delete")) else none) := by
    intro selected format
    cases selected <;> rfl
  simp only [EraseDialog.pressed, eraseFlash, hvalue]
  rfl

/-- Nothing is assigned if no box is checked. -/
lemma assigned_eq_nil_iff (d : EraseDialog) : assigned d.entries = [] ↔ d.checked = false := by
  simp [assigned, EraseDialog.entries, EraseDialog.areas, EraseDialog.flags, areaEntry,
    flagEntry, EraseDialog.checked, and_assoc]

/-- **The button Erase** with nothing checked. -/
lemma erase_unchecked {d : EraseDialog} (h : d.checked = false) (characteristic : Option String) :
    d.pressed characteristic = .ok none := by
  rw [eraseFlash_eq, if_neg (not_not.mpr ((assigned_eq_nil_iff d).mpr h))]

/-- What is assigned is plain. -/
lemma plain_assigned {d : EraseDialog} {a : String × Value} (ha : a ∈ assigned d.entries) :
    (Value.string a.1).Plain ∧ a.2.Plain := by
  obtain ⟨e, he, hassigned⟩ := List.mem_filterMap.mp ha
  obtain ⟨v, hv, rfl⟩ := Option.map_eq_some_iff.mp hassigned
  have hkeys : ∀ key ∈ ["data", "prio-data", "diag-data", "configuration", "pairing"],
      (Value.string key).Plain := by decide
  have hvalues : ∀ format : Bool,
      (Value.string (if format then "format" else "delete")).Plain := by decide
  have hkey : e.1 ∈ d.entries.map Prod.fst := List.mem_map_of_mem he
  refine ⟨hkeys e.1 hkey, ?_⟩
  rcases List.mem_append.mp he with he | he
  · obtain ⟨area, -, rfl⟩ := List.mem_map.mp he
    obtain ⟨-, hv⟩ := Option.ite_none_right_eq_some.mp hv
    obtain rfl := Option.some.inj hv
    exact hvalues area.2.2
  · obtain ⟨flag, -, rfl⟩ := List.mem_map.mp he
    obtain ⟨-, hv⟩ := Option.ite_none_right_eq_some.mp hv
    obtain rfl := Option.some.inj hv
    trivial

/-- **The button Erase** with a box checked and a target. -/
lemma erase_checked {d : EraseDialog} (h : d.checked = true) (target : String) :
    ∃ data : DataMap, d.pressed (some target) = .ok (some (target, data)) ∧
      Says data (.erase d) ∧ data.Plain := by
  have hsome : assigned d.entries ≠ [] := fun hnil =>
    absurd ((assigned_eq_nil_iff d).mp hnil) (ne_false_of_eq_true h)
  rw [eraseFlash_eq, if_pos hsome]
  refine ⟨_, rfl, ⟨rfl, fun a ha => ?_, fun f hf => ?_⟩, ?_⟩
  · have hentry : areaEntry a ∈ d.entries :=
      List.mem_append_left _ (List.mem_map_of_mem ha)
    refine (get_assigned (nodup_entries d) hentry).trans ?_
    rw [areaEntry]
    split_ifs <;> rfl
  · have hentry : flagEntry f ∈ d.entries :=
      List.mem_append_right _ (List.mem_map_of_mem hf)
    refine (get_assigned (nodup_entries d) hentry).trans ?_
    rw [flagEntry]
    split_ifs <;> rfl
  · have hlength : (assigned d.entries).length ≤ 5 := List.length_filterMap_le _ _
    exact plain_of_entries rfl (by decide) (fun a ha => plain_assigned ha) (by omega)

/-- The dialogs with a field, on a number. -/
lemma pressed_of_number {d : CommandDialog} {text : String} (htext : text ∈ d.number?) {n : ℤ}
    (hn : intParse text = .ok n) (now : ℤ) (target : String) : ∃ data : DataMap,
      d.pressed now (some target) = .ok (some (target, data)) ∧ Says data d ∧ data.Plain := by
  have hint : (Value.int n).Plain := bounds_of_intParse hn
  cases d with
  | setTime currentTime =>
      obtain rfl := Option.some.inj htext
      refine ⟨_, by rw [CommandDialog.pressed, hn]; rfl, ⟨rfl, n, hn, rfl⟩, ?_⟩
      refine plain_of_entries rfl (by decide) ?_ (by simp)
      rw [List.forall_mem_singleton]
      exact ⟨(by decide : (Value.string "timestamp").Plain), hint⟩
  | echo totalBytes =>
      obtain rfl := Option.some.inj htext
      have hdata : (fillEcho^[n.toNat] ([], 0)).1 =
          (List.range n.toNat).map fun i => UInt8.ofNat (i % 255) := by rw [fillEcho_iterate]
      refine ⟨_, by rw [CommandDialog.pressed, hn]; rfl, ⟨rfl, n, hn, ?_⟩, ?_⟩
      · exact congrArg Value.bytes hdata
      refine plain_of_entries rfl (by decide) ?_ (by simp)
      rw [List.forall_mem_singleton]
      refine ⟨(by decide : (Value.string "data").Plain), ?_⟩
      change (fillEcho^[n.toNat] ([], 0)).1.length < 2 ^ 64
      rw [hdata, List.length_map, List.length_range]
      have hhigh := hint.2
      omega
  | readPrioData dataSeq =>
      rw [CommandDialog.number?, Option.mem_def, Option.ite_none_right_eq_some] at htext
      obtain ⟨hne, htext⟩ := htext
      obtain rfl := Option.some.inj htext
      refine ⟨_, by rw [CommandDialog.pressed, if_pos hne, hn]; rfl, ⟨rfl, ?_⟩, ?_⟩
      · rw [if_neg hne]
        exact ⟨n, hn, rfl⟩
      · refine plain_of_entries rfl (by decide) ?_ (by simp)
        rw [List.forall_mem_singleton]
        exact ⟨(by decide : (Value.string "seq").Plain), hint⟩
  | erase d => exact absurd htext (by simp [CommandDialog.number?])

/-- The dialogs with a field, on any other text. -/
lemma pressed_of_not_number {d : CommandDialog} {text : String} (htext : d.number? = some text)
    (herr : intParse text = .error .formatException) (now : ℤ) (characteristic : Option String) :
    d.pressed now characteristic = .error .formatException := by
  cases d with
  | setTime currentTime =>
      obtain rfl := Option.some.inj htext
      rw [CommandDialog.pressed, herr]
      rfl
  | echo totalBytes =>
      obtain rfl := Option.some.inj htext
      rw [CommandDialog.pressed, herr]
      rfl
  | readPrioData dataSeq =>
      rw [CommandDialog.number?, Option.ite_none_right_eq_some] at htext
      obtain ⟨hne, htext⟩ := htext
      obtain rfl := Option.some.inj htext
      rw [CommandDialog.pressed, if_pos hne, herr]
      rfl
  | erase d => exact absurd htext (by simp [CommandDialog.number?])

/-- The dialogs in which nothing has to be a number, and something is to be sent. -/
lemma pressed_of_none {d : CommandDialog} (htext : d.number? = none)
    (herase : ∀ e, d = .erase e → e.checked = true) (now : ℤ) (target : String) :
    ∃ data : DataMap, d.pressed now (some target) = .ok (some (target, data)) ∧ Says data d ∧
      data.Plain := by
  cases d with
  | setTime currentTime => exact absurd htext (by simp [CommandDialog.number?])
  | echo totalBytes => exact absurd htext (by simp [CommandDialog.number?])
  | readPrioData dataSeq =>
      obtain rfl : dataSeq = "" := by simpa [CommandDialog.number?] using htext
      have hnone : ∀ a ∈ ([] : List (String × Value)), (Value.string a.1).Plain ∧ a.2.Plain := by
        simp
      exact ⟨_, rfl, ⟨rfl, rfl⟩, plain_of_entries rfl (by decide) hnone (by simp)⟩
  | erase e => exact erase_checked (herase e rfl) target

/-- **The dialogs send what they show**: on a text that is no number the button throws;
with nothing to erase it writes nothing; in all other cases, if there is a target, it
writes a command that says what the dialog shows and is decoded by the receiver. -/
theorem dialogs_send_what_they_show {pkg : Packages} {float : UInt64 → List UInt8}
    (hhex : StandardHex pkg) (hcobs : CobsInverse pkg) (hcbor : StandardCbor pkg float)
    (d : CommandDialog) (now : ℤ) :
    ((∃ text ∈ d.number?, ∀ n, intParse text ≠ .ok n) →
      ∀ characteristic, d.pressed now characteristic = .error .formatException) ∧
    (∀ e, d = .erase e → e.checked = false →
      ∀ characteristic, d.pressed now characteristic = .ok none) ∧
    ((∀ text ∈ d.number?, ∃ n, intParse text = .ok n) →
      (∀ e, d = .erase e → e.checked = true) →
      ∀ target, ∃ data, d.pressed now (some target) = .ok (some (target, data)) ∧ Says data d ∧
        ∀ mtu, bleAttHeaderBytes < mtu →
          delivered (feed pkg [] (packetsOf pkg mtu data)).1 = [data]) := by
  refine ⟨?_, ?_, ?_⟩
  · rintro ⟨text, htext, hnot⟩ characteristic
    have herr := (intParse_cases text).resolve_right fun ⟨n, hn⟩ => hnot n hn
    exact pressed_of_not_number htext herr now characteristic
  · rintro e rfl hchecked characteristic
    exact erase_unchecked hchecked characteristic
  · intro hnumber herase target
    have hsent : ∃ data : DataMap, d.pressed now (some target) = .ok (some (target, data)) ∧
        Says data d ∧ data.Plain := by
      cases htext : d.number? with
      | some text =>
          obtain ⟨n, hn⟩ := hnumber text htext
          exact pressed_of_number htext hn now target
      | none => exact pressed_of_none htext herase now target
    obtain ⟨data, hpressed, hsays, hplain⟩ := hsent
    exact ⟨data, hpressed, hsays, fun mtu hmtu =>
      (feed_packetsOf hhex hcobs (hcbor.inverse data hplain) hmtu).2.1⟩

/-- A text that is no number, an erase dialog as it is opened, and one with two boxes
checked. -/
theorem dialogs_send_sample :
    (CommandDialog.echo "ten").pressed 0 none = .error .formatException ∧
    (CommandDialog.erase {}).pressed 0 none = .ok none ∧
    ∃ data,
      (CommandDialog.erase { isCheckedData := true, isCheckedConfig := true }).pressed 0
          (some "A") = .ok (some ("A", data)) ∧
        Says data (.erase { isCheckedData := true, isCheckedConfig := true }) ∧
        delivered (feed cborPackages [] (packetsOf cborPackages 247 data)).1 = [data] := by
  have hsend := dialogs_send_what_they_show (standardHex_reference _ _)
    (standardCobs_reference _ _).inverse standardCbor_reference
  refine ⟨(hsend (.echo "ten") 0).1 ⟨"ten", rfl, ?_⟩ none, ?_, ?_⟩
  · intro n hn
    have herr : intParse "ten" = .error .formatException := by decide +kernel
    rw [herr] at hn
    exact absurd hn (by simp)
  · exact (hsend (.erase {}) 0).2.1 {} rfl rfl none
  · obtain ⟨data, hpressed, hsays, hfeed⟩ :=
      (hsend (.erase { isCheckedData := true, isCheckedConfig := true }) 0).2.2
        (by simp [CommandDialog.number?])
        (by
          rintro e he
          obtain rfl := CommandDialog.erase.inj he
          rfl) "A"
    exact ⟨data, hpressed, hsays, hfeed 247 (by decide)⟩

end SopepApp.CommandDialogs
