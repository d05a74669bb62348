import SopepApp.Codec.Message

/-!
The command methods of `BleSopepInteractor` in `ble_sopep_interactor.dart`.

* `CborCmd`: a command map, `cmd` and the arguments after it;
* `writeCborCmd`: the last statement of every method, which asserts that there
  is a characteristic;
* the methods under their names, and `Command`, a call of one of them;
* `call_ok`: with a characteristic no method fails.
-/

namespace SopepApp.Commands

open Dart

/-- The map `{'cmd': name}` with further entries. -/
def cborCmd (name : String) (args : List (String × Value))
    (h : ("cmd" :: args.map Prod.fst).Nodup) : DataMap where
  entries := (.string "cmd", .string name) :: args.map fun a => (.string a.1, a.2)
  nodup := by
    have hkeys : stringKeys (args.map fun a => (.string a.1, a.2)) = args.map Prod.fst := by
      rw [stringKeys, List.filterMap_map, ← List.filterMap_eq_map]
      rfl
    change ("cmd" :: stringKeys (args.map fun a => (.string a.1, a.2))).Nodup
    rw [hkeys]
    exact h

/-- What a method hands to `_writeCborWithoutResponse`, if it gets there: the
device of the characteristic and the command map. -/
abbrev Write := Option (String × DataMap)

/-- `_writeCborWithoutResponse(_characteristic!, data: cborCmd, …)`. -/
def writeCborCmd (data : DataMap) (characteristic : Option String) : Except Error Write := do
  let target ← nonNull characteristic
  return some (target, data)

/-! ### The methods -/

def getDeviceInfo := writeCborCmd (cborCmd "device-info" [] (by simp))

def getConfigRanges := writeCborCmd (cborCmd "config-get-ranges" [] (by simp))

def getOldestPriorityData := writeCborCmd (cborCmd "read-prio-data" [] (by simp))

def getPriorityData (seq : ℤ) :=
  writeCborCmd (cborCmd "read-prio-data" [("seq", .int seq)] (by simp))

def getData : Option ℤ → Option String → Except Error Write
  | some seq => writeCborCmd (cborCmd "read-data" [("seq", .int seq)] (by simp))
  | none => writeCborCmd (cborCmd "read-data" [] (by simp))

def getConfigure := writeCborCmd (cborCmd "configure" [] (by simp))

/-- The arguments of `setConfigure`; doubles by their bits. -/
structure Configuration where
  ledToggle : Bool
  ledIntensity : ℤ
  thresholdGood : UInt64
  thresholdHigh : UInt64
  targetTreatmentTime : UInt64
  targetExhalationCount : ℤ
  minBreathLength : UInt64
  useExhaleCountToggle : Bool
  deriving DecidableEq

def setConfigure (c : Configuration) := writeCborCmd (cborCmd "configure"
  [("led-toggle", .bool c.ledToggle), ("led-intensity", .int c.ledIntensity),
    ("good-zone-threshold", .double c.thresholdGood),
    ("high-zone-threshold", .double c.thresholdHigh),
    ("target-treatment-time", .double c.targetTreatmentTime),
    ("target-exhalation-count", .int c.targetExhalationCount),
    ("minimum-breath-length", .double c.minBreathLength),
    ("use-exhalation-count", .bool c.useExhaleCountToggle)] (by simp))

/-- `setTime`; `now` is the time of the clock in seconds. -/
def setTime (now : ℤ) (epochTimeSeconds : Option ℤ) :=
  writeCborCmd (cborCmd "set-time" [("timestamp", .int (epochTimeSeconds.getD now))] (by simp))

def setTravelMode := writeCborCmd (cborCmd "travel-mode" [] (by simp))

/-- The arguments of `eraseFlash`. -/
structure Selection where
  data : Bool
  formatData : Option Bool
  prioData : Bool
  formatPrioData : Option Bool
  diagData : Bool
  formatDiagData : Option Bool
  config : Bool
  pairing : Bool
  deriving DecidableEq

/-- The value of an entry of the command `erase` with a format. -/
def eraseValue (selected : Bool) (format : Option Bool) : Except Error (Option Value) := do
  if selected then
    return some (.string (if ← nonNull format then "format" else "delete"))
  else
    return none

/-- The entries that have been assigned. -/
def assigned (entries : List (String × Option Value)) : List (String × Value) :=
  entries.filterMap fun e => e.2.map fun v => (e.1, v)

lemma nodup_assigned {entries : List (String × Option Value)}
    (h : ("cmd" :: entries.map Prod.fst).Nodup) :
    ("cmd" :: (assigned entries).map Prod.fst).Nodup := by
  have hsub : ((assigned entries).map Prod.fst).Sublist (entries.map Prod.fst) := by
    induction entries with
    | nil => exact List.Sublist.refl _
    | cons e entries ih =>
        have hrest := ih (h.sublist ((List.sublist_cons_self _ _).cons_cons "cmd"))
        cases he : e.2 with
        | none =>
            rw [assigned, List.filterMap_cons_none (by rw [he]; rfl)]
            exact hrest.cons _
        | some v =>
            rw [assigned, List.filterMap_cons_some (by rw [he]; rfl)]
            exact hrest.cons_cons _
  exact h.sublist (hsub.cons_cons "cmd")

/-- `eraseFlash`: nothing is written if nothing is selected. -/
def eraseFlash (s : Selection) (characteristic : Option String) : Except Error Write := do
  let data ← eraseValue s.data s.formatData
  let prioData ← eraseValue s.prioData s.formatPrioData
  let diagData ← eraseValue s.diagData s.formatDiagData
  let entries := [("data", data), ("prio-data", prioData), ("diag-data", diagData),
    ("configuration", if s.config then some (.bool true) else none),
    ("pairing", if s.pairing then some (.bool true) else none)]
  if assigned entries ≠ [] then
    writeCborCmd (cborCmd "erase" (assigned entries) (nodup_assigned (by simp [entries])))
      characteristic
  else
    return none

/-- One round of the loop that fills the data of `sendEchoTest`. -/
def fillEcho (s : List UInt8 × ℕ) : List UInt8 × ℕ :=
  let counter := s.2 + 1
  (s.1 ++ [UInt8.ofNat s.2], if counter ≥ 255 then 0 else counter)

def sendEchoTest (bytes : ℤ) := writeCborCmd
  (cborCmd "echo-test" [("data", .bytes (fillEcho^[bytes.toNat] ([], 0)).1)] (by simp))

def startFwUpload := writeCborCmd (cborCmd "fw-start" [] (by simp))

def sendFwData (data : List UInt8) :=
  writeCborCmd (cborCmd "fw-block" [("data", .bytes data)] (by simp))

def scheduleFwUpdate (time : ℤ) :=
  writeCborCmd (cborCmd "fw-schedule" [("timestamp", .int time)] (by simp))

/-! ### Calls -/

/-- A call of a command method. -/
inductive Command where
  | getDeviceInfo
  | getConfigRanges
  | getOldestPriorityData
  | getPriorityData (seq : ℤ)
  | getData (seq : Option ℤ)
  | getConfigure
  | setConfigure (configuration : Configuration)
  | setTime (epochTimeSeconds : Option ℤ)
  | setTravelMode
  | eraseFlash (selection : Selection)
  | sendEchoTest (bytes : ℤ)
  | startFwUpload
  | sendFwData (data : List UInt8)
  | scheduleFwUpdate (time : ℤ)
  deriving DecidableEq

/-- The call at the time `now` with the characteristic of the interactor. -/
def Command.call (now : ℤ) : Command → Option String → Except Error Write
  | .getDeviceInfo => Commands.getDeviceInfo
  | .getConfigRanges => Commands.getConfigRanges
  | .getOldestPriorityData => Commands.getOldestPriorityData
  | .getPriorityData seq => Commands.getPriorityData seq
  | .getData seq => Commands.getData seq
  | .getConfigure => Commands.getConfigure
  | .setConfigure configuration => Commands.setConfigure configuration
  | .setTime epochTimeSeconds => Commands.setTime now epochTimeSeconds
  | .setTravelMode => Commands.setTravelMode
  | .eraseFlash selection => Commands.eraseFlash selection
  | .sendEchoTest bytes => Commands.sendEchoTest bytes
  | .startFwUpload => Commands.startFwUpload
  | .sendFwData data => Commands.sendFwData data
  | .scheduleFwUpdate time => Commands.scheduleFwUpdate time

/-! ### The null assertion -/

/-- The assertion holds exactly with a target. -/
lemma writeCborCmd_ok_iff (data : DataMap) (characteristic : Option String) :
    (∃ w, writeCborCmd data characteristic = .ok w) ↔ characteristic.isSome := by
  cases characteristic with
  | none => simp [writeCborCmd, bind, Except.bind]
  | some target => simp [writeCborCmd, bind, Except.bind, pure, Except.pure]

lemma eraseValue_ok {selected : Bool} {format : Option Bool}
    (h : selected = true → format.isSome = true) : ∃ v, eraseValue selected format = .ok v := by
  cases selected with
  | false => exact ⟨none, rfl⟩
  | true =>
      obtain ⟨b, rfl⟩ := Option.isSome_iff_exists.mp (h rfl)
      exact ⟨_, rfl⟩

/-- Every selected area comes with a format, as the dialog gives them. -/
structure Selection.Formats (s : Selection) : Prop where
  data : s.data = true → s.formatData.isSome = true
  prioData : s.prioData = true → s.formatPrioData.isSome = true
  diagData : s.diagData = true → s.formatDiagData.isSome = true

lemma eraseFlash_ok {s : Selection} (h : s.Formats) (target : String) :
    ∃ w, eraseFlash s (some target) = .ok w := by
  obtain ⟨v1, h1⟩ := eraseValue_ok h.data
  obtain ⟨v2, h2⟩ := eraseValue_ok h.prioData
  obtain ⟨v3, h3⟩ := eraseValue_ok h.diagData
  simp only [eraseFlash, h1, h2, h3, bind, Except.bind]
  split_ifs <;> exact ⟨_, rfl⟩

/-- The formats of a call of `eraseFlash`; no other method takes any. -/
def Command.Formats : Command → Prop
  | .eraseFlash selection => selection.Formats
  | _ => True

/-- **With a target no assertion fails**: every method returns. -/
theorem call_ok (now : ℤ) {c : Command} (hc : c.Formats) {characteristic : Option String}
    (h : characteristic.isSome) : ∃ w, c.call now characteristic = .ok w := by
  obtain ⟨target, rfl⟩ := Option.isSome_iff_exists.mp h
  cases c with
  | eraseFlash selection => exact eraseFlash_ok hc target
  | getData seq =>
      cases seq with
      | none => exact (writeCborCmd_ok_iff _ _).mpr rfl
      | some n => exact (writeCborCmd_ok_iff _ _).mpr rfl
  | _ => exact (writeCborCmd_ok_iff _ _).mpr rfl

end SopepApp.Commands
