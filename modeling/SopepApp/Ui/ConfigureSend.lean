import SopepApp.Ble.Commands
import SopepApp.Ble.Write
import SopepApp.Codec.Cbor
import SopepApp.Ui.ConfigureDialog
import SopepApp.Ui.Numbers

/-!
What the configure dialog sends: the button Send of
`sopep_configure_dialog.dart` after any responses and edits.

* `Dialog`: the form, and whether the fields on the screen are those of the form;
* `Event`, `step`: a response, a switch, a text that is typed, a rebuild; `send`:
  the button;
* `written`: what an event puts into a setting, as Send reads it;
* `Reports`: a response that reports a configuration;
* `settings_round_trip`: Send writes back the settings that the device has
  reported, those apart that have been written since, and it writes nothing if
  the last text of a number is none.
-/

namespace SopepApp.ConfigureDialog

open Dart Commands Numbers Transition
open ReadData.Dialogs (intParse)

variable (p : Platform) (doubleTryParse : String → Option UInt64)

/-! ### The form -/

/-- The two switches. -/
inductive Toggle where
  | ledToggle
  | useExhaleCountToggle
  deriving DecidableEq

/-- The six text fields. -/
inductive TextField where
  | ledIntensity
  | thresholdGood
  | thresholdHigh
  | targetTreatmentTime
  | targetExhalationCount
  | minBreathLength
  deriving DecidableEq

/-- A setting of the form. -/
inductive Setting where
  | toggle (toggle : Toggle)
  | text (field : TextField)
  deriving DecidableEq

/-- The key of a setting in a message. -/
def Setting.key : Setting → String
  | .toggle .ledToggle => "led-toggle"
  | .text .ledIntensity => "led-intensity"
  | .text .thresholdGood => "good-zone-threshold"
  | .text .thresholdHigh => "high-zone-threshold"
  | .text .targetTreatmentTime => "target-treatment-time"
  | .text .targetExhalationCount => "target-exhalation-count"
  | .text .minBreathLength => "minimum-breath-length"
  | .toggle .useExhaleCountToggle => "use-exhalation-count"

/-- The form, and the fields on the screen. A response replaces the controllers of
the form; the fields have the new ones once the dialog has been built again. -/
structure Dialog where
  form : Form := {}
  /-- the fields on the screen have the controllers of the form -/
  current : Bool := true
  deriving DecidableEq

/-- What happens to the dialog. -/
inductive Event where
  /-- a response arrives -/
  | response (dataMap : DataMap)
  /-- `onChanged` of a switch -/
  | toggled (toggle : Toggle) (value : Bool)
  /-- the user edits a text field -/
  | typed (field : TextField) (text : String)
  /-- the dialog is built again, with what it is part of -/
  | rebuilt

/-- The listener gets past its first cast, and replaces the controllers. -/
def replacesControllers (dataMap : DataMap) : Bool :=
  dataMap.get "rsp" = .string "configure" ∧ (dataMap.get "led-toggle").asBool.toOption.isSome

/-- The form after a switch. -/
def Form.toggled (form : Form) (value : Bool) : Toggle → Form
  | .ledToggle => { form with ledToggle := value }
  | .useExhaleCountToggle => { form with useExhaleCountToggle := value }

/-- The form after an edit of the text of a controller. -/
def Form.typed (form : Form) (text : String) : TextField → Form
  | .ledIntensity => { form with ledIntensity := text }
  | .thresholdGood => { form with thresholdGood := text }
  | .thresholdHigh => { form with thresholdHigh := text }
  | .targetTreatmentTime => { form with targetTreatmentTime := text }
  | .targetExhalationCount => { form with targetExhalationCount := text }
  | .minBreathLength => { form with minBreathLength := text }

/-- An event. The assignments of a listener that throws stay, but `setState` does
not build the dialog again: what is then typed goes to the old controllers. -/
def step (d : Dialog) : Event → Dialog
  | .response dataMap =>
    match (listener p (some dataMap)).run d.form with
    | .ok _ form => ⟨form, true⟩
    | .error _ form => ⟨form, d.current && !replacesControllers dataMap⟩
  | .toggled toggle value => ⟨d.form.toggled value toggle, true⟩
  | .typed field text => if d.current then { d with form := d.form.typed text field } else d
  | .rebuilt => { d with current := true }

/-- `onPressed` of the button Send. -/
def send (characteristic : Option String) (form : Form) : Except Error Write := do
  let ledIntensity ← intParse form.ledIntensity
  let thresholdGood ← doubleParse doubleTryParse form.thresholdGood
  let thresholdHigh ← doubleParse doubleTryParse form.thresholdHigh
  let targetTreatmentTime ← doubleParse doubleTryParse form.targetTreatmentTime
  let targetExhalationCount ← intParse form.targetExhalationCount
  let minBreathLength ← doubleParse doubleTryParse form.minBreathLength
  setConfigure ⟨form.ledToggle, ledIntensity, thresholdGood, thresholdHigh, targetTreatmentTime,
    targetExhalationCount, minBreathLength, form.useExhaleCountToggle⟩ characteristic

/-! ### The settings as Send reads them -/

/-- The value of a text. -/
def TextField.parse (text : String) : TextField → Except Error Value
  | .ledIntensity => (intParse text).map .int
  | .targetExhalationCount => (intParse text).map .int
  | _ => (doubleParse doubleTryParse text).map .double

/-- The value of a setting. -/
def Form.value (form : Form) : Setting → Except Error Value
  | .toggle .ledToggle => .ok (.bool form.ledToggle)
  | .toggle .useExhaleCountToggle => .ok (.bool form.useExhaleCountToggle)
  | .text .ledIntensity => TextField.parse doubleTryParse form.ledIntensity .ledIntensity
  | .text .thresholdGood => TextField.parse doubleTryParse form.thresholdGood .thresholdGood
  | .text .thresholdHigh => TextField.parse doubleTryParse form.thresholdHigh .thresholdHigh
  | .text .targetTreatmentTime =>
    TextField.parse doubleTryParse form.targetTreatmentTime .targetTreatmentTime
  | .text .targetExhalationCount =>
    TextField.parse doubleTryParse form.targetExhalationCount .targetExhalationCount
  | .text .minBreathLength => TextField.parse doubleTryParse form.minBreathLength .minBreathLength

/-- The value of a setting of a configuration. -/
def value (c : Configuration) : Setting → Value
  | .toggle .ledToggle => .bool c.ledToggle
  | .toggle .useExhaleCountToggle => .bool c.useExhaleCountToggle
  | .text .ledIntensity => .int c.ledIntensity
  | .text .thresholdGood => .double c.thresholdGood
  | .text .thresholdHigh => .double c.thresholdHigh
  | .text .targetTreatmentTime => .double c.targetTreatmentTime
  | .text .targetExhalationCount => .int c.targetExhalationCount
  | .text .minBreathLength => .double c.minBreathLength

/-- What a response `configure` puts into a setting. -/
def reported (dataMap : DataMap) (s : Setting) : Option (Except Error Value) := do
  let ledToggle ← (dataMap.get "led-toggle").asBool.toOption
  match s with
  | .toggle .ledToggle => return .ok (.bool ledToggle)
  | .text field =>
    return TextField.parse doubleTryParse ((dataMap.get (Setting.text field).key).toText p) field
  | .toggle .useExhaleCountToggle =>
    let useExhaleCountToggle ← (dataMap.get "use-exhalation-count").asBool.toOption
    return .ok (.bool useExhaleCountToggle)

/-- What an event puts into a setting. -/
def written (s : Setting) (d : Dialog) : Event → Option (Except Error Value)
  | .response dataMap =>
    if dataMap.get "rsp" = .string "configure" then reported p doubleTryParse dataMap s else none
  | .toggled toggle b => if s = .toggle toggle then some (.ok (.bool b)) else none
  | .typed field text =>
    if d.current = true ∧ s = .text field then some (TextField.parse doubleTryParse text field)
    else none
  | .rebuilt => none

variable {p doubleTryParse}

lemma form_response (d : Dialog) (dataMap : DataMap) :
    (step p d (.response dataMap)).form = (listener p (some dataMap)).finalState d.form := by
  rw [step, Effect.finalState]
  cases (listener p (some dataMap)).run d.form <;> rfl

/-- **What an event does** to a setting. -/
lemma value_step (d : Dialog) (e : Event) (s : Setting) :
    (step p d e).form.value doubleTryParse s =
      (written p doubleTryParse s d e).getD (d.form.value doubleTryParse s) := by
  cases e with
  | response dataMap =>
      rw [form_response, written]
      split_ifs with hrsp
      · rw [finalState_listener hrsp, reported]
        cases (dataMap.get "led-toggle").asBool with
        | error err => rfl
        | ok b =>
            cases (dataMap.get "use-exhalation-count").asBool with
            | error err => rcases s with ⟨⟨⟩⟩ | ⟨⟨⟩⟩ <;> rfl
            | ok b' => rcases s with ⟨⟨⟩⟩ | ⟨⟨⟩⟩ <;> rfl
      · rw [listener, nonNull_some, Effect.finalState_lift_ok_bind, if_neg hrsp]
        rfl
  | toggled toggle b => cases toggle <;> rcases s with ⟨⟨⟩⟩ | ⟨⟨⟩⟩ <;> rfl
  | typed field text =>
      cases hcurrent : d.current with
      | true =>
          rw [step, written, if_pos hcurrent, hcurrent]
          cases field <;> rcases s with ⟨⟨⟩⟩ | ⟨⟨⟩⟩ <;> rfl
      | false =>
          rw [step, written, hcurrent, if_neg Bool.false_ne_true,
            if_neg fun h => Bool.false_ne_true h.1]
          rfl
  | rebuilt => rfl

lemma ok_of_map {α : Type*} {f : α → Value} (hf : Function.Injective f) {x : Except Error α}
    {a : α} (h : x.map f = .ok (f a)) : x = .ok a := by
  cases x with
  | error e => cases h
  | ok b => exact congrArg Except.ok (hf (Except.ok.inj h))

/-- **Send** with a number in every text field. -/
lemma send_of_value {form : Form} {c : Configuration}
    (h : ∀ s, form.value doubleTryParse s = .ok (value c s)) (characteristic : Option String) :
    send doubleTryParse characteristic form = setConfigure c characteristic := by
  have hints : ∀ {x : Except Error ℤ} {n : ℤ}, x.map Value.int = .ok (.int n) → x = .ok n :=
    ok_of_map fun _ _ => Value.int.inj
  have hdoubles : ∀ {x : Except Error UInt64} {n : UInt64},
      x.map Value.double = .ok (.double n) → x = .ok n :=
    ok_of_map fun _ _ => Value.double.inj
  have hled : form.ledToggle = c.ledToggle := by
    simpa [Form.value, value] using h (.toggle .ledToggle)
  have huse : form.useExhaleCountToggle = c.useExhaleCountToggle := by
    simpa [Form.value, value] using h (.toggle .useExhaleCountToggle)
  rw [send, hints (h (.text .ledIntensity)), hdoubles (h (.text .thresholdGood)),
    hdoubles (h (.text .thresholdHigh)), hdoubles (h (.text .targetTreatmentTime)),
    hints (h (.text .targetExhalationCount)), hdoubles (h (.text .minBreathLength)), hled, huse]
  rfl

/-- **Send** with a text that is no number. -/
lemma send_error {form : Form}
    (h : ¬ ∃ c, ∀ s, form.value doubleTryParse s = .ok (value c s))
    (characteristic : Option String) :
    send doubleTryParse characteristic form = .error .formatException := by
  rcases intParse_cases form.ledIntensity with h1 | ⟨n1, h1⟩
  · rw [send, h1]
    rfl
  rcases doubleParse_cases doubleTryParse form.thresholdGood with h2 | ⟨n2, h2⟩
  · rw [send, h1, h2]
    rfl
  rcases doubleParse_cases doubleTryParse form.thresholdHigh with h3 | ⟨n3, h3⟩
  · rw [send, h1, h2, h3]
    rfl
  rcases doubleParse_cases doubleTryParse form.targetTreatmentTime with h4 | ⟨n4, h4⟩
  · rw [send, h1, h2, h3, h4]
    rfl
  rcases intParse_cases form.targetExhalationCount with h5 | ⟨n5, h5⟩
  · rw [send, h1, h2, h3, h4, h5]
    rfl
  rcases doubleParse_cases doubleTryParse form.minBreathLength with h6 | ⟨n6, h6⟩
  · rw [send, h1, h2, h3, h4, h5, h6]
    rfl
  refine absurd ⟨⟨form.ledToggle, n1, n2, n3, n4, n5, n6, form.useExhaleCountToggle⟩, fun s => ?_⟩ h
  rcases s with ⟨⟨⟩⟩ | ⟨⟨⟩⟩ <;> simp [Form.value, TextField.parse, value, Except.map, *]

/-! ### The round trip -/

/-- The command that Send writes: the settings under their keys. -/
lemma setConfigure_eq (c : Configuration) (target : String) : ∃ data,
    setConfigure c (some target) = .ok (some (target, data)) ∧
      data.get "cmd" = .string "configure" ∧ (∀ s : Setting, data.get s.key = value c s) ∧
      ((∀ s, (value c s).Plain) → data.Plain) := by
  refine ⟨_, rfl, rfl, fun s => ?_, fun h => ⟨by simp [cborCmd], ?_⟩⟩
  · rcases s with ⟨⟨⟩⟩ | ⟨⟨⟩⟩ <;> rfl
  · have hkey : ∀ key ∈ ["cmd", "led-toggle", "led-intensity", "good-zone-threshold",
        "high-zone-threshold", "target-treatment-time", "target-exhalation-count",
        "minimum-breath-length", "use-exhalation-count", "configure"],
        (Value.string key).Plain := by decide
    simp only [cborCmd, List.map_cons, List.map_nil, List.forall_mem_cons]
    refine ⟨⟨hkey _ (by simp), hkey _ (by simp)⟩, ⟨hkey _ (by simp), h (.toggle .ledToggle)⟩,
      ⟨hkey _ (by simp), h (.text .ledIntensity)⟩, ⟨hkey _ (by simp), h (.text .thresholdGood)⟩,
      ⟨hkey _ (by simp), h (.text .thresholdHigh)⟩,
      ⟨hkey _ (by simp), h (.text .targetTreatmentTime)⟩,
      ⟨hkey _ (by simp), h (.text .targetExhalationCount)⟩,
      ⟨hkey _ (by simp), h (.text .minBreathLength)⟩,
      ⟨hkey _ (by simp), h (.toggle .useExhaleCountToggle)⟩, by simp⟩

/-- A response that reports a configuration; its doubles are read back from their
texts, as those are that are a number. -/
structure Reports (p : Platform) (doubleTryParse : String → Option UInt64) (dataMap : DataMap)
    (c : Configuration) : Prop where
  rsp : dataMap.get "rsp" = .string "configure"
  values : ∀ s : Setting, dataMap.get s.key = value c s
  plain : ∀ s, (value c s).Plain
  doubles : ∀ s bits, value c s = .double bits → doubleTryParse (p.doubleText bits) = some bits

/-- **What is reported** is read from the texts. -/
lemma Reports.reported {dataMap : DataMap} {c : Configuration}
    (h : Reports p doubleTryParse dataMap c) (s : Setting) :
    reported p doubleTryParse dataMap s = some (.ok (value c s)) := by
  have hled : dataMap.get "led-toggle" = .bool c.ledToggle := h.values (.toggle .ledToggle)
  have huse : dataMap.get "use-exhalation-count" = .bool c.useExhaleCountToggle :=
    h.values (.toggle .useExhaleCountToggle)
  have hint : ∀ field n, value c (.text field) = .int n →
      (intParse ((dataMap.get (Setting.text field).key).toText p)).map .int =
        .ok (value c (.text field)) := by
    intro field n hn
    have hplain := h.plain (.text field)
    rw [hn] at hplain
    rw [h.values, hn, Value.toText, intParse_toString hplain]
    rfl
  have hdouble : ∀ field bits, value c (.text field) = .double bits →
      (doubleParse doubleTryParse ((dataMap.get (Setting.text field).key).toText p)).map .double =
        .ok (value c (.text field)) := by
    intro field bits hbits
    rw [h.values, hbits, Value.toText, doubleParse, h.doubles _ bits hbits]
    rfl
  rw [ConfigureDialog.reported, hled]
  cases s with
  | toggle toggle =>
      cases toggle with
      | ledToggle => rfl
      | useExhaleCountToggle =>
          rw [huse]
          rfl
  | text field =>
      refine congrArg some ?_
      cases field with
      | ledIntensity => exact hint _ _ rfl
      | thresholdGood => exact hdouble _ _ rfl
      | thresholdHigh => exact hdouble _ _ rfl
      | targetTreatmentTime => exact hdouble _ _ rfl
      | targetExhalationCount => exact hint _ _ rfl
      | minBreathLength => exact hdouble _ _ rfl

/-- The value that a setting was given last, by the report `c` or after it, when the
dialog was `d`. -/
def lastValue (p : Platform) (doubleTryParse : String → Option UInt64) (c : Configuration)
    (d : Dialog) (es : List Event) (s : Setting) : Except Error Value :=
  (outputs (step p) (fun t e => (written p doubleTryParse s t e).toList) d es).getLast?.getD
    (.ok (value c s))

/-- **The settings make the round trip**: after a response that reports a
configuration, and whatever comes next (edits, switches, other responses, in any
order), Send writes the command `configure` with each setting as it was given
last, by the report if nothing has touched it since, and its packets are decoded
as that command; if the last text of some number is none, it throws and writes
nothing. -/
theorem settings_round_trip {pkg : Packages} {float : UInt64 → List UInt8}
    (hhex : StandardHex pkg) (hcobs : CobsInverse pkg) (hcbor : StandardCbor pkg float)
    {dataMap : DataMap} {c : Configuration} (h : Reports p doubleTryParse dataMap c) (d : Dialog)
    (es : List Event) :
    (∀ c', (∀ s, lastValue p doubleTryParse c (step p d (.response dataMap)) es s =
        .ok (value c' s)) → ∀ target, ∃ data,
      send doubleTryParse (some target) (run (step p) d (.response dataMap :: es)).form =
        .ok (some (target, data)) ∧
      data.get "cmd" = .string "configure" ∧ (∀ s : Setting, data.get s.key = value c' s) ∧
      ((∀ s, (value c' s).Plain) → ∀ mtu, bleAttHeaderBytes < mtu →
        delivered (feed pkg [] (packetsOf pkg mtu data)).1 = [data])) ∧
    ((¬ ∃ c', ∀ s, lastValue p doubleTryParse c (step p d (.response dataMap)) es s =
        .ok (value c' s)) → ∀ characteristic,
      send doubleTryParse characteristic (run (step p) d (.response dataMap :: es)).form =
        .error .formatException) := by
  have hvalue : ∀ s, (run (step p) d (.response dataMap :: es)).form.value doubleTryParse s =
      lastValue p doubleTryParse c (step p d (.response dataMap)) es s := by
    intro s
    let read : Dialog → Except Error Value := fun d => d.form.value doubleTryParse s
    have hstep : ∀ t e, read (step p t e) = (written p doubleTryParse s t e).getD (read t) :=
      fun t e => value_step t e s
    have hrun := get_run hstep (step p d (.response dataMap)) es
    rw [hstep, written, if_pos h.rsp, h.reported] at hrun
    exact hrun
  constructor
  · intro c' hc' target
    obtain ⟨data, hsent, hcmd, hget, hplain⟩ := setConfigure_eq c' target
    refine ⟨data, ?_, hcmd, hget, fun h mtu hmtu => ?_⟩
    · rw [send_of_value (fun s => (hvalue s).trans (hc' s)), hsent]
    · exact (feed_packetsOf hhex hcobs (hcbor.inverse data (hplain h)) hmtu).2.1
  · intro hnone characteristic
    refine send_error (fun hall => hnone ?_) characteristic
    obtain ⟨c', hc'⟩ := hall
    exact ⟨c', fun s => (hvalue s).symm.trans (hc' s)⟩

/-- A platform with the doubles of the sample. -/
def samplePlatform : Platform where
  doubleText bits :=
    if bits = 0x4021000000000000 then "8.5"
    else if bits = 0x402F000000000000 then "15.5"
    else if bits = 0x4069000000000000 then "200.0"
    else "1.5"
  formatDate _ _ := ""

/-- Its parser. -/
def sampleTryParse (source : String) : Option UInt64 :=
  if source = "8.5" then some 0x4021000000000000
  else if source = "15.5" then some 0x402F000000000000
  else if source = "200.0" then some 0x4069000000000000
  else if source = "1.5" then some 0x3FF8000000000000
  else none

/-- The configuration of the sample. -/
def sampleConfiguration : Configuration :=
  ⟨true, 80, 0x4021000000000000, 0x402F000000000000, 0x4069000000000000, 5, 0x3FF8000000000000,
    false⟩

/-- The response that reports it. -/
def sampleResponse : DataMap :=
  ⟨[(.string "rsp", .string "configure"), (.string "led-toggle", .bool true),
    (.string "led-intensity", .int 80), (.string "good-zone-threshold", .double 0x4021000000000000),
    (.string "high-zone-threshold", .double 0x402F000000000000),
    (.string "target-treatment-time", .double 0x4069000000000000),
    (.string "target-exhalation-count", .int 5),
    (.string "minimum-breath-length", .double 0x3FF8000000000000),
    (.string "use-exhalation-count", .bool false)], by decide⟩

lemma sampleResponse_reports :
    Reports samplePlatform sampleTryParse sampleResponse sampleConfiguration where
  rsp := by decide
  values s := by rcases s with ⟨⟨⟩⟩ | ⟨⟨⟩⟩ <;> decide
  plain s := by rcases s with ⟨⟨⟩⟩ | ⟨⟨⟩⟩ <;> decide
  doubles s bits h := by
    cases s with
    | toggle toggle => cases toggle <;> exact absurd h Value.noConfusion
    | text field =>
        cases field with
        | ledIntensity => exact absurd h Value.noConfusion
        | targetExhalationCount => exact absurd h Value.noConfusion
        | thresholdGood | thresholdHigh | targetTreatmentTime | minBreathLength =>
            obtain rfl := Value.double.inj h
            decide +kernel

/-- The intensity is retyped, first with a slip, and the exhalation count is
cleared. -/
theorem settings_round_trip_sample :
    (∃ data, send sampleTryParse (some "A") (run (step samplePlatform) {}
        [.response sampleResponse, .typed .ledIntensity "", .typed .ledIntensity "60"]).form =
        .ok (some ("A", data)) ∧
      (∀ s : Setting, data.get s.key = value { sampleConfiguration with ledIntensity := 60 } s) ∧
      delivered (feed cborPackages [] (packetsOf cborPackages 247 data)).1 = [data]) ∧
    send sampleTryParse (some "A") (run (step samplePlatform) {}
      [.response sampleResponse, .typed .targetExhalationCount ""]).form =
        .error .formatException := by
  have hround := settings_round_trip (standardHex_reference _ _)
    (standardCobs_reference _ _).inverse standardCbor_reference sampleResponse_reports {}
  constructor
  · have hlast : ∀ s, lastValue samplePlatform sampleTryParse sampleConfiguration
        (step samplePlatform {} (.response sampleResponse))
        [.typed .ledIntensity "", .typed .ledIntensity "60"] s =
        .ok (value { sampleConfiguration with ledIntensity := 60 } s) := by
      intro s
      rcases s with ⟨⟨⟩⟩ | ⟨⟨⟩⟩ <;> decide +kernel
    obtain ⟨data, hsent, -, hget, hfeed⟩ := (hround _).1 _ hlast "A"
    refine ⟨data, hsent, hget, hfeed (fun s => ?_) 247 (by decide)⟩
    rcases s with ⟨⟨⟩⟩ | ⟨⟨⟩⟩ <;> decide
  · refine (hround _).2 ?_ (some "A")
    rintro ⟨c, hc⟩
    have hnone := hc (.text .targetExhalationCount)
    have hlast : lastValue samplePlatform sampleTryParse sampleConfiguration
        (step samplePlatform {} (.response sampleResponse))
        [.typed .targetExhalationCount ""] (.text .targetExhalationCount) =
        .error .formatException := by decide +kernel
    rw [hlast] at hnone
    exact absurd hnone (by simp)

/-- A response without its last setting replaces the controllers under the fields:
what is typed before the next switch is lost. -/
example : (run (step plainText) {} [.response shortResponse, .typed .ledIntensity "60",
    .toggled .ledToggle true, .typed .minBreathLength "3"]).form =
      { ledToggle := true, ledIntensity := "80", thresholdGood := "9", thresholdHigh := "16",
        targetTreatmentTime := "300", targetExhalationCount := "7", minBreathLength := "3" } := by
  decide +kernel

end SopepApp.ConfigureDialog
