import SopepApp.Ble.Commands
import SopepApp.Ble.Connect
import SopepApp.Transition.Past

/-!
The traffic tab, `_BleTrafficTabState` of `ble_traffic_tab.dart`, with the flag
`_enableLogging` and the characteristic of its `BleSopepInteractor`.

* `Tab`: the fields, the monitor timers that are live and the commands written;
* `pressed`, `monitorTick`, `onResponse`, `dispose`: the handlers, and `step`, one
  of them;
* `Reaction`, `step_reaction`: what an event can do.
-/

namespace SopepApp.TrafficTab

open Dart Transition Connect

/-! ### The handlers -/

/-- The fields of the tab and of its interactor. The speeds, quotients of the
counters as doubles, are only shown. -/
structure Tab where
  totalTxPacketSize : ℤ
  deviceConnectionStatus : DeviceConnectionState
  /-- `_sopepStreamSubscription` and `_sopepInteractor` have been assigned -/
  subscribed : Bool
  mounted : Bool := true
  startTestFlag : Bool := false
  packetCounter : ℤ := 0
  timeCounterSeconds : ℤ := 0
  totalTxBytes : ℤ := 0
  totalRxBytes : ℤ := 0
  testMonitorTimer : Option ℕ := none
  /-- how many monitor timers have been created, and those not cancelled -/
  timersCreated : ℕ := 0
  timers : List ℕ := []
  /-- `_characteristic` of the interactor, by its device -/
  characteristic : Option String
  enableLogging : Bool := true
  /-- what has been handed to `_writeCborWithoutResponse` -/
  writes : List (String × DataMap) := []
  deriving DecidableEq

/-- `initState`. -/
def initState (geMtuBytes : ℤ) (status : DeviceConnectionState) (characteristic : Option String) :
    Tab where
  totalTxPacketSize := geMtuBytes
  deviceConnectionStatus := status
  subscribed := status = .connected
  characteristic := characteristic

/-- `_sopepInteractor!.sendEchoTest(215)`. -/
def sendEchoTest : Effect Tab Unit := do
  let write ← Effect.lift (Commands.sendEchoTest 215 (← get).characteristic)
  modify fun s => { s with writes := s.writes ++ write.toList }

/-- `_totalTxBytes += totalTxPacketSize`. -/
def countTx : Effect Tab Unit :=
  modify fun s => { s with totalTxBytes := s.totalTxBytes + s.totalTxPacketSize }

/-- `_startTest`. -/
def startTest : Effect Tab Unit := do
  modify fun s => { s with
    startTestFlag := true
    packetCounter := 0
    timeCounterSeconds := 0
    totalTxBytes := 0
    totalRxBytes := 0 }
  modify fun s => { s with enableLogging := false }
  sendEchoTest
  countTx
  modify fun s => { s with
    testMonitorTimer := some s.timersCreated
    timersCreated := s.timersCreated + 1
    timers := s.timers ++ [s.timersCreated] }

/-- The button Start/Stop. -/
def pressed : Effect Tab Unit := do
  if ¬ (← get).startTestFlag then
    startTest
  else
    modify fun s => { s with startTestFlag := false }
    modify fun s => { s with enableLogging := true }

/-- The callback of the monitor timer `n`. -/
def monitorTick (n : ℕ) : Effect Tab Unit := do
  if (← get).startTestFlag then
    sendEchoTest
    countTx
    modify fun s => { s with timeCounterSeconds := s.timeCounterSeconds + 1 }
  else
    modify fun s => { s with timers := s.timers.filter (· ≠ n) }
  if (← get).deviceConnectionStatus = .disconnected then
    modify fun s => { s with startTestFlag := false }

/-- The listener of `_subscribeCharacteristic`, on a response with
`dataMapBytes` bytes. -/
def onResponse (dataMapBytes : ℕ) : Effect Tab Unit := do
  if (← get).startTestFlag then
    modify fun s => { s with packetCounter := s.packetCounter + 1 }
    modify fun s => { s with totalRxBytes := s.totalRxBytes + dataMapBytes }
    sendEchoTest
    countTx

/-- `dispose`. -/
def dispose : Effect Tab Unit := do
  if ¬ (← get).subscribed then
    throw .nullCheck
  modify fun s => { s with timers := s.timers.filter fun n => some n ≠ s.testMonitorTimer }
  modify fun s => { s with enableLogging := true }

/-- What happens to the tab. -/
inductive Event where
  /-- the button is pressed -/
  | press
  /-- a monitor timer fires -/
  | tick (n : ℕ)
  /-- a response is added to the stream -/
  | message (dataMap : DataMap) (dataMapBytes : ℕ)
  /-- the connection state of the widget changes -/
  | connection (status : DeviceConnectionState)
  /-- the interactor enables or disables the notification -/
  | characteristic (target : Option String)
  | dispose

/-- The button is shown and enabled. -/
def Tab.enabled (s : Tab) : Prop :=
  s.mounted = true ∧ s.subscribed = true ∧ s.deviceConnectionStatus ≠ .disconnected ∧
    s.deviceConnectionStatus ≠ .connecting

instance (s : Tab) : Decidable s.enabled := by
  unfold Tab.enabled
  infer_instance

/-- The listener is live. -/
def Tab.listens (s : Tab) : Prop := s.mounted = true ∧ s.subscribed = true

instance (s : Tab) : Decidable s.listens := by
  unfold Tab.listens
  infer_instance

/-- One event. -/
def step (s : Tab) : Event → Tab
  | .press => if s.enabled then pressed.finalState s else s
  | .tick n => if n ∈ s.timers then (monitorTick n).finalState s else s
  | .message _ dataMapBytes => if s.listens then (onResponse dataMapBytes).finalState s else s
  | .connection status => if s.mounted then { s with deviceConnectionStatus := status } else s
  | .characteristic target => { s with characteristic := target }
  | .dispose => if s.mounted then { dispose.finalState s with mounted := false } else s

/-! ### What an event can do -/

lemma nodup_echoKeys (bytes : ℤ) :
    ("cmd" :: [("data", Value.bytes (Commands.fillEcho^[bytes.toNat] ([], 0)).1)].map
      Prod.fst).Nodup := by
  simp

/-- The command of an echo test with `bytes` bytes of data. -/
def echoCommand (bytes : ℤ) : DataMap :=
  Commands.cborCmd "echo-test" [("data", .bytes (Commands.fillEcho^[bytes.toNat] ([], 0)).1)]
    (nodup_echoKeys bytes)

lemma sendEchoTest_some (bytes : ℤ) (target : String) :
    Commands.sendEchoTest bytes (some target) = .ok (some (target, echoCommand bytes)) := rfl

lemma sendEchoTest_none (bytes : ℤ) : Commands.sendEchoTest bytes none = .error .nullCheck := rfl

/-- An echo has been sent to `target`. -/
def Tab.sent (s : Tab) (target : String) : Tab := { s with
  writes := s.writes ++ [(target, echoCommand 215)] }

/-- An echo has been sent to `target`, and its bytes counted. -/
def Tab.echo (s : Tab) (target : String) : Tab := { s.sent target with
  totalTxBytes := s.totalTxBytes + s.totalTxPacketSize }

/-- A test has been started up to its first echo. -/
def Tab.begin (s : Tab) : Tab := { s with
  startTestFlag := true
  packetCounter := 0
  timeCounterSeconds := 0
  totalTxBytes := 0
  totalRxBytes := 0
  enableLogging := false }

/-- A monitor timer has been created. -/
def Tab.monitored (s : Tab) : Tab := { s with
  testMonitorTimer := some s.timersCreated
  timersCreated := s.timersCreated + 1
  timers := s.timers ++ [s.timersCreated] }

/-- A response has been counted. -/
def Tab.counted (s : Tab) (dataMapBytes : ℕ) : Tab := { s with
  packetCounter := s.packetCounter + 1
  totalRxBytes := s.totalRxBytes + dataMapBytes }

variable {s : Tab}

lemma run_sendEchoTest_of_some {target : String} (h : s.characteristic = some target) :
    sendEchoTest.run s = .ok () (s.sent target) := by
  have hwrite : Commands.sendEchoTest 215 s.characteristic =
      .ok (some (target, echoCommand 215)) := by rw [h, sendEchoTest_some]
  rw [sendEchoTest, EStateM.run_bind, EStateM.run_get]
  dsimp only
  rw [hwrite]
  rfl

lemma run_sendEchoTest_of_none (h : s.characteristic = none) :
    sendEchoTest.run s = .error .nullCheck s := by
  have hwrite : Commands.sendEchoTest 215 s.characteristic = .error .nullCheck := by
    rw [h, sendEchoTest_none]
  rw [sendEchoTest, EStateM.run_bind, EStateM.run_get]
  dsimp only
  rw [hwrite]
  rfl

/-- The echo is sent, or the handler ends there. -/
lemma finalState_sendEchoTest_bind (x : Effect Tab Unit) (s : Tab) :
    (sendEchoTest >>= fun _ => x).finalState s =
      match s.characteristic with
      | some target => x.finalState (s.sent target)
      | none => s := by
  cases h : s.characteristic with
  | none => exact Effect.finalState_bind_of_error (run_sendEchoTest_of_none h)
  | some target => exact Effect.finalState_bind_of_ok (run_sendEchoTest_of_some h)

/-- **`_startTest`**: without a characteristic the test is on, and no timer has been
created. -/
lemma finalState_startTest (s : Tab) : startTest.finalState s =
    match s.characteristic with
    | some target => (s.begin.echo target).monitored
    | none => s.begin := by
  rw [startTest, Effect.finalState_modify_bind, Effect.finalState_modify_bind,
    finalState_sendEchoTest_bind]
  rfl

/-- The test ends if the device is disconnected. -/
def Tab.checked (s : Tab) : Tab := { s with
  startTestFlag := s.startTestFlag && decide (s.deviceConnectionStatus ≠ .disconnected) }

lemma checked_eq (s : Tab) : s.checked =
    if s.deviceConnectionStatus = .disconnected then { s with startTestFlag := false } else s := by
  rw [Tab.checked]
  split_ifs with h
  · rw [decide_eq_false (not_not.mpr h), Bool.and_false]
  · rw [decide_eq_true h, Bool.and_true]

/-- An echo has been sent by a tick, and a second counted. -/
def Tab.ticked (s : Tab) (target : String) : Tab :=
  { s.echo target with timeCounterSeconds := s.timeCounterSeconds + 1 }

/-- A tick during a test; without a characteristic it does nothing. -/
lemma finalState_monitorTick_of_flag (h : s.startTestFlag = true) (n : ℕ) :
    (monitorTick n).finalState s =
      match s.characteristic with
      | some target => (s.ticked target).checked
      | none => s := by
  rw [monitorTick, Effect.finalState_get_bind, if_pos h]
  refine (finalState_sendEchoTest_bind _ s).trans ?_
  cases s.characteristic with
  | none => rfl
  | some target =>
      dsimp only
      rw [countTx, Effect.finalState_modify_bind, Effect.finalState_modify_bind,
        Effect.finalState_get_bind, checked_eq]
      exact apply_ite (fun x : Effect Tab Unit => x.finalState (s.ticked target)) _ _ _

/-- A tick without a test cancels the timer. -/
lemma finalState_monitorTick_of_not_flag (h : s.startTestFlag = false) (n : ℕ) :
    (monitorTick n).finalState s = { s with timers := s.timers.filter (· ≠ n) } := by
  rw [monitorTick, Effect.finalState_get_bind, if_neg (ne_true_of_eq_false h),
    Effect.finalState_modify_bind, Effect.finalState_get_bind]
  split_ifs with hdis
  · exact congrArg (fun flag => { s with
      startTestFlag := flag, timers := s.timers.filter (· ≠ n) : Tab }) h.symm
  · rfl

/-- A response during a test is counted and answered by an echo. -/
lemma finalState_onResponse_of_flag (h : s.startTestFlag = true) (dataMapBytes : ℕ) :
    (onResponse dataMapBytes).finalState s =
      match s.characteristic with
      | some target => (s.counted dataMapBytes).echo target
      | none => s.counted dataMapBytes := by
  rw [onResponse, Effect.finalState_get_bind, if_pos h, Effect.finalState_modify_bind,
    Effect.finalState_modify_bind, finalState_sendEchoTest_bind]
  rfl

lemma finalState_onResponse_of_not_flag (h : s.startTestFlag = false) (dataMapBytes : ℕ) :
    (onResponse dataMapBytes).finalState s = s := by
  rw [onResponse, Effect.finalState_get_bind, if_neg (ne_true_of_eq_false h)]
  rfl

/-- The event has no effect. -/
def Idle (s : Tab) : Event → Prop
  | .press => ¬ s.enabled
  | .tick n => n ∈ s.timers → s.startTestFlag = true ∧ s.characteristic = none
  | .message _ _ => s.listens → s.startTestFlag = false
  | .connection _ => s.mounted = false
  | .characteristic _ => False
  | .dispose => s.mounted = false

/-- **What an event can do**: one of the handlers runs, or nothing happens. -/
inductive Reaction (s : Tab) : Event → Tab → Prop
  | idle {e : Event} (h : Idle s e) : Reaction s e s
  | start (h : s.enabled) (hflag : s.startTestFlag = false) {target : String}
      (hc : s.characteristic = some target) :
      Reaction s .press (s.begin.echo target).monitored
  | startFails (h : s.enabled) (hflag : s.startTestFlag = false) (hc : s.characteristic = none) :
      Reaction s .press s.begin
  | stop (h : s.enabled) (hflag : s.startTestFlag = true) :
      Reaction s .press { s with startTestFlag := false, enableLogging := true }
  | tick {n : ℕ} (hn : n ∈ s.timers) (hflag : s.startTestFlag = true) {target : String}
      (hc : s.characteristic = some target) : Reaction s (.tick n) (s.ticked target).checked
  | cancel {n : ℕ} (hn : n ∈ s.timers) (hflag : s.startTestFlag = false) :
      Reaction s (.tick n) { s with timers := s.timers.filter (· ≠ n) }
  | answer (h : s.listens) (hflag : s.startTestFlag = true) {target : String}
      (hc : s.characteristic = some target) (m : DataMap) (dataMapBytes : ℕ) :
      Reaction s (.message m dataMapBytes) ((s.counted dataMapBytes).echo target)
  | answerFails (h : s.listens) (hflag : s.startTestFlag = true) (hc : s.characteristic = none)
      (m : DataMap) (dataMapBytes : ℕ) :
      Reaction s (.message m dataMapBytes) (s.counted dataMapBytes)
  | connection (h : s.mounted = true) (status : DeviceConnectionState) :
      Reaction s (.connection status) { s with deviceConnectionStatus := status }
  | characteristic (target : Option String) :
      Reaction s (.characteristic target) { s with characteristic := target }
  | dispose (h : s.mounted = true) (hsub : s.subscribed = true) :
      Reaction s .dispose { s with
        timers := s.timers.filter fun n => some n ≠ s.testMonitorTimer
        enableLogging := true
        mounted := false }
  | disposeFails (h : s.mounted = true) (hsub : s.subscribed = false) :
      Reaction s .dispose { s with mounted := false }

/-- An event does one of these. -/
lemma step_reaction (s : Tab) (e : Event) : Reaction s e (step s e) := by
  cases e with
  | press =>
      rw [step]
      split_ifs with h
      · rw [pressed, Effect.finalState_get_bind]
        by_cases hflag : s.startTestFlag = true
        · rw [if_neg (not_not.mpr hflag)]
          exact .stop h hflag
        · rw [if_pos hflag, finalState_startTest]
          rw [Bool.not_eq_true] at hflag
          cases hc : s.characteristic with
          | none => exact .startFails h hflag hc
          | some target => exact .start h hflag hc
      · exact .idle h
  | tick n =>
      rw [step]
      split_ifs with hn
      · by_cases hflag : s.startTestFlag = true
        · rw [finalState_monitorTick_of_flag hflag]
          cases hc : s.characteristic with
          | none => exact .idle fun _ => ⟨hflag, hc⟩
          | some target => exact .tick hn hflag hc
        · rw [Bool.not_eq_true] at hflag
          rw [finalState_monitorTick_of_not_flag hflag]
          exact .cancel hn hflag
      · exact .idle fun h => absurd h hn
  | message m dataMapBytes =>
      rw [step]
      split_ifs with h
      · by_cases hflag : s.startTestFlag = true
        · rw [finalState_onResponse_of_flag hflag]
          cases hc : s.characteristic with
          | none => exact .answerFails h hflag hc m dataMapBytes
          | some target => exact .answer h hflag hc m dataMapBytes
        · rw [Bool.not_eq_true] at hflag
          rw [finalState_onResponse_of_not_flag hflag]
          exact .idle fun _ => hflag
      · exact .idle fun hl => absurd hl h
  | connection status =>
      rw [step]
      split_ifs with h
      · exact .connection h status
      · exact .idle (Bool.eq_false_iff.mpr h)
  | characteristic target => exact .characteristic target
  | dispose =>
      rw [step]
      split_ifs with h
      · rw [TrafficTab.dispose, Effect.finalState_get_bind]
        by_cases hsub : s.subscribed = true
        · rw [if_neg (not_not.mpr hsub)]
          exact .dispose h hsub
        · rw [if_pos hsub]
          exact .disposeFails h (Bool.eq_false_iff.mpr hsub)
      · exact .idle (Bool.eq_false_iff.mpr h)

end SopepApp.TrafficTab
