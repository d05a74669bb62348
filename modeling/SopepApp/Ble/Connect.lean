import SopepApp.Dart.Effect
import SopepApp.Transition.Run

/-!
The connection set-up of `BleInteractor.connect` in `ble_interactor.dart`, with
the notification part of `BleSopepInteractor`.

* `Interactor`: the fields of both, the subscriptions and timers they have
  created, and the calls made;
* `connectionUpdate`, `afterMtu`, `timerCallback`, `disconnect`: the handler of
  a connection up to its `await` and after it, the periodic timer, the
  disconnect;
* `step`: the events of the platform and of the user, in any order; `Reaction`,
  `step_reaction`: what an event can do;
* `acts_on_live_link_iff`: every timer that may fire acts on a link that has
  not been disconnected, exactly in the runs whose steps satisfy `SoundStep`;
  `acts_on_live_link_run` states it of each step of such a run, and
  `timer_acts_on_dead_link` is a disconnect while the timer is running.
-/

namespace SopepApp.Connect

open Dart Transition

/-- `DeviceConnectionState` of the platform. -/
inductive DeviceConnectionState where
  | connecting | connected | disconnecting | disconnected
  deriving DecidableEq, Repr

/-- `BleConnectionErrors`. -/
inductive BleConnectionErrors where
  | none | getMtuSize | enableNotification | setTime
  deriving DecidableEq, Repr

/-- A connection subscription, `_ble.connectToDevice(…).listen(…)`. -/
structure Connection where
  deviceId : String
  sopepId : String
  /-- it has not been cancelled -/
  live : Bool
  deriving DecidableEq, Repr

/-- What the handler of a `connected` update has captured. -/
structure Setup where
  deviceId : String
  sopepId : String
  /-- `update.connectionState` -/
  connectionState : DeviceConnectionState
  /-- how many disconnects there had been when the update arrived -/
  born : ℕ
  deriving DecidableEq, Repr

/-- The calls a timer makes. -/
inductive Call where
  | enableNotification (deviceId : String)
  | setTime
  deriving DecidableEq, Repr

/-- The fields of `BleInteractor` and its `BleSopepInteractor`. -/
structure Interactor where
  mtu : ℤ := 0
  bleConnError : BleConnectionErrors := .none
  /-- `_connection`, as an index of `connections` -/
  connection : Option ℕ := none
  connections : List Connection := []
  /-- the set-ups whose MTU request has not been answered -/
  awaitingMtu : List Setup := []
  /-- the periodic timers in the order of their creation, null once cancelled -/
  timers : List (Option Setup) := []
  characteristic : Option String := none
  /-- `_bleNotificationStream`, by the number of the subscription -/
  bleNotificationStream : Option ℕ := none
  /-- how many notification subscriptions have been created -/
  notifications : ℕ := 0
  liveNotifications : List ℕ := []
  sopepId : String := ""
  /-- the updates given to `_deviceConnectionController` -/
  published : List (String × DeviceConnectionState) := []
  /-- the `disconnect` calls whose `cancel` has not completed -/
  disconnecting : List String := []
  calls : List Call := []
  /-- how many `disconnected` updates and `disconnect` calls there have been -/
  disconnects : ℕ := 0
  deriving DecidableEq

/-- `enableNotification`. -/
def enableNotification (deviceId sopepId : String) : Effect Interactor Unit :=
  modify fun s => { s with
    calls := s.calls ++ [.enableNotification deviceId]
    sopepId := sopepId
    characteristic := some deviceId
    bleNotificationStream := some s.notifications
    notifications := s.notifications + 1
    liveNotifications := s.liveNotifications ++ [s.notifications] }

/-- `disableNotification`. -/
def disableNotification : Effect Interactor Unit :=
  modify fun s => { s with
    liveNotifications := s.liveNotifications.filter fun n => some n ≠ s.bleNotificationStream
    bleNotificationStream := none
    characteristic := none
    sopepId := "" }

/-- `setTime(null)`, up to the write. -/
def setTime : Effect Interactor Unit := do
  modify fun s => { s with calls := s.calls ++ [.setTime] }
  let _ ← Effect.lift (nonNull (← get).characteristic)

/-- `_deviceConnectionController.add(…)`. -/
def publish (deviceId : String) (connectionState : DeviceConnectionState) :
    Effect Interactor Unit :=
  modify fun s => { s with published := s.published ++ [(deviceId, connectionState)] }

/-- `connect`. -/
def connect (deviceId sopepId : String) : Effect Interactor Unit :=
  modify fun s => { s with
    bleConnError := .none
    connection := some s.connections.length
    connections := s.connections ++ [{ deviceId := deviceId, sopepId := sopepId, live := true }] }

/-- `disconnect`, up to the completion of `_connection.cancel()`; with no
connection the `finally` block runs at once. -/
def disconnect (deviceId : String) : Effect Interactor Unit := do
  modify fun s => { s with disconnects := s.disconnects + 1 }
  disableNotification
  match (← get).connection with
  | none =>
    publish deviceId .disconnected
    throw .lateInitialization
  | some c =>
    modify fun s => { s with
      connections := s.connections.modify c fun con => { con with live := false }
      disconnecting := s.disconnecting ++ [deviceId] }

/-- The handler of a connection update, up to the answer to the MTU request. -/
def connectionUpdate (con : Connection) (connectionState : DeviceConnectionState) :
    Effect Interactor Unit := do
  publish con.deviceId connectionState
  match connectionState with
  | .connected =>
    modify fun s => { s with
      mtu := 0
      awaitingMtu := s.awaitingMtu ++ [{
        deviceId := con.deviceId
        sopepId := con.sopepId
        connectionState := connectionState
        born := s.disconnects }] }
  | .disconnected =>
    modify fun s => { s with disconnects := s.disconnects + 1 }
    disableNotification
  | .connecting => pure ()
  | .disconnecting => pure ()

/-- The handler after the MTU request has been answered. -/
def afterMtu (setup : Setup) (mtu : ℤ) : Effect Interactor Unit := do
  modify fun s => { s with mtu := mtu }
  if (← get).mtu ≤ 0 then
    modify fun s => { s with bleConnError := .getMtuSize }
    Effect.unawaited (disconnect setup.deviceId)
  modify fun s => { s with timers := s.timers ++ [some setup] }

/-- `timer.cancel()`. -/
def cancelTimer (k : ℕ) : Effect Interactor Unit :=
  modify fun s => { s with timers := s.timers.set k none }

/-- The callback of the periodic timer `k`. -/
def timerCallback (k : ℕ) (setup : Setup) : Effect Interactor Unit := do
  if (← get).bleNotificationStream.isSome then
    setTime
    cancelTimer k
  else
    Effect.unawaited (enableNotification setup.deviceId setup.sopepId)
  if setup.connectionState = .disconnected then
    cancelTimer k

/-- What happens to the interactor. -/
inductive Event where
  | connect (deviceId sopepId : String)
  /-- the platform reports a state of a connection -/
  | update (c : ℕ) (connectionState : DeviceConnectionState)
  /-- an MTU request is answered -/
  | mtuResult (k : ℕ) (mtu : ℤ)
  /-- an MTU request fails with an exception -/
  | mtuError (k : ℕ)
  /-- a periodic timer fires -/
  | tick (k : ℕ)
  | disconnect (deviceId : String)
  /-- the `cancel` of a `disconnect` call completes -/
  | disconnectCompleted (k : ℕ)

/-- One event. A cancelled connection delivers no update; a handler whose MTU
request fails ends there. -/
def step (s : Interactor) : Event → Interactor
  | .connect deviceId sopepId => (connect deviceId sopepId).finalState s
  | .update c connectionState =>
    match s.connections[c]? with
    | some con => if con.live then (connectionUpdate con connectionState).finalState s else s
    | none => s
  | .mtuResult k mtu =>
    match s.awaitingMtu[k]? with
    | some setup =>
      (afterMtu setup mtu).finalState { s with awaitingMtu := s.awaitingMtu.eraseIdx k }
    | none => s
  | .mtuError k => { s with awaitingMtu := s.awaitingMtu.eraseIdx k }
  | .tick k =>
    match s.timers[k]?.join with
    | some setup => (timerCallback k setup).finalState s
    | none => s
  | .disconnect deviceId => (disconnect deviceId).finalState s
  | .disconnectCompleted k =>
    match s.disconnecting[k]? with
    | some deviceId =>
      (publish deviceId .disconnected).finalState
        { s with disconnecting := s.disconnecting.eraseIdx k }
    | none => s

/-! ### Timers and disconnects -/

/-- **A timer acts on a live link**: when a timer that fires calls
`enableNotification` or `setTime`, there has been no `disconnected` update and
no `disconnect` call since its `connected` update. -/
def ActsOnLiveLink (s : Interactor) (e : Event) : Prop :=
  ∀ k setup, e = .tick k → s.timers[k]?.join = some setup → (step s e).calls ≠ s.calls →
    setup.born = s.disconnects

/-- Every timer has been cancelled. -/
def NoTimers (s : Interactor) : Prop := ∀ setup, some setup ∉ s.timers

/-- The condition on a step: no disconnect while a timer runs, and no timer
after a disconnect or without an MTU. -/
def SoundStep (s : Interactor) : Event → Prop
  | .disconnect _ => NoTimers s
  | .update c .disconnected => (∃ con ∈ s.connections[c]?, con.live = true) → NoTimers s
  | .mtuResult k mtu => ∀ setup ∈ s.awaitingMtu[k]?, 0 < mtu ∧ setup.born = s.disconnects
  | _ => True

/-- No disconnect since the update of any running timer. -/
def TimersCurrent (s : Interactor) : Prop :=
  ∀ setup, some setup ∈ s.timers → setup.born = s.disconnects

variable {s : Interactor}

/-! The handlers in closed form. -/

/-- **`disconnect`**: the notifications are disabled, and the stored connection is
cancelled if there is one. -/
lemma disconnect_finalState (s : Interactor) (deviceId : String) :
    (disconnect deviceId).finalState s = { s with
      disconnects := s.disconnects + 1
      liveNotifications := s.liveNotifications.filter fun n => some n ≠ s.bleNotificationStream
      bleNotificationStream := none
      characteristic := none
      sopepId := ""
      published := s.published ++ (if s.connection.isSome then [] else [(deviceId, .disconnected)])
      connections := match s.connection with
        | some c => s.connections.modify c fun con => { con with live := false }
        | none => s.connections
      disconnecting := s.disconnecting ++ (if s.connection.isSome then [deviceId] else []) } := by
  rw [disconnect]
  cases hcon : s.connection with
  | none => simp [disableNotification, hcon, publish]
  | some c => simp [disableNotification, hcon]

/-- **After the answer to the MTU request** a timer runs, whatever the answer. -/
lemma afterMtu_finalState (s : Interactor) (setup : Setup) (mtu : ℤ) :
    (afterMtu setup mtu).finalState s =
      if mtu ≤ 0 then
        { (disconnect setup.deviceId).finalState { s with
            mtu := mtu, bleConnError := .getMtuSize } with
          timers := s.timers ++ [some setup] }
      else { s with mtu := mtu, timers := s.timers ++ [some setup] } := by
  by_cases hmtu : mtu ≤ 0
  · simp [afterMtu, hmtu, disconnect_finalState]
  · simp [afterMtu, hmtu]

/-- **A tick** enables the notifications, or sets the time and stops the timer if
there is a characteristic to send to. -/
lemma timerCallback_finalState (s : Interactor) (k : ℕ) (setup : Setup) :
    (timerCallback k setup).finalState s =
      if s.bleNotificationStream.isSome then
        { s with
          calls := s.calls ++ [.setTime]
          timers := if s.characteristic.isSome then s.timers.set k none else s.timers }
      else
        { s with
          calls := s.calls ++ [.enableNotification setup.deviceId]
          sopepId := setup.sopepId
          characteristic := some setup.deviceId
          bleNotificationStream := some s.notifications
          notifications := s.notifications + 1
          liveNotifications := s.liveNotifications ++ [s.notifications]
          timers := if setup.connectionState = .disconnected then s.timers.set k none
            else s.timers } := by
  rw [timerCallback]
  cases hstream : s.bleNotificationStream with
  | none =>
      by_cases hcap : setup.connectionState = .disconnected
      · simp [hstream, enableNotification, hcap, cancelTimer]
      · simp [hstream, enableNotification, hcap]
  | some n =>
      cases hchar : s.characteristic with
      | none => simp [hstream, setTime, hchar]
      | some c =>
          by_cases hcap : setup.connectionState = .disconnected
          · simp [hstream, setTime, hchar, cancelTimer, hcap]
          · simp [hstream, setTime, hchar, cancelTimer, hcap]

/-- The callback makes a call, and changes neither the count of disconnects nor the
pending set-ups; it may stop its timer. -/
lemma timerCallback_frame (s : Interactor) (k : ℕ) (setup : Setup) :
    ((timerCallback k setup).finalState s).calls ≠ s.calls ∧
      ((timerCallback k setup).finalState s).disconnects = s.disconnects ∧
      ((timerCallback k setup).finalState s).awaitingMtu = s.awaitingMtu ∧
      (((timerCallback k setup).finalState s).timers = s.timers ∨
        ((timerCallback k setup).finalState s).timers = s.timers.set k none) := by
  rw [timerCallback_finalState]
  split_ifs <;> simp

/-- A timer that runs fires. -/
lemma step_tick {k : ℕ} {setup : Setup} (hk : s.timers[k]?.join = some setup) :
    step s (.tick k) = (timerCallback k setup).finalState s := by
  rw [step, hk]

/-- The updates came before the disconnects counted now. -/
def Ordered (s : Interactor) : Prop := ∀ setup ∈ s.awaitingMtu, setup.born ≤ s.disconnects

/-- `disconnect` counts, and leaves the timers and the set-ups alone. -/
lemma disconnect_frame (s : Interactor) (deviceId : String) :
    ((disconnect deviceId).finalState s).disconnects = s.disconnects + 1 ∧
      ((disconnect deviceId).finalState s).timers = s.timers ∧
      ((disconnect deviceId).finalState s).awaitingMtu = s.awaitingMtu := by
  rw [disconnect_finalState]
  exact ⟨rfl, rfl, rfl⟩

/-- What an update changes of the timers, the count and the set-ups. -/
lemma connectionUpdate_frame (s : Interactor) (con : Connection) (st : DeviceConnectionState) :
    ((connectionUpdate con st).finalState s).timers = s.timers ∧
      ((connectionUpdate con st).finalState s).disconnects =
        (if st = .disconnected then s.disconnects + 1 else s.disconnects) ∧
      ∀ setup ∈ ((connectionUpdate con st).finalState s).awaitingMtu,
        setup ∈ s.awaitingMtu ∨ setup.born = s.disconnects := by
  cases st with
  | connected =>
      simp only [connectionUpdate, publish, Effect.finalState_modify_bind, Effect.finalState_modify,
        List.mem_append, List.mem_singleton, reduceCtorEq, if_false, true_and]
      rintro setup (hmem | rfl)
      · exact Or.inl hmem
      · exact Or.inr rfl
  | disconnected => exact ⟨rfl, rfl, fun _ hmem => Or.inl hmem⟩
  | connecting => exact ⟨rfl, rfl, fun _ hmem => Or.inl hmem⟩
  | disconnecting => exact ⟨rfl, rfl, fun _ hmem => Or.inl hmem⟩

/-- After an answer to the MTU request a timer runs, for a failed negotiation
after one more disconnect. -/
lemma afterMtu_frame (s : Interactor) (setup : Setup) (mtu : ℤ) :
    ((afterMtu setup mtu).finalState s).timers = s.timers ++ [some setup] ∧
      ((afterMtu setup mtu).finalState s).disconnects =
        (if 0 < mtu then s.disconnects else s.disconnects + 1) ∧
      ((afterMtu setup mtu).finalState s).awaitingMtu = s.awaitingMtu := by
  rw [afterMtu_finalState]
  by_cases hmtu : 0 < mtu
  · rw [if_neg (not_le.mpr hmtu), if_pos hmtu]
    exact ⟨rfl, rfl, rfl⟩
  · rw [if_pos (not_lt.mp hmtu), if_neg hmtu, disconnect_finalState]
    exact ⟨rfl, rfl, rfl⟩

/-! ### What an event can do -/

/-- The event finds nothing to act on: a live connection, a set-up that waits, a
timer that runs, a call that is suspended. -/
def Idle (s : Interactor) : Event → Prop
  | .update c _ => ¬ ∃ con ∈ s.connections[c]?, con.live = true
  | .mtuResult k _ => s.awaitingMtu[k]? = none
  | .tick k => s.timers[k]?.join = none
  | .disconnectCompleted k => s.disconnecting[k]? = none
  | _ => False

/-- **What an event can do**: one of the handlers runs, or nothing happens. -/
inductive Reaction (s : Interactor) : Event → Interactor → Prop
  | idle {e : Event} (h : Idle s e) : Reaction s e s
  | connect (deviceId sopepId : String) :
      Reaction s (.connect deviceId sopepId) ((Connect.connect deviceId sopepId).finalState s)
  | update {c : ℕ} {con : Connection} (hcon : s.connections[c]? = some con)
      (hlive : con.live = true) (st : DeviceConnectionState) :
      Reaction s (.update c st) ((connectionUpdate con st).finalState s)
  | mtuResult {k : ℕ} {setup : Setup} (hk : s.awaitingMtu[k]? = some setup) (mtu : ℤ) :
      Reaction s (.mtuResult k mtu)
        ((afterMtu setup mtu).finalState { s with awaitingMtu := s.awaitingMtu.eraseIdx k })
  | mtuError (k : ℕ) :
      Reaction s (.mtuError k) { s with awaitingMtu := s.awaitingMtu.eraseIdx k }
  | tick {k : ℕ} {setup : Setup} (hk : s.timers[k]?.join = some setup) :
      Reaction s (.tick k) ((timerCallback k setup).finalState s)
  | disconnect (deviceId : String) :
      Reaction s (.disconnect deviceId) ((Connect.disconnect deviceId).finalState s)
  | disconnectCompleted {k : ℕ} {deviceId : String} (hk : s.disconnecting[k]? = some deviceId) :
      Reaction s (.disconnectCompleted k) ((publish deviceId .disconnected).finalState
        { s with disconnecting := s.disconnecting.eraseIdx k })

/-- An event does one of these. -/
lemma step_reaction (s : Interactor) (e : Event) : Reaction s e (step s e) := by
  cases e with
  | connect deviceId sopepId => exact .connect deviceId sopepId
  | update c st =>
      by_cases hlive : ∃ con ∈ s.connections[c]?, con.live = true
      · obtain ⟨con, hcon, hlive⟩ := hlive
        have hstep : step s (.update c st) = (connectionUpdate con st).finalState s := by
          simp [step, show s.connections[c]? = some con from hcon, hlive]
        rw [hstep]
        exact .update hcon hlive st
      · have hstep : step s (.update c st) = s := by
          rw [step]
          split
          · next con hcon => exact if_neg fun h => hlive ⟨con, hcon, h⟩
          · rfl
        rw [hstep]
        exact .idle hlive
  | mtuResult k mtu =>
      cases hk : s.awaitingMtu[k]? with
      | none =>
          rw [step, hk]
          exact .idle hk
      | some setup =>
          rw [step, hk]
          exact .mtuResult hk mtu
  | mtuError k => exact .mtuError k
  | tick k =>
      cases hk : s.timers[k]?.join with
      | none =>
          rw [step, hk]
          exact .idle hk
      | some setup =>
          rw [step, hk]
          exact .tick hk
  | disconnect deviceId => exact .disconnect deviceId
  | disconnectCompleted k =>
      cases hk : s.disconnecting[k]? with
      | none =>
          rw [step, hk]
          exact .idle hk
      | some deviceId =>
          rw [step, hk]
          exact .disconnectCompleted hk

variable {e : Event} {t : Interactor}

/-- No update comes after the disconnects counted so far. -/
lemma Reaction.ordered (hr : Reaction s e t) (h : Ordered s) : Ordered t := by
  intro setup hmem
  cases hr with
  | idle _ => exact h setup hmem
  | connect deviceId sopepId => exact h setup hmem
  | @update c con _ _ st =>
      obtain ⟨-, hcount, hnew⟩ := connectionUpdate_frame s con st
      have hborn : setup.born ≤ s.disconnects := by
        rcases hnew setup hmem with hold | hborn
        · exact h setup hold
        · exact hborn.le
      rw [hcount]
      split_ifs
      · exact Nat.le_succ_of_le hborn
      · exact hborn
  | @mtuResult k waiting _ mtu =>
      obtain ⟨-, hcount, hsame⟩ :=
        afterMtu_frame { s with awaitingMtu := s.awaitingMtu.eraseIdx k } waiting mtu
      rw [hsame] at hmem
      have hborn : setup.born ≤ s.disconnects := h setup (List.mem_of_mem_eraseIdx hmem)
      rw [hcount]
      split_ifs
      · exact hborn
      · exact Nat.le_succ_of_le hborn
  | mtuError k => exact h setup (List.mem_of_mem_eraseIdx hmem)
  | @tick k waiting hk =>
      obtain ⟨-, hcount, hsame, -⟩ := timerCallback_frame s k waiting
      rw [hsame] at hmem
      rw [hcount]
      exact h setup hmem
  | disconnect deviceId =>
      obtain ⟨hcount, -, hsame⟩ := disconnect_frame s deviceId
      rw [hsame] at hmem
      rw [hcount]
      exact Nat.le_succ_of_le (h setup hmem)
  | disconnectCompleted _ => exact h setup hmem

/-- The timers and the count are all that matters. -/
lemma timersCurrent_congr {s' : Interactor} (htimers : s'.timers = s.timers)
    (hcount : s'.disconnects = s.disconnects) : TimersCurrent s' ↔ TimersCurrent s := by
  rw [TimersCurrent, TimersCurrent, htimers, hcount]

/-- One more disconnect keeps the timers current when there are none. -/
lemma timersCurrent_succ_iff {s' : Interactor} (hcur : TimersCurrent s)
    (htimers : s'.timers = s.timers) (hcount : s'.disconnects = s.disconnects + 1) :
    TimersCurrent s' ↔ NoTimers s := by
  rw [TimersCurrent, htimers, hcount]
  refine ⟨fun h setup hmem => ?_, fun h setup hmem => absurd hmem (h setup)⟩
  have hold : setup.born = s.disconnects := hcur setup hmem
  have hnew : setup.born = s.disconnects + 1 := h setup hmem
  omega

/-- A new timer is current when no disconnect came since its update. -/
lemma timersCurrent_afterMtu_iff {setup : Setup} (hborn : setup.born ≤ s.disconnects)
    (hcur : TimersCurrent s) (mtu : ℤ) :
    TimersCurrent ((afterMtu setup mtu).finalState s) ↔ 0 < mtu ∧ setup.born = s.disconnects := by
  obtain ⟨htimers, hcount, -⟩ := afterMtu_frame s setup mtu
  rw [TimersCurrent, htimers, hcount]
  refine ⟨fun h => ?_, fun ⟨hmtu, hnow⟩ running hmem => ?_⟩
  · have hnew := h setup (List.mem_append_right _ (List.mem_singleton_self _))
    by_cases hmtu : 0 < mtu
    · rw [if_pos hmtu] at hnew
      exact ⟨hmtu, hnew⟩
    · rw [if_neg hmtu] at hnew
      omega
  · rw [if_pos hmtu]
    rcases List.mem_append.mp hmem with hold | hnew
    · exact hcur running hold
    · obtain rfl := Option.some_inj.mp (List.mem_singleton.mp hnew)
      exact hnow

/-- A step keeps the timers current exactly when it is sound. -/
lemma Reaction.timersCurrent_iff (hr : Reaction s e t) (h : Ordered s) (hcur : TimersCurrent s) :
    TimersCurrent t ↔ SoundStep s e := by
  cases hr with
  | idle hidle =>
      refine iff_of_true hcur ?_
      cases e with
      | update c st =>
          cases st with
          | disconnected => exact fun hlive => absurd hlive hidle
          | _ => trivial
      | mtuResult k mtu => simp [SoundStep, show s.awaitingMtu[k]? = none from hidle]
      | disconnect deviceId => exact absurd hidle id
      | _ => trivial
  | connect deviceId sopepId => exact iff_of_true hcur trivial
  | @update c con hcon hlive st =>
      obtain ⟨htimers, hcount, -⟩ := connectionUpdate_frame s con st
      cases st with
      | disconnected =>
          rw [timersCurrent_succ_iff hcur htimers hcount]
          exact ⟨fun hnone _ => hnone, fun hsound => hsound ⟨con, hcon, hlive⟩⟩
      | _ => exact iff_of_true ((timersCurrent_congr htimers hcount).mpr hcur) trivial
  | @mtuResult k setup hk mtu =>
      have hborn : setup.born ≤ s.disconnects := h setup (List.mem_of_getElem? hk)
      have hafter := timersCurrent_afterMtu_iff
        (s := { s with awaitingMtu := s.awaitingMtu.eraseIdx k }) hborn hcur mtu
      rw [hafter]
      simp [SoundStep, hk]
  | mtuError k => exact iff_of_true hcur trivial
  | @tick k setup hk =>
      refine iff_of_true ?_ trivial
      obtain ⟨-, hcount, -, htimers⟩ := timerCallback_frame s k setup
      intro running hmem
      rw [hcount]
      rcases htimers with hsame | hset
      · rw [hsame] at hmem
        exact hcur running hmem
      · rw [hset] at hmem
        rcases List.mem_or_eq_of_mem_set hmem with hold | hnone
        · exact hcur running hold
        · exact absurd hnone (by simp)
  | disconnect deviceId =>
      obtain ⟨hcount, htimers, -⟩ := disconnect_frame s deviceId
      exact timersCurrent_succ_iff hcur htimers hcount
  | disconnectCompleted _ => exact iff_of_true hcur trivial

/-- In a state with current timers any timer may fire. -/
lemma TimersCurrent.actsOnLiveLink (h : TimersCurrent s) (e : Event) : ActsOnLiveLink s e := by
  intro k setup _ hk _
  exact h setup (List.mem_of_getElem? (Option.join_eq_some_iff.mp hk))

/-- A state in which any timer may fire has current timers: a timer that fires
makes a call. -/
lemma timersCurrent_iff : TimersCurrent s ↔ ∀ e, ActsOnLiveLink s e := by
  refine ⟨fun h e => h.actsOnLiveLink e, fun h setup hsetup => ?_⟩
  obtain ⟨k, hk⟩ := List.mem_iff_getElem?.mp hsetup
  have hfires : s.timers[k]?.join = some setup := Option.join_eq_some_iff.mpr hk
  refine h (.tick k) k setup rfl hfires ?_
  rw [step_tick hfires]
  exact (timerCallback_frame s k setup).1

/-- The runs in which every timer stays current. -/
lemma timersCurrent_run_iff (es : List Event) :
    Throughout step TimersCurrent {} es ↔ Always step SoundStep {} es :=
  throughout_iff_always (I := Ordered) (fun _ h => absurd h (by simp))
    (fun _ h => absurd h (by simp)) (fun s e h => (step_reaction s e).ordered h)
    fun s e h hcur => (step_reaction s e).timersCurrent_iff h hcur

/-- **The set-up never acts on a dead link** exactly in these runs: at every
moment of the run whatever timer fires next acts on a link that has not been
disconnected, if and only if no disconnect comes while a timer runs and no timer
is started after a disconnect or without an MTU. -/
theorem acts_on_live_link_iff (es : List Event) :
    Throughout step (fun s => ∀ e, ActsOnLiveLink s e) {} es ↔ Always step SoundStep {} es := by
  calc Throughout step (fun s => ∀ e, ActsOnLiveLink s e) {} es
      ↔ Throughout step TimersCurrent {} es :=
        forall_congr' fun pre => imp_congr_right fun _ => timersCurrent_iff.symm
    _ ↔ Always step SoundStep {} es := timersCurrent_run_iff es

/-- The timers that fire in such a run act on a live link. -/
theorem acts_on_live_link_run {es : List Event} (h : Always step SoundStep {} es) :
    Always step ActsOnLiveLink {} es := by
  have hcurrent : Throughout step TimersCurrent {} es := (timersCurrent_run_iff es).mpr h
  rintro pre e post rfl
  exact (hcurrent pre (List.prefix_append _ _)).actsOnLiveLink e

/-- A disconnect while the timer is running: its first tick subscribes to the
device again. -/
theorem timer_acts_on_dead_link : ¬ ∀ es : List Event, Always step ActsOnLiveLink {} es := by
  intro h
  have hlast := h
    [.connect "d" "s", .update 0 .connected, .mtuResult 0 247, .disconnect "d", .tick 0]
    [.connect "d" "s", .update 0 .connected, .mtuResult 0 247, .disconnect "d"] (.tick 0) [] rfl
  have hborn := hlast 0 ⟨"d", "s", .connected, 0⟩ rfl rfl (by decide)
  exact absurd hborn (by decide)

end SopepApp.Connect
