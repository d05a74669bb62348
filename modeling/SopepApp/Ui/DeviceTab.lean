import SopepApp.Ble.Connect
import SopepApp.Transition.Past

/-!
The listener of the device tab, `_DeviceInteractionTabState` of
`device_interaction_tab.dart`, on the responses of the device.

* `Tab`: the fields of the tab, its periodic timers and the listeners it has
  registered, with the interactor under it;
* `connect`, `timerCallback`, `onPressed`, `dispose`: the functions of the
  tab; `step`: the events of the tab and of the interactor, in any order;
* `Registers`, `Releases`: the ticks that register a listener, the presses of
  the button that cancel the stored one;
* `owns_one_listener_iff`: the tab has at most one live listener, and none once
  it is disposed, exactly in the runs in which each tick that registers one
  comes before `dispose` and after a press of Disconnect since the last such
  tick; `reconnect_listens_twice` is a run in which the device disconnects by
  itself.
-/

namespace SopepApp.DeviceTab

open Dart Transition Connect

/-- The fields of the tab. -/
structure Tab where
  deviceId : String
  sopepId : String
  interactor : Interactor
  /-- `widget.deviceConnectionStatus`, as of the last build -/
  connectionStatus : DeviceConnectionState := .disconnected
  mounted : Bool := true
  /-- the periodic timers, and whether they run -/
  timers : List Bool := []
  /-- `_sopepStreamSubscription`, by the number of the listener -/
  sopepStreamSubscription : Option ℕ := none
  /-- how many listeners have been registered -/
  listeners : ℕ := 0
  live : List ℕ := []

/-- A call of the interactor. -/
def onInteractor (call : Effect Interactor Unit) : Effect Tab Unit :=
  modify fun t => { t with interactor := call.finalState t.interactor }

/-- `_connect`. -/
def connect : Effect Tab Unit := do
  let t ← get
  onInteractor (Connect.connect t.deviceId t.sopepId)
  modify fun t => { t with timers := t.timers ++ [true] }

/-- `_sopepStreamSubscription?.cancel()`. -/
def cancelSubscription : Effect Tab Unit :=
  modify fun t => { t with live := t.live.filter fun n => some n ≠ t.sopepStreamSubscription }

/-- `timer.cancel()`. -/
def cancelTimer (i : ℕ) : Effect Tab Unit :=
  modify fun t => { t with timers := t.timers.set i false }

/-- The callback of the periodic timer `i`. -/
def timerCallback (i : ℕ) : Effect Tab Unit := do
  let t ← get
  if t.interactor.bleNotificationStream.isSome then
    modify fun t => { t with
      sopepStreamSubscription := some t.listeners
      listeners := t.listeners + 1
      live := t.live ++ [t.listeners] }
    cancelTimer i
  else if t.connectionStatus = .disconnecting ∨ t.connectionStatus = .disconnected then
    cancelTimer i

/-- `onPressed` of the Connect/Disconnect button, which is disabled while
connecting. -/
def onPressed : Effect Tab Unit := do
  let t ← get
  if t.connectionStatus = .disconnected then
    connect
  else if t.connectionStatus = .connected then
    onInteractor (Effect.unawaited (disconnect t.deviceId))
    cancelSubscription

/-- `dispose`. -/
def dispose : Effect Tab Unit := do
  cancelSubscription
  modify fun t => { t with mounted := false }

/-- What happens to the tab. -/
inductive Event where
  /-- an event of the interactor -/
  | interactor (e : Connect.Event)
  /-- the tab is built with the state published last -/
  | build
  | press
  /-- a periodic timer fires -/
  | tick (i : ℕ)
  | dispose

/-- One event. A disposed tab is not built and has no button; its timers go
on. -/
def step (t : Tab) : Event → Tab
  | .interactor e => { t with interactor := Connect.step t.interactor e }
  | .build =>
    if t.mounted then
      match t.interactor.published.getLast? with
      | some update => { t with connectionStatus := update.2 }
      | none => t
    else t
  | .press => if t.mounted then onPressed.finalState t else t
  | .tick i => if t.timers[i]? = some true then (timerCallback i).finalState t else t
  | .dispose => if t.mounted then dispose.finalState t else t

/-- The tab after `initState`. -/
def initState (s : Interactor) (deviceId sopepId : String)
    (connectionStatus : DeviceConnectionState) : Tab :=
  connect.finalState { deviceId, sopepId, interactor := s, connectionStatus }

/-! ### Listeners -/

/-- **One listener**: at most one listener of the tab is live, and none once the
tab is disposed. -/
def OwnsOneListener (t : Tab) : Prop := t.live.length ≤ 1 ∧ (t.mounted = false → t.live = [])

/-- A tick that registers a listener: it finds the notifications enabled. -/
def Registers (t : Tab) : Event → Prop
  | .tick i => t.timers[i]? = some true ∧ t.interactor.bleNotificationStream.isSome
  | _ => False

/-- A press of Disconnect. -/
def Releases (t : Tab) : Event → Prop
  | .press => t.mounted = true ∧ t.connectionStatus = .connected
  | _ => False

/-- The live listeners are the stored one, and the tab is mounted if there is
one. -/
structure Owned (t : Tab) : Prop where
  stored : ∀ n ∈ t.live, t.sopepStreamSubscription = some n
  length_le : t.live.length ≤ 1
  mounted : t.mounted = false → t.live = []

variable {t : Tab}

/-- A press of Disconnect cancels the stored listener and changes no other field
of the listeners. -/
lemma step_press_of_releases (h : Releases t .press) : ∃ interactor,
    step t .press = { t with
      interactor := interactor
      live := t.live.filter fun n => some n ≠ t.sopepStreamSubscription } := by
  have hne : t.connectionStatus ≠ .disconnected := by
    rw [h.2]
    exact fun h => nomatch h
  refine ⟨(disconnect t.deviceId).finalState t.interactor, ?_⟩
  rw [step, if_pos h.1, onPressed, Effect.finalState_get_bind, if_neg hne, if_pos h.2]
  rfl

/-- A tick that registers a listener stores it. -/
lemma step_tick_of_registers {i : ℕ} (h : Registers t (.tick i)) :
    step t (.tick i) = { t with
      sopepStreamSubscription := some t.listeners
      listeners := t.listeners + 1
      live := t.live ++ [t.listeners]
      timers := t.timers.set i false } := by
  rw [step, if_pos h.1, timerCallback, Effect.finalState_get_bind, if_pos h.2]
  rfl

/-- Every other event leaves the listeners and the life of the tab alone. -/
lemma step_frame {e : Event} (hreg : ¬ Registers t e) (hrel : ¬ Releases t e)
    (hdis : e ≠ .dispose) :
    (step t e).live = t.live ∧ (step t e).mounted = t.mounted ∧
      (step t e).sopepStreamSubscription = t.sopepStreamSubscription := by
  cases e with
  | interactor e => exact ⟨rfl, rfl, rfl⟩
  | build =>
      rw [step]
      split_ifs
      · cases t.interactor.published.getLast? with
        | none => exact ⟨rfl, rfl, rfl⟩
        | some update => exact ⟨rfl, rfl, rfl⟩
      · exact ⟨rfl, rfl, rfl⟩
  | press =>
      rw [step]
      split_ifs with hmounted
      · have hstatus : t.connectionStatus ≠ .connected := fun h => hrel ⟨hmounted, h⟩
        rw [onPressed, Effect.finalState_get_bind, if_neg hstatus]
        split_ifs
        · exact ⟨rfl, rfl, rfl⟩
        · exact ⟨rfl, rfl, rfl⟩
      · exact ⟨rfl, rfl, rfl⟩
  | tick i =>
      rw [step]
      split_ifs with hrun
      · have hstream : ¬ t.interactor.bleNotificationStream.isSome := fun h => hreg ⟨hrun, h⟩
        rw [timerCallback, Effect.finalState_get_bind, if_neg hstream]
        split_ifs
        · exact ⟨rfl, rfl, rfl⟩
        · exact ⟨rfl, rfl, rfl⟩
      · exact ⟨rfl, rfl, rfl⟩
  | dispose => exact absurd rfl hdis

/-- A tab without a live listener owns what it should. -/
lemma owned_of_live_eq_nil (h : t.live = []) : Owned t where
  stored n hn := by
    rw [h] at hn
    exact absurd hn List.not_mem_nil
  length_le := by
    rw [h]
    exact Nat.zero_le _
  mounted _ := h

/-- `dispose` cancels the stored listener. -/
lemma step_dispose (h : Owned t) :
    (step t .dispose).mounted = false ∧ (step t .dispose).live = [] := by
  rw [step]
  split_ifs with hmounted
  · refine ⟨rfl, List.filter_eq_nil_iff.mpr fun n hn => ?_⟩
    simp [h.stored n hn]
  · rw [Bool.not_eq_true] at hmounted
    exact ⟨hmounted, h.mounted hmounted⟩

/-! ### Runs of the tab -/

/-- A tick that registers a listener comes before `dispose`, and after a press of
Disconnect since the last such tick. -/
def SoundTick (t₀ : Tab) (pre : List Event) (e : Event) : Prop :=
  Registers (run step t₀ pre) e → .dispose ∉ pre ∧ ¬ Since step Registers Releases t₀ pre

/-- The listeners of the tab after the events `es`, told by the events. -/
structure Follows (t₀ : Tab) (es : List Event) : Prop where
  owned : Owned (run step t₀ es)
  mounted_iff : (run step t₀ es).mounted = true ↔ .dispose ∉ es
  live_iff : (run step t₀ es).live ≠ [] ↔ .dispose ∉ es ∧ Since step Registers Releases t₀ es

variable {t₀ : Tab} {es : List Event}

/-- A sound registering tick: its listener is the only one. -/
lemma Follows.concat_tick (h : Follows t₀ es) {i : ℕ} (hreg : Registers (run step t₀ es) (.tick i))
    (hdis : .dispose ∉ es) (hsince : ¬ Since step Registers Releases t₀ es) :
    Follows t₀ (es ++ [.tick i]) := by
  have hmem : .dispose ∉ es ++ [Event.tick i] := by simpa using hdis
  have hmounted : (run step t₀ es).mounted = true := h.mounted_iff.mpr hdis
  have hnil : (run step t₀ es).live = [] := by
    by_contra hne
    exact hsince (h.live_iff.mp hne).2
  have hrun := step_tick_of_registers hreg
  rw [hnil] at hrun
  refine ⟨?_, ?_, ?_⟩
  · rw [run_concat, hrun]
    refine ⟨by simp, le_rfl, fun hfalse => ?_⟩
    exact absurd (hmounted.symm.trans hfalse) (by simp)
  · rw [run_concat, hrun]
    exact iff_of_true hmounted hmem
  · rw [run_concat, hrun, since_concat]
    exact iff_of_true (List.cons_ne_nil _ _) ⟨hmem, Or.inl hreg⟩

/-- A press of Disconnect leaves no listener. -/
lemma Follows.concat_press (h : Follows t₀ es) (hrel : Releases (run step t₀ es) .press) :
    Follows t₀ (es ++ [.press]) := by
  obtain ⟨interactor, heq⟩ := step_press_of_releases hrel
  have hdis : .dispose ∉ es ++ [Event.press] := by simpa using h.mounted_iff.mp hrel.1
  have hnil : (run step t₀ (es ++ [.press])).live = [] := by
    rw [run_concat, heq]
    refine List.filter_eq_nil_iff.mpr fun n hn => ?_
    simp [h.owned.stored n hn]
  refine ⟨owned_of_live_eq_nil hnil, ?_, iff_of_false (not_not.mpr hnil) ?_⟩
  · rw [run_concat, heq]
    exact iff_of_true hrel.1 hdis
  · rintro ⟨-, hsince⟩
    rw [since_concat] at hsince
    exact hsince.elim id fun hold => hold.2 hrel

/-- The disposal leaves no listener. -/
lemma Follows.concat_dispose (h : Follows t₀ es) : Follows t₀ (es ++ [.dispose]) := by
  obtain ⟨hfalse, hnil⟩ := step_dispose h.owned
  rw [← run_concat step t₀ es] at hfalse hnil
  have hmem : .dispose ∈ es ++ [Event.dispose] := by simp
  refine ⟨owned_of_live_eq_nil hnil, ?_, iff_of_false (not_not.mpr hnil) fun hlive => hlive.1 hmem⟩
  rw [hfalse]
  exact iff_of_false Bool.false_ne_true (not_not.mpr hmem)

/-- Any other event changes nothing that the listeners depend on. -/
lemma Follows.concat_frame (h : Follows t₀ es) {e : Event}
    (hreg : ¬ Registers (run step t₀ es) e) (hrel : ¬ Releases (run step t₀ es) e)
    (hdis : e ≠ .dispose) : Follows t₀ (es ++ [e]) := by
  obtain ⟨hlive, hmounted, hstored⟩ := step_frame hreg hrel hdis
  rw [← run_concat step t₀ es] at hlive hmounted hstored
  have hmem : .dispose ∉ es ++ [e] ↔ .dispose ∉ es := by
    simp [Ne.symm hdis]
  refine ⟨⟨?_, ?_, ?_⟩, ?_, ?_⟩
  · rw [hlive, hstored]
    exact h.owned.stored
  · rw [hlive]
    exact h.owned.length_le
  · rw [hlive, hmounted]
    exact h.owned.mounted
  · rw [hmounted, hmem, h.mounted_iff]
  · rw [hlive, hmem, h.live_iff, since_concat, or_iff_right hreg, and_iff_left hrel]

/-- **The events tell the listeners** as long as each registering tick is
sound. -/
theorem Follows.concat (h : Follows t₀ es) {e : Event} (hsound : SoundTick t₀ es e) :
    Follows t₀ (es ++ [e]) := by
  by_cases hreg : Registers (run step t₀ es) e
  · obtain ⟨hdis, hsince⟩ := hsound hreg
    cases e with
    | tick i => exact h.concat_tick hreg hdis hsince
    | _ => exact absurd hreg id
  by_cases hrel : Releases (run step t₀ es) e
  · cases e with
    | press => exact h.concat_press hrel
    | _ => exact absurd hrel id
  by_cases hdis : e = .dispose
  · rw [hdis]
    exact h.concat_dispose
  · exact h.concat_frame hreg hrel hdis

/-- A new tab has no listener. -/
lemma follows_nil (hmounted : t₀.mounted = true) (hlive : t₀.live = []) : Follows t₀ [] :=
  ⟨owned_of_live_eq_nil hlive, iff_of_true hmounted List.not_mem_nil,
    iff_of_false (not_not.mpr hlive) fun h => not_since_nil h.2⟩

/-- A registering tick keeps the listeners of the tab to one only if it is
sound. -/
lemma Follows.soundTick (h : Follows t₀ es) {e : Event}
    (howns : OwnsOneListener (step (run step t₀ es) e)) : SoundTick t₀ es e := by
  intro hreg
  cases e with
  | tick i =>
      rw [step_tick_of_registers hreg] at howns
      obtain ⟨hlen, hunmounted⟩ := howns
      have hdis : .dispose ∉ es := by
        by_contra hmem
        have hfalse : (run step t₀ es).mounted = false := by
          rw [← Bool.not_eq_true, h.mounted_iff]
          exact not_not.mpr hmem
        exact absurd (hunmounted hfalse) (by simp)
      refine ⟨hdis, fun hsince => ?_⟩
      have hpos := List.length_pos_of_ne_nil (h.live_iff.mpr ⟨hdis, hsince⟩)
      rw [List.length_append, List.length_singleton] at hlen
      omega
  | _ => exact absurd hreg id

/-- **The tab owns at most one listener**, and none once it is disposed, exactly
in the runs in which each tick that registers a listener comes before `dispose`
and after a press of Disconnect since the last such tick. -/
theorem owns_one_listener_iff (s : Interactor) (deviceId sopepId : String)
    (connectionStatus : DeviceConnectionState) (es : List Event) :
    Throughout step OwnsOneListener (initState s deviceId sopepId connectionStatus) es ↔
      EachEvent (SoundTick (initState s deviceId sopepId connectionStatus)) es := by
  have hnil : Follows (initState s deviceId sopepId connectionStatus) [] := follows_nil rfl rfl
  generalize initState s deviceId sopepId connectionStatus = t₀ at hnil ⊢
  have hfollows : ∀ es, EachEvent (SoundTick t₀) es → Follows t₀ es := by
    intro es
    induction es using List.reverseRecOn with
    | nil => exact fun _ => hnil
    | append_singleton es e ih =>
        intro h
        rw [eachEvent_concat] at h
        exact (ih h.1).concat h.2
  induction es using List.reverseRecOn with
  | nil =>
      refine iff_of_true (throughout_nil.mpr ?_) eachEvent_nil
      exact ⟨hnil.owned.length_le, hnil.owned.mounted⟩
  | append_singleton es e ih =>
      rw [throughout_concat, eachEvent_concat]
      refine (and_congr_left' ih).trans ?_
      refine and_congr_right fun hes => ⟨fun howns => (hfollows es hes).soundTick howns,
        fun hsound => ?_⟩
      have howned := ((hfollows es hes).concat hsound).owned
      rw [run_concat] at howned
      exact ⟨howned.length_le, howned.mounted⟩

/-- The device disconnects by itself and the user connects again: the tick of the
new timer registers a second listener. -/
def reconnect : List Event :=
  [.interactor (.update 0 .connected), .interactor (.mtuResult 0 247), .interactor (.tick 0),
    .tick 0, .interactor (.update 0 .disconnected), .build, .press,
    .interactor (.update 1 .connected), .interactor (.mtuResult 0 247), .interactor (.tick 0),
    .tick 1]

/-- After a reconnection two listeners of the tab are live. -/
theorem reconnect_listens_twice :
    ¬ ∀ (s : Interactor) (deviceId sopepId : String) (connectionStatus : DeviceConnectionState)
      (es : List Event),
      Throughout step OwnsOneListener (initState s deviceId sopepId connectionStatus) es := by
  intro h
  have hlast := (h {} "d" "s" .disconnected reconnect).last.1
  revert hlast
  decide

end SopepApp.DeviceTab
