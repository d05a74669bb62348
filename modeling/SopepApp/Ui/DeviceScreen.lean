import SopepApp.Ble.Commands
import SopepApp.Ble.Subscription
import SopepApp.Firmware.Upload
import SopepApp.ReadData.Dialogs
import SopepApp.Transition.Past

/-!
The commands of the device screen: the buttons of `device_interaction_tab.dart`
and its dialogs over the interactor.

* `Screen`: the interactor, the dialog that is open and the read-data dialogs so
  far; `Button`, `Action`: what the user can press in the tab and in a dialog;
* `step`, `calls`: an event, and the command methods it calls;
* `characteristic_iff`: there is a characteristic exactly if a set-up timer has
  enabled the notifications since they were disabled last;
* `commands_have_target_iff`: every command method is called with a
  characteristic exactly in the runs in which the calls of buttons, dialogs and
  delayed requests come after such a timer; `pressed_too_early` is a press
  before it.
-/

namespace SopepApp.DeviceScreen

open Dart Transition Connect Commands ReadData.Dialogs

/-- The dialog that is open, with the fields that decide what it shows. -/
inductive OpenDialog where
  | cbor | bleService | configure | setTime | priorityData | readData | echo | erase
  | firmware (d : Firmware.Dialog)

/-- The screen of a device. -/
structure Screen where
  interactor : Interactor := {}
  dialog : Option OpenDialog := none
  /-- the read-data dialogs in the order of their opening, closed ones included -/
  readDialogs : List ReadDialog := []

/-- The buttons of the tab. -/
inductive Button where
  | cbor | bleService | deviceInfo | configure | setTime | priorityData | readData | travel
  | firmware | configRanges | echo | erase

/-- The dialog a button opens. -/
def Button.opens : Button → Option OpenDialog
  | .cbor => some .cbor
  | .bleService => some .bleService
  | .configure => some .configure
  | .setTime => some .setTime
  | .priorityData => some .priorityData
  | .readData => some .readData
  | .firmware => some (.firmware {})
  | .echo => some .echo
  | .erase => some .erase
  | .deviceInfo | .travel | .configRanges => none

/-- The commands a button sends: the configure dialog asks for the configuration
in `initState`. -/
def Button.calls : Button → List Command
  | .deviceInfo => [.getDeviceInfo]
  | .travel => [.setTravelMode]
  | .configRanges => [.getConfigRanges]
  | .configure => [.getConfigure]
  | _ => []

/-- What the user can do in a dialog; a text that does not parse throws before
the call and is no action. -/
inductive Action where
  | sendConfigure (configuration : Configuration)
  | sendSetTime (epochTimeSeconds : ℤ)
  /-- the sequence number, if the text is not empty -/
  | sendPriorityData (seq : Option ℤ)
  | sendEcho (bytes : ℤ)
  | erase (data formatData prioData formatPrioData diagData formatDiagData config pairing : Bool)
  /-- Start in the read-data dialog -/
  | startReading
  /-- a tap on a firmware file -/
  | tapFile (contents : List UInt8)
  | scheduleUpdate (time : ℤ)

/-- What happens on the screen. -/
inductive Event where
  | interactor (e : Connect.Event)
  | press (b : Button)
  | act (a : Action)
  /-- a message of the device reaches the listeners -/
  | response (dataMap : DataMap)
  /-- a delayed closure of the read-data dialog `i` fires -/
  | delayedRequest (i : ℕ)
  /-- a firmware file has been read -/
  | fileRead
  | closeDialog

variable (p : Platform) (sopepId : String)

/-- The buttons are enabled while the state published last is `connected`; an
open dialog covers them. -/
def Screen.enabled (s : Screen) : Bool :=
  s.dialog.isNone && (s.interactor.published.getLast?.map Prod.snd == some .connected)

/-- The read-data dialog shows Start. -/
def Screen.canStart (s : Screen) : Bool :=
  s.readDialogs.any fun d => d.mounted && !d.readingInProgress

/-! ### The calls -/

/-- The calls among the commands of the firmware dialog. -/
def ofFirmware : Firmware.Command → Command
  | .startFwUpload => .startFwUpload
  | .sendFwData data => .sendFwData data

/-- The requests of the loop of a dialog. -/
def requests (d : ReadDialog) : List ℤ :=
  match d.loop with
  | some loop => loop.requests
  | none => []

/-- The calls of `getData` that the loops make between two moments. -/
def readCalls (ds ds' : List ReadDialog) : List Command :=
  (List.zipWith (fun d d' => (requests d').drop (requests d).length) ds ds').flatten.map
    fun seq => .getData (some seq)

/-- The calls of the set-up timers between two moments. -/
def timerCalls (s s' : Interactor) : List Command :=
  (s'.calls.drop s.calls.length).filterMap fun c => match c with
    | .setTime => some (.setTime none)
    | .enableNotification _ => none

/-- The calls of an action in the open dialog. -/
def actionCalls (s : Screen) (a : Action) : List Command :=
  match s.dialog, a with
  | some .configure, .sendConfigure configuration => [.setConfigure configuration]
  | some .setTime, .sendSetTime epochTimeSeconds => [.setTime (some epochTimeSeconds)]
  | some .priorityData, .sendPriorityData (some seq) => [.getPriorityData seq]
  | some .priorityData, .sendPriorityData none => [.getOldestPriorityData]
  | some .echo, .sendEcho bytes => [.sendEchoTest bytes]
  | some .erase, .erase data fData prio fPrio diag fDiag config pairing =>
    [.eraseFlash ⟨data, some fData, prio, some fPrio, diag, some fDiag, config, pairing⟩]
  | some .readData, .startReading => if s.canStart then [.getData none] else []
  | some (.firmware d), .tapFile _ => if d.uploadInProgress then [] else [.startFwUpload]
  | some (.firmware d), .scheduleUpdate time =>
    if d.uploadInProgress ∧ d.uploadComplete then [.scheduleFwUpdate time] else []
  | _, _ => []

/-- The open dialog when a message reaches it. -/
def receiveDialog (dataMap : DataMap) : OpenDialog → OpenDialog
  | .firmware d => .firmware (Firmware.step p d (.response dataMap))
  | dialog => dialog

/-- The calls of the firmware dialog on a message. -/
def firmwareCalls (dataMap : DataMap) : OpenDialog → List Command
  | .firmware d =>
    ((Firmware.step p d (.response dataMap)).commands.drop d.commands.length).map ofFirmware
  | _ => []

/-- A message is on the response stream only while a notification subscription is
live. -/
def Screen.receives (s : Screen) : Bool := !s.interactor.liveNotifications.isEmpty

/-- The command methods that an event calls. -/
def calls (s : Screen) : Event → List Command
  | .interactor e => timerCalls s.interactor (Connect.step s.interactor e)
  | .press b => if s.enabled then b.calls else []
  | .act a => actionCalls s a
  | .response dataMap =>
    if s.receives then
      readCalls s.readDialogs (ReadData.Dialogs.step p sopepId s.readDialogs (.message dataMap)) ++
        s.dialog.toList.flatMap (firmwareCalls p dataMap)
    else []
  | .delayedRequest i =>
    readCalls s.readDialogs (ReadData.Dialogs.step p sopepId s.readDialogs (.delayedRequest i))
  | .fileRead => []
  | .closeDialog => []

/-! ### The events -/

/-- What an action does to the screen; without a characteristic the call throws
before the rest of the handler. -/
def act (s : Screen) (a : Action) : Screen :=
  let hasTarget := s.interactor.characteristic.isSome
  match s.dialog, a with
  | some .readData, .startReading =>
    if s.canStart ∧ hasTarget then
      { s with readDialogs := ReadData.Dialogs.step p sopepId s.readDialogs .startPressed }
    else s
  | some (.firmware d), .tapFile contents =>
    if d.uploadInProgress then s
    else if hasTarget then
      { s with dialog := some (.firmware (Firmware.step p d (.chooseFile contents))) }
    else
      { s with dialog := some (.firmware { d with
          fwFile := some contents
          commands := d.commands ++ [.startFwUpload] }) }
  | some (.firmware d), .scheduleUpdate _ =>
    if d.uploadInProgress ∧ d.uploadComplete ∧ hasTarget then { s with dialog := none } else s
  | _, _ => s

/-- The open dialog when a firmware file has been read. -/
def fileRead : OpenDialog → OpenDialog
  | .firmware d => .firmware (Firmware.step p d .fileRead)
  | dialog => dialog

/-- One event. -/
def step (s : Screen) : Event → Screen
  | .interactor e => { s with interactor := Connect.step s.interactor e }
  | .press b =>
    if s.enabled then
      { s with
        dialog := b.opens
        readDialogs :=
          match b with
          | .readData => ReadData.Dialogs.step p sopepId s.readDialogs .openDialog
          | _ => s.readDialogs }
    else s
  | .act a => act p sopepId s a
  | .response dataMap =>
    if s.receives then
      { s with
        dialog := s.dialog.map (receiveDialog p dataMap)
        readDialogs := ReadData.Dialogs.step p sopepId s.readDialogs (.message dataMap) }
    else s
  | .delayedRequest i =>
    { s with readDialogs := ReadData.Dialogs.step p sopepId s.readDialogs (.delayedRequest i) }
  | .fileRead => { s with dialog := s.dialog.map (fileRead p) }
  | .closeDialog =>
    { s with
      dialog := none
      readDialogs := ReadData.Dialogs.step p sopepId s.readDialogs .close }

/-! ### The calls of the set-up timers -/

/-- A timer calls `setTime` only with a stored subscription. -/
lemma isSome_of_timerCalls {s : Interactor} {e : Connect.Event}
    (h : timerCalls s (Connect.step s e) ≠ []) : s.bleNotificationStream.isSome := by
  rw [timerCalls] at h
  rcases calls_step s e with hsame | ⟨deviceId, hcall⟩
  · rw [hsame, List.drop_length] at h
    exact absurd rfl h
  · rw [hcall, List.drop_left] at h
    by_contra hnone
    rw [if_neg hnone] at h
    exact absurd rfl h

/-! ### The characteristic along a run -/

variable {p : Platform} {sopepId : String} {s : Screen}

/-- A tick of a set-up timer that enables the notifications. -/
def Enables (s : Screen) (e : Event) : Prop :=
  ∃ e', e = .interactor e' ∧ Subscribes s.interactor e'

/-- A call of `disconnect`, a `disconnected` update that is delivered, or a failed
MTU negotiation. -/
def Disables (s : Screen) (e : Event) : Prop :=
  ∃ e', e = .interactor e' ∧ Unsubscribes s.interactor e'

lemma act_interactor (s : Screen) (a : Action) :
    (act p sopepId s a).interactor = s.interactor := by
  unfold act
  dsimp only
  split
  · split_ifs <;> rfl
  · split_ifs <;> rfl
  · split_ifs <;> rfl
  · rfl

variable (p sopepId) in
/-- Only events of the interactor change it. -/
lemma step_interactor (s : Screen) (e : Event) :
    (∃ e', e = .interactor e' ∧ (step p sopepId s e).interactor = Connect.step s.interactor e') ∨
      (∀ e', e ≠ .interactor e') ∧ (step p sopepId s e).interactor = s.interactor := by
  cases e with
  | interactor e' => exact Or.inl ⟨e', rfl, rfl⟩
  | press b =>
      refine Or.inr ⟨nofun, ?_⟩
      unfold step
      split_ifs <;> rfl
  | act a => exact Or.inr ⟨nofun, act_interactor s a⟩
  | response m =>
      refine Or.inr ⟨nofun, ?_⟩
      unfold step
      split_ifs <;> rfl
  | _ => exact Or.inr ⟨nofun, rfl⟩

lemma not_subscribes_of_unsubscribes {t : Interactor} {e : Connect.Event}
    (h : Unsubscribes t e) : ¬ Subscribes t e := by
  cases e with
  | tick k => exact absurd h id
  | _ => exact id

/-- The characteristic is set by the events that enable the notifications and
cleared by those that disable them. -/
lemma characteristic_step_iff (s : Screen) (e : Event) :
    (step p sopepId s e).interactor.characteristic.isSome ↔
      Enables s e ∨ s.interactor.characteristic.isSome ∧ ¬ Disables s e := by
  rcases step_interactor p sopepId s e with ⟨e', rfl, heq⟩ | ⟨hne, heq⟩
  · have henables : Enables s (.interactor e') ↔ Subscribes s.interactor e' := by
      simp [Enables]
    have hdisables : Disables s (.interactor e') ↔ Unsubscribes s.interactor e' := by
      simp [Disables]
    rw [heq, henables, hdisables]
    change (Connect.step s.interactor e').link.characteristic.isSome ↔ _
    rcases link_step s.interactor e' with
      ⟨hsub, deviceId, hon⟩ | ⟨hunsub, hoff⟩ | ⟨hsub, hunsub, hsame⟩
    · rw [hon]
      exact iff_of_true rfl (Or.inl hsub)
    · rw [hoff]
      refine iff_of_false (by simp [Link.off]) ?_
      rintro (hsub | ⟨-, hnot⟩)
      · exact not_subscribes_of_unsubscribes hunsub hsub
      · exact hnot hunsub
    · rw [hsame, or_iff_right hsub, and_iff_left hunsub]
      rfl
  · rw [heq]
    have henables : ¬ Enables s e := by
      rintro ⟨e', he, -⟩
      exact hne e' he
    have hdisables : ¬ Disables s e := by
      rintro ⟨e', he, -⟩
      exact hne e' he
    rw [or_iff_right henables, and_iff_left hdisables]

/-- **There is a characteristic** exactly if the notifications have been enabled
since they were disabled last. -/
theorem characteristic_iff (es : List Event) :
    (run (step p sopepId) {} es).interactor.characteristic.isSome ↔
      Since (step p sopepId) Enables Disables {} es :=
  iff_since (I := fun _ => True) (K := fun s => s.interactor.characteristic.isSome) trivial
    (by simp) (fun _ _ _ => trivial) fun s e _ => characteristic_step_iff s e

/-! ### Commands and their target -/

/-- A call by the user or by a delayed closure, not by the interactor or a
message. -/
def ByUser : Event → Prop
  | .press _ => True
  | .act _ => True
  | .delayedRequest _ => True
  | _ => False

/-- The command methods that the event calls are called with a characteristic,
and their null assertion does not fail, whatever the clock says. -/
def Targeted (p : Platform) (sopepId : String) (s : Screen) (e : Event) : Prop :=
  ∀ c ∈ calls p sopepId s e, s.interactor.characteristic.isSome ∧
    ∀ now, ∃ w, c.call now s.interactor.characteristic = .ok w

lemma formats_of_mem_readCalls {ds ds' : List ReadDialog} {c : Command}
    (h : c ∈ readCalls ds ds') : c.Formats := by
  obtain ⟨seq, -, rfl⟩ := List.mem_map.mp h
  exact trivial

/-- The erase dialog has a format for each area. -/
lemma selection_of_mem_actionCalls {a : Action} {selection : Selection}
    (h : .eraseFlash selection ∈ actionCalls s a) :
    ∃ data fData prio fPrio diag fDiag config pairing,
      selection = ⟨data, some fData, prio, some fPrio, diag, some fDiag, config, pairing⟩ := by
  unfold actionCalls at h
  grind

lemma formats_of_mem_actionCalls {a : Action} {c : Command} (h : c ∈ actionCalls s a) :
    c.Formats := by
  cases c with
  | eraseFlash selection =>
      obtain ⟨data, fData, prio, fPrio, diag, fDiag, config, pairing, rfl⟩ :=
        selection_of_mem_actionCalls h
      exact ⟨fun _ => rfl, fun _ => rfl, fun _ => rfl⟩
  | _ => trivial

/-- The dialogs give `eraseFlash` its formats. -/
lemma formats_of_mem_calls {e : Event} {c : Command} (h : c ∈ calls p sopepId s e) : c.Formats := by
  cases e with
  | interactor e =>
      obtain ⟨call, -, hcall⟩ := List.mem_filterMap.mp h
      cases call with
      | setTime =>
          obtain rfl := Option.some_inj.mp hcall
          exact trivial
      | enableNotification deviceId => exact absurd hcall (by simp)
  | press b =>
      rw [calls] at h
      split_ifs at h
      · cases b <;> simp only [Button.calls, List.mem_singleton, List.not_mem_nil] at h <;>
          subst h <;> exact trivial
      · exact absurd h List.not_mem_nil
  | act a => exact formats_of_mem_actionCalls h
  | response m =>
      rw [calls] at h
      split_ifs at h
      · rcases List.mem_append.mp h with hread | hfirmware
        · exact formats_of_mem_readCalls hread
        · obtain ⟨dialog, -, hmem⟩ := List.mem_flatMap.mp hfirmware
          cases dialog with
          | firmware d =>
              obtain ⟨call, -, rfl⟩ := List.mem_map.mp hmem
              cases call <;> exact trivial
          | _ => exact absurd hmem List.not_mem_nil
      · exact absurd h List.not_mem_nil
  | delayedRequest i => exact formats_of_mem_readCalls h
  | fileRead => exact absurd h List.not_mem_nil
  | closeDialog => exact absurd h List.not_mem_nil

/-- A target is all that the calls need. -/
lemma targeted_iff (s : Screen) (e : Event) :
    Targeted p sopepId s e ↔
      (calls p sopepId s e ≠ [] → s.interactor.characteristic.isSome) := by
  refine ⟨fun h hne => ?_, fun h c hc => ?_⟩
  · obtain ⟨c, hc⟩ := List.exists_mem_of_ne_nil _ hne
    exact (h c hc).1
  · have htarget := h (List.ne_nil_of_mem hc)
    exact ⟨htarget, fun now => call_ok now (formats_of_mem_calls hc) htarget⟩

/-- The law of the one listener holds along every run of the screen. -/
lemma oneListener_run (es : List Event) :
    (run (step p sopepId) {} es).interactor.link.OneListener := by
  have hinv : Throughout (step p sopepId) (fun s => s.interactor.link.OneListener) {} es := by
    refine Throughout.of_invariant ⟨rfl, Iff.rfl⟩ fun s e h => ?_
    rcases step_interactor p sopepId s e with ⟨e', -, heq⟩ | ⟨-, heq⟩
    · rw [heq]
      exact oneListener_step h e'
    · rw [heq]
      exact h
  exact hinv.last

/-- The calls of timers and messages have a target: a subscription is stored
exactly while there is a characteristic. -/
lemma targeted_of_not_byUser (h : s.interactor.link.OneListener) {e : Event} (he : ¬ ByUser e) :
    Targeted p sopepId s e := by
  rw [targeted_iff]
  intro hne
  have hstored : s.interactor.bleNotificationStream.isSome ↔
      s.interactor.characteristic.isSome := h.stored
  have hlive : s.interactor.liveNotifications = s.interactor.bleNotificationStream.toList := h.live
  rw [← hstored]
  cases e with
  | interactor e => exact isSome_of_timerCalls hne
  | response m =>
      rw [calls] at hne
      split_ifs at hne with hreceives
      · rw [Screen.receives, hlive] at hreceives
        cases hstream : s.interactor.bleNotificationStream with
        | none => rw [hstream] at hreceives; exact absurd hreceives Bool.false_ne_true
        | some n => rfl
      · exact absurd rfl hne
  | fileRead => exact absurd rfl hne
  | closeDialog => exact absurd rfl hne
  | _ => exact absurd trivial he

/-- **Every command has a target** exactly in the runs in which the calls of
buttons, dialogs and delayed requests come after a set-up timer has enabled the
notifications, with no disconnect and no failed MTU negotiation since. -/
theorem commands_have_target_iff (p : Platform) (sopepId : String) (es : List Event) :
    Always (step p sopepId) (Targeted p sopepId) {} es ↔
      EachEvent (fun pre e => ByUser e →
        calls p sopepId (run (step p sopepId) {} pre) e ≠ [] →
          Since (step p sopepId) Enables Disables {} pre) es := by
  refine forall_congr' fun pre => forall_congr' fun e => forall_congr' fun post =>
    imp_congr_right fun _ => ?_
  dsimp only
  rw [← characteristic_iff]
  by_cases he : ByUser e
  · rw [targeted_iff]
    exact ⟨fun h _ => h, fun h => h he⟩
  · exact iff_of_true (targeted_of_not_byUser (oneListener_run pre) he) fun h => absurd h he

/-- Device Info right after the connection is made: the notifications are enabled
a second later. -/
theorem pressed_too_early :
    ¬ ∀ (p : Platform) (sopepId : String) (es : List Event),
      Always (step p sopepId) (Targeted p sopepId) {} es := by
  intro h
  have hpress := h ⟨fun _ => "", fun _ _ => ""⟩ ""
    [.interactor (.connect "d" "s"), .interactor (.update 0 .connected), .press .deviceInfo]
    [.interactor (.connect "d" "s"), .interactor (.update 0 .connected)] (.press .deviceInfo) [] rfl
  have htarget := (hpress .getDeviceInfo (List.mem_singleton_self _)).1
  exact absurd htarget Bool.false_ne_true

end SopepApp.DeviceScreen
