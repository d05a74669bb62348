import SopepApp.Ble.Connect

/-!
The notification subscription of `BleSopepInteractor` over the life of the
interactor.

* `Link`: the fields that `enableNotification` and `disableNotification`
  write; `Link.on`, `Link.off` are the two;
* `Subscribes`, `Unsubscribes`: the events that call them;
* `link_step`: what an event does to the link; `calls_step`: the calls it makes;
* `one_notification_listener`: over every run at most one notification
  subscription is live, the stored one, and it is stored exactly while the
  characteristic is.
-/

namespace SopepApp.Connect

open Dart Transition

/-- The fields of the notification part. -/
structure Link where
  characteristic : Option String
  bleNotificationStream : Option ℕ
  notifications : ℕ
  liveNotifications : List ℕ

/-- The notification part of the interactor. -/
def Interactor.link (s : Interactor) : Link where
  characteristic := s.characteristic
  bleNotificationStream := s.bleNotificationStream
  notifications := s.notifications
  liveNotifications := s.liveNotifications

namespace Link

/-- The link after `enableNotification`. -/
def on (l : Link) (deviceId : String) : Link where
  characteristic := some deviceId
  bleNotificationStream := some l.notifications
  notifications := l.notifications + 1
  liveNotifications := l.liveNotifications ++ [l.notifications]

/-- The link after `disableNotification`. -/
def off (l : Link) : Link where
  characteristic := none
  bleNotificationStream := none
  notifications := l.notifications
  liveNotifications := l.liveNotifications.filter fun n => some n ≠ l.bleNotificationStream

/-- The live subscriptions are the stored one, which is there exactly while
there is a characteristic. -/
structure OneListener (l : Link) : Prop where
  live : l.liveNotifications = l.bleNotificationStream.toList
  stored : l.bleNotificationStream.isSome ↔ l.characteristic.isSome

variable {l : Link}

/-- `disableNotification` cancels the one subscription. -/
lemma OneListener.off (h : l.OneListener) : l.off.OneListener where
  live := by
    rw [Link.off, h.live]
    cases l.bleNotificationStream <;> simp
  stored := by simp [Link.off]

/-- `enableNotification` keeps the law where no subscription is stored: it
overwrites the field without cancelling. -/
lemma OneListener.on (h : l.OneListener) (hnone : l.bleNotificationStream = none)
    (deviceId : String) : (l.on deviceId).OneListener where
  live := by
    rw [Link.on, h.live, hnone]
    rfl
  stored := by simp [Link.on]

end Link

variable {s : Interactor}

/-! ### The events that subscribe and unsubscribe -/

/-- The first tick of a set-up timer, with no subscription stored. -/
def Subscribes (s : Interactor) : Event → Prop
  | .tick k => (s.timers[k]?.join).isSome ∧ s.bleNotificationStream = none
  | _ => False

/-- A `disconnect` call, a `disconnected` update that is delivered, and a failed
MTU negotiation. -/
def Unsubscribes (s : Interactor) : Event → Prop
  | .disconnect _ => True
  | .update c .disconnected => ∃ con ∈ s.connections[c]?, con.live = true
  | .mtuResult k mtu => (s.awaitingMtu[k]?).isSome ∧ mtu ≤ 0
  | _ => False

lemma link_disconnect (s : Interactor) (deviceId : String) :
    ((disconnect deviceId).finalState s).link = s.link.off := by
  rw [disconnect_finalState]
  rfl

lemma link_afterMtu (s : Interactor) (setup : Setup) (mtu : ℤ) :
    ((afterMtu setup mtu).finalState s).link = if mtu ≤ 0 then s.link.off else s.link := by
  rw [afterMtu_finalState]
  split_ifs
  · exact link_disconnect { s with mtu := mtu, bleConnError := .getMtuSize } setup.deviceId
  · rfl

lemma link_connectionUpdate (s : Interactor) (con : Connection) (st : DeviceConnectionState) :
    ((connectionUpdate con st).finalState s).link =
      if st = .disconnected then s.link.off else s.link := by
  cases st <;> rfl

/-- A tick subscribes if no subscription is stored, and otherwise leaves the
link alone. -/
lemma link_timerCallback (s : Interactor) (k : ℕ) (setup : Setup) :
    ((timerCallback k setup).finalState s).link =
      if s.bleNotificationStream.isSome then s.link else s.link.on setup.deviceId := by
  rw [timerCallback_finalState]
  split_ifs <;> rfl

/-- **What an event does to the link**: it subscribes, unsubscribes or leaves it
as it is. -/
theorem link_step (s : Interactor) (e : Event) :
    (Subscribes s e ∧ ∃ deviceId, (step s e).link = s.link.on deviceId) ∨
      (Unsubscribes s e ∧ (step s e).link = s.link.off) ∨
      (¬ Subscribes s e ∧ ¬ Unsubscribes s e ∧ (step s e).link = s.link) := by
  have hr := step_reaction s e
  generalize step s e = t at hr ⊢
  cases hr with
  | idle hidle =>
      refine Or.inr (Or.inr ⟨?_, ?_, rfl⟩)
      · cases e with
        | tick k => simp [Subscribes, show s.timers[k]?.join = none from hidle]
        | _ => exact id
      · cases e with
        | update c st =>
            cases st with
            | disconnected => exact hidle
            | _ => exact id
        | mtuResult k mtu => simp [Unsubscribes, show s.awaitingMtu[k]? = none from hidle]
        | disconnect deviceId => exact absurd hidle id
        | _ => exact id
  | @update c con hcon hlive st =>
      rw [link_connectionUpdate]
      cases st with
      | disconnected => exact Or.inr (Or.inl ⟨⟨con, hcon, hlive⟩, rfl⟩)
      | _ => exact Or.inr (Or.inr ⟨id, id, rfl⟩)
  | @mtuResult k setup hk mtu =>
      rw [link_afterMtu]
      by_cases hmtu : mtu ≤ 0
      · exact Or.inr (Or.inl ⟨by simp [Unsubscribes, hk, hmtu], if_pos hmtu⟩)
      · exact Or.inr (Or.inr ⟨id, by simp [Unsubscribes, hmtu], if_neg hmtu⟩)
  | @tick k setup hk =>
      rw [link_timerCallback]
      cases hstream : s.bleNotificationStream with
      | none => exact Or.inl ⟨by simp [Subscribes, hk, hstream], setup.deviceId, rfl⟩
      | some n => exact Or.inr (Or.inr ⟨by simp [Subscribes, hstream], id, rfl⟩)
  | disconnect deviceId => exact Or.inr (Or.inl ⟨trivial, link_disconnect s deviceId⟩)
  | _ => exact Or.inr (Or.inr ⟨id, id, rfl⟩)

/-- **What the set-up timers call**: a tick calls `setTime` if a subscription is
stored and `enableNotification` otherwise; no other event calls anything. -/
theorem calls_step (s : Interactor) (e : Event) :
    (step s e).calls = s.calls ∨ ∃ deviceId, (step s e).calls = s.calls ++
      [if s.bleNotificationStream.isSome then .setTime else .enableNotification deviceId] := by
  have hr := step_reaction s e
  generalize step s e = t at hr ⊢
  cases hr with
  | @update c con _ _ st =>
      left
      cases st <;> rfl
  | mtuResult _ mtu =>
      rw [afterMtu_finalState, disconnect_finalState]
      split_ifs <;> exact Or.inl rfl
  | @tick k setup _ =>
      refine Or.inr ⟨setup.deviceId, ?_⟩
      rw [timerCallback_finalState]
      split_ifs <;> rfl
  | disconnect deviceId =>
      rw [disconnect_finalState]
      exact Or.inl rfl
  | _ => exact Or.inl rfl

/-- An event subscribes only where no subscription is stored. -/
lemma Subscribes.stream_eq_none {e : Event} (h : Subscribes s e) :
    s.bleNotificationStream = none := by
  cases e with
  | tick k => exact h.2
  | _ => exact absurd h id

/-- Every event keeps the law of the one listener. -/
lemma oneListener_step (h : s.link.OneListener) (e : Event) : (step s e).link.OneListener := by
  rcases link_step s e with ⟨hsub, deviceId, hon⟩ | ⟨-, hoff⟩ | ⟨-, -, hsame⟩
  · rw [hon]
    exact h.on hsub.stream_eq_none deviceId
  · rw [hoff]
    exact h.off
  · rw [hsame]
    exact h

/-- **One notification listener**: in every state of every run at most one
subscription is live, it is the stored one, and a subscription is stored exactly
while there is a characteristic. -/
theorem one_notification_listener (es : List Event) :
    Throughout step (fun s => s.liveNotifications.length ≤ 1 ∧
      (∀ n ∈ s.liveNotifications, s.bleNotificationStream = some n) ∧
      (s.bleNotificationStream.isSome ↔ s.characteristic.isSome)) {} es := by
  have hlaw : Throughout step (fun s => s.link.OneListener) {} es :=
    Throughout.of_invariant ⟨rfl, Iff.rfl⟩ fun _ e h => oneListener_step h e
  intro pre hpre
  obtain ⟨hlive, hstored⟩ := hlaw pre hpre
  rw [Interactor.link] at hlive hstored
  dsimp only at hlive hstored
  refine ⟨?_, ?_, hstored⟩
  · rw [hlive]
    cases (run step ({} : Interactor) pre).bleNotificationStream <;> simp
  · intro n hn
    rw [hlive] at hn
    exact Option.mem_toList.mp hn

end SopepApp.Connect
