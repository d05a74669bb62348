import SopepApp.Ble.Receive
import SopepApp.Ui.TrafficTest

/-!
The received bytes of the traffic test against the chunks that arrive.

* `Wire`, `wireStep`: the receive path and the tab that listens to its responses;
* `heard`: the bytes of a chunk, unless the codec throws on it;
* `counted_accept`: they are in the count of a response or wait for one;
* `rx_bytes_exact_iff`: the counter of a test is the number of bytes that have
  arrived since its Start exactly if no byte waits for a response and the codec
  has thrown on none.
-/

namespace SopepApp.TrafficTab

open Dart Transition

variable (p : Platform) (pkg : Packages)

/-! ### The tab over the receive path -/

/-- The receive path and the tab. -/
structure Wire where
  receiver : Receive.Receiver
  tab : Tab

/-- What happens while the tab is shown and the device connected. -/
inductive WireEvent where
  /-- the device notifies a chunk, at the time `now` -/
  | data (now : ℤ) (chunk : List UInt8)
  | press
  | tick (n : ℕ)
  | connection (status : Connect.DeviceConnectionState)

/-- The notification of a chunk. -/
def notify (now : ℤ) (chunk : List UInt8) : Receive.Event := .data now chunk

/-- A response as the tab receives it. -/
def message (response : Receive.ResponseData) : Event :=
  .message (response.dataMap.getD ⟨[], List.nodup_nil⟩) response.dataMapBytes

/-- An event: the listener of the tab runs once for each response that a chunk
adds to the stream. -/
def wireStep (w : Wire) : WireEvent → Wire
  | .data now chunk =>
    ⟨Receive.step p pkg w.receiver (notify now chunk),
      run step w.tab ((Receive.added p pkg w.receiver (notify now chunk)).map message)⟩
  | .press => { w with tab := step w.tab .press }
  | .tick n => { w with tab := step w.tab (.tick n) }
  | .connection status => { w with tab := step w.tab (.connection status) }

/-- The chunks among the events. -/
def chunks (es : List WireEvent) : List (List UInt8) :=
  es.filterMap fun e => match e with
    | .data _ chunk => some chunk
    | _ => none

/-- The bytes of a chunk that are counted: none if the codec throws on it. -/
def heard (q : Receive.Pending) (chunk : List UInt8) : ℕ :=
  match (decoder pkg chunk).run q.raw with
  | .error _ _ => 0
  | .ok _ _ => chunk.length

/-- The bytes that an event adds to what is counted or waits. -/
def gain (w : Wire) : WireEvent → ℤ
  | .data _ chunk => heard pkg w.receiver.pending chunk
  | .press => 0
  | .tick _ => 0
  | .connection _ => 0

/-- The chunks on which the codec throws. -/
def thrown (w : Wire) : WireEvent → List (List UInt8)
  | .data _ chunk =>
    match (decoder pkg chunk).run w.receiver.dataRaw with
    | .error _ _ => [chunk]
    | .ok _ _ => []
  | .press => []
  | .tick _ => []
  | .connection _ => []

variable {p pkg}

/-! ### What is counted -/

/-- **A chunk is counted** with the response that it completes, or waits for
one. -/
lemma counted_accept (q : Receive.Pending) (chunk : List UInt8) :
    ((Receive.delivers pkg q chunk).map Prod.snd).sum + (Receive.accept pkg q chunk).counted =
      q.counted + heard pkg q chunk := by
  rw [heard, Receive.accept, Receive.delivers]
  cases (decoder pkg chunk).run q.raw with
  | error err raw => simp
  | ok r raw =>
      cases r with
      | none => simp
      | some m =>
          dsimp only
          split_ifs
          · simp
          · simp

/-- Responses during a test. -/
lemma run_messages {rs : List Receive.ResponseData} : ∀ {s : Tab}, s.listens →
    s.startTestFlag = true →
    (run step s (rs.map message)).listens ∧
      (run step s (rs.map message)).totalRxBytes =
        s.totalRxBytes + ((rs.map fun r => r.dataMapBytes).sum : ℕ) := by
  induction rs with
  | nil =>
      intro s hs _
      exact ⟨hs, by simp⟩
  | cons r rs ih =>
      intro s hs hflag
      have hone : (step s (message r)).listens ∧ (step s (message r)).startTestFlag = true ∧
          (step s (message r)).totalRxBytes = s.totalRxBytes + r.dataMapBytes := by
        rw [message, step, if_pos hs, finalState_onResponse_of_flag hflag]
        cases s.characteristic with
        | none => exact ⟨hs, hflag, rfl⟩
        | some target => exact ⟨hs, hflag, rfl⟩
      obtain ⟨hlistens, hflag', hbytes⟩ := hone
      obtain ⟨hlistens', hbytes'⟩ := ih hlistens hflag'
      rw [List.map_cons, run_cons]
      refine ⟨hlistens', ?_⟩
      rw [hbytes', hbytes, List.map_cons, List.sum_cons]
      push_cast
      ring

/-- During a test, the button, the timers and the connection add nothing. -/
lemma quiet_step {s : Tab} (hs : s.listens) (hflag : s.startTestFlag = true) {e : Event}
    (he : e = .press ∨ (∃ n, e = .tick n) ∨ ∃ status, e = .connection status) :
    (step s e).listens ∧ (step s e).totalRxBytes = s.totalRxBytes := by
  have hreaction := step_reaction s e
  generalize step s e = s' at hreaction
  rcases he with rfl | ⟨n, rfl⟩ | ⟨status, rfl⟩
  all_goals cases hreaction
  all_goals first
    | exact ⟨hs, rfl⟩
    | simp_all

/-- What holds during a test: one subscription is live, and the tab listens. -/
def Listening (w : Wire) : Prop :=
  (∃ n, w.receiver.link.liveNotifications = [n]) ∧ w.tab.listens

/-- The bytes that have been counted, and those that wait. -/
def counted (w : Wire) : ℤ := w.tab.totalRxBytes + w.receiver.dataMapBytes

/-- **An event during a test** adds the bytes that it brings. -/
lemma counted_wireStep {w : Wire} (h : Listening w) (hflag : w.tab.startTestFlag = true)
    (e : WireEvent) :
    Listening (wireStep p pkg w e) ∧ counted (wireStep p pkg w e) = counted w + gain pkg w e := by
  obtain ⟨⟨n, hlive⟩, hlistens⟩ := h
  cases e with
  | data now chunk =>
      have hstep : Receive.step p pkg w.receiver (notify now chunk) = _ :=
        Receive.step_data hlive (now, chunk)
      obtain ⟨hpending, hlink, rs, hrs, hdelivers⟩ :=
        @Receive.pending_notification p pkg w.receiver now chunk
      rw [← hstep] at hpending hlink hrs
      have hadded : Receive.added p pkg w.receiver (notify now chunk) = rs := by
        rw [Receive.added, hrs, List.drop_left]
      obtain ⟨htab, hbytes⟩ := @run_messages rs _ hlistens hflag
      have hsum : (rs.map fun r => r.dataMapBytes).sum =
          ((Receive.delivers pkg w.receiver.pending chunk).map Prod.snd).sum := by
        rw [← hdelivers, List.map_map]
        rfl
      have hconserved := @counted_accept pkg w.receiver.pending chunk
      refine ⟨⟨⟨n, by rw [wireStep, hlink, hlive]⟩, ?_⟩, ?_⟩
      · rw [wireStep, hadded]
        exact htab
      · have hcount := congrArg Receive.Pending.counted hpending
        change (Receive.step p pkg w.receiver (notify now chunk)).dataMapBytes = _ at hcount
        rw [counted, counted, wireStep, hadded, hbytes, hsum, gain, hcount]
        change _ = w.tab.totalRxBytes + (w.receiver.pending.counted : ℤ) + _
        omega
  | press =>
      obtain ⟨htab, hbytes⟩ := quiet_step hlistens hflag (Or.inl rfl)
      exact ⟨⟨⟨n, hlive⟩, htab⟩, by rw [counted, counted, wireStep, hbytes, gain, add_zero]⟩
  | tick k =>
      obtain ⟨htab, hbytes⟩ := quiet_step hlistens hflag (Or.inr (Or.inl ⟨k, rfl⟩))
      exact ⟨⟨⟨n, hlive⟩, htab⟩, by rw [counted, counted, wireStep, hbytes, gain, add_zero]⟩
  | connection status =>
      obtain ⟨htab, hbytes⟩ := quiet_step hlistens hflag (Or.inr (Or.inr ⟨status, rfl⟩))
      exact ⟨⟨⟨n, hlive⟩, htab⟩, by rw [counted, counted, wireStep, hbytes, gain, add_zero]⟩

/-! ### A test -/

/-- A test runs before the event. -/
def Testing (w : Wire) (_ : WireEvent) : Prop := w.tab.startTestFlag = true

/-- The counters at Start. -/
lemma start_rx {s : Tab} (hen : s.enabled) (hflag : s.startTestFlag = false) :
    (step s .press).listens ∧ (step s .press).totalRxBytes = 0 := by
  have hs : step s .press = startTest.finalState s := by
    rw [step, if_pos hen, pressed, Effect.finalState_get_bind, if_pos (ne_true_of_eq_false hflag)]
  obtain ⟨hmounted, hsubscribed, -⟩ := hen
  rw [hs, finalState_startTest]
  cases s.characteristic with
  | none => exact ⟨⟨hmounted, hsubscribed⟩, rfl⟩
  | some target => exact ⟨⟨hmounted, hsubscribed⟩, rfl⟩

/-- The bytes that are counted are those that arrive, without those of the chunks on
which the codec throws. -/
lemma sum_gain (w : Wire) (es : List WireEvent) :
    (outputs (wireStep p pkg) (fun w e => [gain pkg w e]) w es).sum +
        ((outputs (wireStep p pkg) (thrown pkg) w es).flatten.length : ℤ) =
      ((chunks es).flatten.length : ℤ) := by
  induction es generalizing w with
  | nil => rfl
  | cons e es ih =>
      have hrest := ih (wireStep p pkg w e)
      rw [outputs, outputs, List.sum_append, List.sum_singleton, List.flatten_append,
        List.length_append]
      cases e with
      | data now chunk =>
          have hone : gain pkg w (.data now chunk) +
              ((thrown pkg w (.data now chunk)).flatten.length : ℤ) = chunk.length := by
            rw [gain, heard, thrown, show w.receiver.pending.raw = w.receiver.dataRaw from rfl]
            cases (decoder pkg chunk).run w.receiver.dataRaw with
            | error err raw => simp
            | ok r raw => simp
          have hchunks : chunks (.data now chunk :: es) = chunk :: chunks es := rfl
          rw [hchunks, List.flatten_cons, List.length_append]
          push_cast
          omega
      | press | tick n | connection status =>
          simpa [gain, thrown, chunks] using hrest

/-- **The received bytes of a test**: if no byte waits for a response at its Start,
then in every state of the test the counter is the number of bytes that have
arrived since exactly if none waits and the codec has thrown on no byte;
otherwise it falls short by these. -/
theorem rx_bytes_exact_iff {w : Wire} {n : ℕ} (hlive : w.receiver.link.liveNotifications = [n])
    (hen : w.tab.enabled) (hflag : w.tab.startTestFlag = false)
    (hnone : w.receiver.dataMapBytes = 0) (es : List WireEvent)
    (htest : Always (wireStep p pkg) Testing (wireStep p pkg w .press) es) :
    let w' := run (wireStep p pkg) w (.press :: es)
    let lost := (outputs (wireStep p pkg) (thrown pkg) w (.press :: es)).flatten
    w'.tab.totalRxBytes + w'.receiver.dataMapBytes + lost.length = (chunks es).flatten.length ∧
      (w'.tab.totalRxBytes = (chunks es).flatten.length ↔
        w'.receiver.dataMapBytes = 0 ∧ lost = []) := by
  intro w' lost
  obtain ⟨hlistens, hzero⟩ := start_rx hen hflag
  obtain ⟨-, hbalance⟩ := htest.balance (I := Listening) (μ := counted) ⟨⟨n, hlive⟩, hlistens⟩
    fun t e ht hrunning => counted_wireStep ht hrunning e
  have hsum := @sum_gain p pkg (wireStep p pkg w .press) es
  have hlost : lost =
      (outputs (wireStep p pkg) (thrown pkg) (wireStep p pkg w .press) es).flatten := rfl
  have hstart : counted (wireStep p pkg w .press) = 0 := by
    rw [counted, wireStep, hzero, hnone]
    rfl
  have hall : counted w' + lost.length = (chunks es).flatten.length := by
    rw [hstart, zero_add] at hbalance
    rw [hlost, ← hsum, ← hbalance]
    rfl
  rw [counted] at hall
  refine ⟨hall, ?_⟩
  rw [← List.length_eq_zero_iff]
  omega

instance (w : Wire) (e : WireEvent) : Decidable (Testing w e) :=
  inferInstanceAs (Decidable (w.tab.startTestFlag = true))

/-- The tab on a device that has just been connected. -/
def sampleWire : Wire :=
  ⟨Receive.enableNotification "A" "" {}, initState 247 .connected (some "A")⟩

/-- A response in two chunks, with a tick between them. -/
theorem rx_bytes_exact_sample :
    (run (wireStep Receive.midnight samplePackages) sampleWire [.press, .data 0 (fwBlockFrame.take 10),
      .tick 0, .data 1 (fwBlockFrame.drop 10)]).tab.totalRxBytes = 21 := by
  have htest : Always (wireStep Receive.midnight samplePackages) Testing
      (wireStep Receive.midnight samplePackages sampleWire .press) [.data 0 (fwBlockFrame.take 10), .tick 0,
        .data 1 (fwBlockFrame.drop 10)] := by decide +kernel
  have hlive : sampleWire.receiver.link.liveNotifications = [0] := rfl
  refine (rx_bytes_exact_iff hlive (by decide) rfl rfl _ htest).2.mpr ⟨?_, ?_⟩
  · decide +kernel
  · decide +kernel

end SopepApp.TrafficTab
