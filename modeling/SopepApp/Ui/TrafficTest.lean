import SopepApp.Codec.Reference
import SopepApp.Ui.TrafficTab

/-!
The test of the traffic tab: its logging, its clock and its accounts.

* `logging_iff`: logging is off exactly while a test runs, exactly in the runs in
  which no tick ends a test; `logging_stays_off` is a run in which one does;
* `one_clock_iff`: at most one clock counts the seconds exactly in the runs in
  which a test is started after the timer of the last one has been cancelled;
  `restart_doubles_clock` is a run of a Stop and a Start between two ticks;
* `Rig`: the tab with the MTU of its interactor, which may change under it;
* `accounts_iff`: the counters of a test agree with what has been sent and received
  exactly if the echo of Start is sent, every message of the test is a response to
  an echo and is answered, and the MTU stays the one that the tab read when it was
  opened.
-/

namespace SopepApp.TrafficTab

open Dart Transition Connect

variable {s : Tab}

/-! ### Logging -/

/-- Logging is off exactly while a test runs. -/
def LoggingMatches (s : Tab) : Prop :=
  s.mounted = true → (s.enableLogging = false ↔ s.startTestFlag = true)

/-- A tick ends the test of a mounted tab: the device is disconnected, and the echo
before that check could still be sent. -/
def EndsTest (s : Tab) : Event → Prop
  | .tick n => n ∈ s.timers ∧ s.mounted = true ∧ s.startTestFlag = true ∧
      s.characteristic.isSome ∧ s.deviceConnectionStatus = .disconnected
  | _ => False

/-- An event keeps the two flags in step unless it is a tick that ends the test. -/
lemma loggingMatches_step_iff (h : LoggingMatches s) (e : Event) :
    LoggingMatches (step s e) ↔ ¬ EndsTest s e := by
  have hreaction := step_reaction s e
  generalize step s e = s' at hreaction
  cases hreaction with
  | idle hidle =>
      refine iff_of_true h ?_
      cases e with
      | tick n =>
          rintro ⟨hn, -, -, hsome, -⟩
          rw [(hidle hn).2] at hsome
          exact absurd hsome (by simp)
      | _ => exact id
  | start => exact iff_of_true (fun _ => iff_of_true rfl rfl) id
  | startFails => exact iff_of_true (fun _ => iff_of_true rfl rfl) id
  | stop =>
      refine iff_of_true (fun _ => iff_of_false ?_ ?_) id
      · exact Bool.false_ne_true.symm
      · exact Bool.false_ne_true
  | @tick n hn hflag target hc =>
      have hsome : s.characteristic.isSome := by rw [hc]; rfl
      by_cases hdis : s.deviceConnectionStatus = .disconnected
      · by_cases hmounted : s.mounted = true
        · refine iff_of_false (fun hmatch => ?_) (not_not.mpr ⟨hn, hmounted, hflag, hsome, hdis⟩)
          have hoff := (h hmounted).mpr hflag
          have hend := (hmatch hmounted).mp hoff
          rw [checked_eq, if_pos (by exact hdis)] at hend
          exact absurd hend Bool.false_ne_true
        · exact iff_of_true (fun hm => absurd hm hmounted) fun hends => hmounted hends.2.1
      · refine iff_of_true ?_ fun hends => hdis hends.2.2.2.2
        rw [checked_eq, if_neg (by exact hdis)]
        exact h
  | cancel hn hflag =>
      refine iff_of_true h fun hends => ?_
      exact absurd (hflag.symm.trans hends.2.2.1) Bool.false_ne_true
  | answer => exact iff_of_true h id
  | answerFails => exact iff_of_true h id
  | connection => exact iff_of_true h id
  | characteristic => exact iff_of_true h id
  | dispose => exact iff_of_true (fun hm => absurd hm Bool.false_ne_true) id
  | disposeFails => exact iff_of_true (fun hm => absurd hm Bool.false_ne_true) id

/-- **Logging is off exactly while a test runs**, in every state of a run of the
mounted tab, exactly in the runs in which no tick ends a test because the device is
disconnected: only the button and `dispose` switch logging on again. -/
theorem logging_iff (geMtuBytes : ℤ) (status : DeviceConnectionState)
    (characteristic : Option String) (es : List Event) :
    Throughout step LoggingMatches (initState geMtuBytes status characteristic) es ↔
      Always step (fun s e => ¬ EndsTest s e) (initState geMtuBytes status characteristic) es :=
  throughout_iff_always (I := fun _ => True) trivial
    (fun _ => iff_of_false Bool.false_ne_true.symm Bool.false_ne_true) (fun _ _ _ => trivial)
    fun _ e _ h => loggingMatches_step_iff h e

/-- Once the tab is gone logging is on, as the next tab finds it. -/
theorem logging_after_dispose (geMtuBytes : ℤ) (status : DeviceConnectionState)
    (characteristic : Option String) (es : List Event) :
    Throughout step (fun s => s.mounted = false ∨ s.subscribed = false → s.enableLogging = true)
      (initState geMtuBytes status characteristic) es := by
  refine Throughout.of_invariant (fun _ => rfl) fun s e h => ?_
  have hreaction := step_reaction s e
  generalize step s e = s' at hreaction
  cases hreaction with
  | start hen => exact fun hgone => absurd hgone (by simp [hen.1, hen.2.1, Tab.begin, Tab.echo,
      Tab.monitored, Tab.sent])
  | startFails hen => exact fun hgone => absurd hgone (by simp [hen.1, hen.2.1, Tab.begin])
  | stop => exact fun _ => rfl
  | dispose => exact fun _ => rfl
  | disposeFails _ hsub => exact fun _ => h (Or.inr hsub)
  | _ => exact h

/-- The connection is lost during a test, and the timer of the connection, created
before, enables the notification once more before the next tick. -/
theorem logging_stays_off : ¬ ∀ (geMtuBytes : ℤ) (status : DeviceConnectionState)
    (characteristic : Option String) (es : List Event),
    Throughout step LoggingMatches (initState geMtuBytes status characteristic) es := by
  intro h
  have hlast := (h 247 .connected (some "A") [.press, .connection .disconnected,
    .characteristic none, .characteristic (some "A"), .tick 0]).last rfl
  exact absurd (hlast.mp rfl) Bool.false_ne_true

/-! ### The clock of a test -/

/-- A test runs. -/
def Running (s : Tab) (_ : Event) : Prop := s.startTestFlag = true

/-- While a test runs at most one monitor timer is live. -/
def OneTimer (s : Tab) : Prop := s.startTestFlag = true → s.timers.length ≤ 1

/-- The monitor timers that fire, in order. -/
def ticks (es : List Event) : List ℕ :=
  es.filterMap fun e => match e with
    | .tick n => some n
    | _ => none

/-- The timer of a step that sends an echo because of a tick. -/
def tickEcho (s : Tab) : Event → List ℕ
  | .tick n => if n ∈ s.timers ∧ s.startTestFlag = true ∧ s.characteristic.isSome then [n] else []
  | _ => []

/-- **At most one clock runs**: never two timers during a test, and in a second of a
test, in which no timer fires twice, the seconds grow by one at most, as does the
number of echoes that ticks have sent. -/
structure OneClock (s₀ : Tab) (es : List Event) : Prop where
  oneTimer : Throughout step OneTimer s₀ es
  perSecond : ∀ pre second post, es = pre ++ second ++ post →
    Always step Running (run step s₀ pre) second → (ticks second).Nodup →
      (run step (run step s₀ pre) second).timeCounterSeconds ≤
        (run step s₀ pre).timeCounterSeconds + 1 ∧
      (outputs step tickEcho (run step s₀ pre) second).length ≤ 1

/-- A press starts a test and its timer. -/
def StartsTimer (s : Tab) : Event → Prop
  | .press => s.enabled ∧ s.startTestFlag = false ∧ s.characteristic.isSome
  | _ => False

/-- A test is started only once the timer of the last one has been cancelled. -/
def StartsAfterCancel (s : Tab) (e : Event) : Prop := StartsTimer s e → s.timers = []

/-- Only a start adds a timer, and it sets the flag. -/
lemma timers_step (s : Tab) (e : Event) :
    (StartsTimer s e ∧ (step s e).startTestFlag = true ∧
      (step s e).timers.length = s.timers.length + 1) ∨
    ¬ StartsTimer s e ∧ (step s e).timers.length ≤ s.timers.length := by
  have hreaction := step_reaction s e
  generalize step s e = s' at hreaction
  cases hreaction with
  | idle h =>
      refine Or.inr ⟨?_, le_rfl⟩
      cases e with
      | press => exact fun hs => h hs.1
      | _ => exact id
  | start h hflag hc =>
      refine Or.inl ⟨⟨h, hflag, by rw [hc]; rfl⟩, rfl, ?_⟩
      exact List.length_append
  | startFails h hflag hc =>
      refine Or.inr ⟨fun hs => ?_, le_rfl⟩
      have hsome := hs.2.2
      rw [hc] at hsome
      exact absurd hsome (by simp)
  | stop h hflag =>
      exact Or.inr ⟨fun hs => absurd (hflag.symm.trans hs.2.1) (by simp), le_rfl⟩
  | cancel => exact Or.inr ⟨id, List.length_filter_le _ _⟩
  | dispose => exact Or.inr ⟨id, List.length_filter_le _ _⟩
  | _ => exact Or.inr ⟨id, le_rfl⟩

/-- A run that starts no timer beside another has one timer at most, in every
state. -/
lemma timers_length_le_iff {s₀ : Tab} (h₀ : s₀.timers = []) (es : List Event) :
    Throughout step (fun s => s.timers.length ≤ 1) s₀ es ↔ Always step StartsAfterCancel s₀ es := by
  refine throughout_iff_always (I := fun _ => True) trivial ?_ (fun _ _ _ => trivial) ?_
  · rw [h₀]
    exact Nat.zero_le _
  · intro s e _ hle
    rcases timers_step s e with ⟨hstarts, -, hlen⟩ | ⟨hnot, hlen⟩
    · rw [hlen]
      refine ⟨fun h _ => ?_, fun h => ?_⟩
      · exact List.eq_nil_of_length_eq_zero (by omega)
      · rw [h hstarts]
        exact le_rfl
    · exact iff_of_true (hlen.trans hle) fun hstarts => absurd hstarts hnot

/-- A second timer shows during the test that it is started for. -/
lemma throughout_oneTimer_iff {s₀ : Tab} (h₀ : s₀.timers = []) (es : List Event) :
    Throughout step OneTimer s₀ es ↔ Throughout step (fun s => s.timers.length ≤ 1) s₀ es := by
  constructor
  · intro h
    induction es using List.reverseRecOn with
    | nil =>
        refine throughout_nil.mpr ?_
        rw [h₀]
        exact Nat.zero_le _
    | append_singleton es e ih =>
        rw [throughout_concat] at h ⊢
        refine ⟨ih h.1, ?_⟩
        rcases timers_step (run step s₀ es) e with ⟨-, hflag, -⟩ | ⟨-, hlen⟩
        · exact h.2 hflag
        · exact hlen.trans (ih h.1).last
  · exact fun h pre hpre _ => h pre hpre

/-- A tick sends its echo and counts a second; nothing else counts one during a
test, or adds a timer. -/
lemma clock_step (hrun : s.startTestFlag = true) (e : Event) :
    (step s e).timeCounterSeconds = s.timeCounterSeconds + (tickEcho s e).length ∧
      (∀ n ∈ (step s e).timers, n ∈ s.timers) ∧ (∀ n ∈ tickEcho s e, n ∈ s.timers) ∧
      (tickEcho s e).Sublist (ticks [e]) := by
  have hreaction := step_reaction s e
  generalize step s e = s' at hreaction
  cases hreaction with
  | idle h =>
      have hnone : tickEcho s e = [] := by
        cases e with
        | tick n =>
            refine if_neg fun hecho => ?_
            rw [(h hecho.1).2] at hecho
            exact absurd hecho.2.2 (by simp)
        | _ => rfl
      rw [hnone]
      exact ⟨(Int.add_zero _).symm, fun _ => id, by simp, List.nil_sublist _⟩
  | tick hn hflag hc =>
      rw [tickEcho, if_pos ⟨hn, hflag, by rw [hc]; rfl⟩]
      refine ⟨rfl, fun _ => id, fun m hm => ?_, List.Sublist.refl _⟩
      rwa [List.mem_singleton.mp hm]
  | start _ hflag => exact absurd (hrun.symm.trans hflag) (by simp)
  | startFails _ hflag => exact absurd (hrun.symm.trans hflag) (by simp)
  | cancel _ hflag => exact absurd (hrun.symm.trans hflag) (by simp)
  | dispose =>
      exact ⟨(Int.add_zero _).symm, fun _ => List.mem_of_mem_filter, by simp [tickEcho],
        List.nil_sublist _⟩
  | _ => exact ⟨(Int.add_zero _).symm, fun _ => id, by simp [tickEcho], List.nil_sublist _⟩

/-- The clock over a part of a test. -/
lemma clock_run {es : List Event} (hrun : Always step Running s es) :
    (run step s es).timeCounterSeconds =
        s.timeCounterSeconds + (outputs step tickEcho s es).length ∧
      (∀ n ∈ (run step s es).timers, n ∈ s.timers) ∧
      (∀ n ∈ outputs step tickEcho s es, n ∈ s.timers) ∧
      (outputs step tickEcho s es).Sublist (ticks es) := by
  induction es using List.reverseRecOn with
  | nil => exact ⟨(Int.add_zero _).symm, fun _ => id, by simp, List.Sublist.refl _⟩
  | append_singleton es e ih =>
      obtain ⟨hpast, hflag⟩ := always_concat.mp hrun
      obtain ⟨htime, htimers, hechoes, hsub⟩ := ih hpast
      obtain ⟨htime', htimers', hechoes', hsub'⟩ := clock_step hflag e
      rw [run_concat, outputs_concat]
      refine ⟨?_, fun n hn => htimers n (htimers' n hn), fun n hn => ?_, ?_⟩
      · rw [htime', htime, List.length_append, Nat.cast_add, add_assoc]
      · rcases List.mem_append.mp hn with hold | hnew
        · exact hechoes n hold
        · exact htimers n (hechoes' n hnew)
      · rw [ticks, List.filterMap_append]
        exact hsub.append hsub'

/-- **At most one clock runs** exactly in the runs in which a test is started only
after the timer of the last one has been cancelled. -/
theorem one_clock_iff (geMtuBytes : ℤ) (status : DeviceConnectionState)
    (characteristic : Option String) (es : List Event) :
    OneClock (initState geMtuBytes status characteristic) es ↔
      Always step StartsAfterCancel (initState geMtuBytes status characteristic) es := by
  rw [← timers_length_le_iff rfl, ← throughout_oneTimer_iff rfl]
  refine ⟨OneClock.oneTimer, fun h => ⟨h, ?_⟩⟩
  rintro pre second post rfl hrun hnodup
  have hle := (throughout_oneTimer_iff rfl _).mp h pre (by simp)
  obtain ⟨htime, -, hechoes, hsub⟩ := clock_run hrun
  -- the ticks that count are of timers live at the start of the second
  have hone : (outputs step tickEcho _ second).length ≤ 1 :=
    ((List.subperm_of_subset (hnodup.sublist hsub) hechoes).length_le).trans hle
  rw [htime]
  exact ⟨by omega, hone⟩

/-- Stop and Start between two ticks of the timer: its tick counts, and the tick of
the new timer too. -/
theorem restart_doubles_clock : ¬ ∀ (geMtuBytes : ℤ) (status : DeviceConnectionState)
    (characteristic : Option String) (es : List Event),
    OneClock (initState geMtuBytes status characteristic) es := by
  intro h
  have hrun : Always step Running
      (run step (initState 247 .connected (some "A")) [.press, .press, .press])
      ([] ++ [.tick 0] ++ [.tick 1]) :=
    always_concat.mpr ⟨always_concat.mpr ⟨Always.nil, rfl⟩, rfl⟩
  have hsecond := (h 247 .connected (some "A") [.press, .press, .press, .tick 0, .tick 1]).perSecond
    [.press, .press, .press] ([] ++ [.tick 0] ++ [.tick 1]) [] rfl hrun (by decide)
  exact absurd hsecond.1 (by decide)

/-! ### The accounts of a test -/

/-- The message is a response to an echo. -/
def isEchoResponse (m : DataMap) : Prop := m.get "rsp" = .string "echo-test"

instance (m : DataMap) : Decidable (isEchoResponse m) :=
  inferInstanceAs (Decidable (m.get "rsp" = .string "echo-test"))

/-- The commands written in a step: echoes, all of them. -/
def echoes (s : Tab) (e : Event) : List (String × DataMap) :=
  (step s e).writes.drop s.writes.length

/-- The echoes sent by ticks. -/
def tickEchoes (s : Tab) (e : Event) : List (String × DataMap) :=
  match e with
  | .tick _ => echoes s e
  | _ => []

/-- The responses to echoes that are received. -/
def echoResponses (s : Tab) : Event → List DataMap
  | .message m _ => if s.listens ∧ isEchoResponse m then [m] else []
  | _ => []

/-- The other messages that are received. -/
def otherMessages (s : Tab) : Event → List DataMap
  | .message m _ => if s.listens ∧ ¬ isEchoResponse m then [m] else []
  | _ => []

/-- The messages received for which no echo can be sent. -/
def unanswered (s : Tab) : Event → List DataMap
  | .message m _ => if s.listens ∧ s.characteristic = none then [m] else []
  | _ => []

lemma echoes_of_eq {e : Event} {ws : List (String × DataMap)}
    (h : (step s e).writes = s.writes ++ ws) : echoes s e = ws := by
  rw [echoes, h, List.drop_left]

/-- What a step of a test adds to the accounts. -/
structure Tally (s : Tab) (e : Event) : Prop where
  packetCounter : (step s e).packetCounter =
    s.packetCounter + (echoResponses s e).length + (otherMessages s e).length
  totalTxBytes : (step s e).totalTxBytes =
    s.totalTxBytes + s.totalTxPacketSize * (echoes s e).length
  totalTxPacketSize : (step s e).totalTxPacketSize = s.totalTxPacketSize
  echoes : (echoes s e).length + (unanswered s e).length =
    (tickEchoes s e).length + (echoResponses s e).length + (otherMessages s e).length

/-- A received message is a response to an echo or another message. -/
lemma length_messages (h : s.listens) (m : DataMap) (dataMapBytes : ℕ) :
    (echoResponses s (.message m dataMapBytes)).length +
      (otherMessages s (.message m dataMapBytes)).length = 1 := by
  by_cases hm : isEchoResponse m
  · rw [echoResponses, otherMessages, if_pos ⟨h, hm⟩, if_neg fun hother => hother.2 hm]
    rfl
  · rw [echoResponses, otherMessages, if_neg fun hecho => hm hecho.2, if_pos ⟨h, hm⟩]
    rfl

/-- No message is received in a step. -/
def NoMessage (s : Tab) : Event → Prop
  | .message _ _ => ¬ s.listens
  | _ => True

lemma messages_eq_nil {e : Event} (h : NoMessage s e) :
    echoResponses s e = [] ∧ otherMessages s e = [] ∧ unanswered s e = [] := by
  cases e with
  | message m dataMapBytes =>
      exact ⟨if_neg fun hm => h hm.1, if_neg fun hm => h hm.1, if_neg fun hm => h hm.1⟩
  | _ => exact ⟨rfl, rfl, rfl⟩

/-- A step that leaves the accounts alone. -/
lemma tally_quiet {e : Event} (h : NoMessage s e) (hwrites : (step s e).writes = s.writes)
    (hpackets : (step s e).packetCounter = s.packetCounter)
    (hbytes : (step s e).totalTxBytes = s.totalTxBytes)
    (hsize : (step s e).totalTxPacketSize = s.totalTxPacketSize) : Tally s e := by
  obtain ⟨hresponses, hothers, hunanswered⟩ := messages_eq_nil h
  have hechoes : echoes s e = [] := echoes_of_eq (by rw [hwrites, List.append_nil])
  have hticks : tickEchoes s e = [] := by
    cases e with
    | tick n => exact hechoes
    | _ => rfl
  refine ⟨?_, ?_, hsize, ?_⟩
  · rw [hpackets, hresponses, hothers]
    simp
  · rw [hbytes, hechoes]
    simp
  · rw [hechoes, hunanswered, hticks, hresponses, hothers]
    rfl

lemma tally_step (hrun : s.startTestFlag = true) (e : Event) : Tally s e := by
  have hreaction := step_reaction s e
  generalize hs : step s e = s' at hreaction
  cases hreaction with
  | idle h =>
      refine tally_quiet ?_ ?_ ?_ ?_ ?_
      · cases e with
        | message m dataMapBytes => exact fun hl => absurd (hrun.symm.trans (h hl)) (by simp)
        | _ => trivial
      all_goals rw [hs]
  | start _ hflag => exact absurd (hrun.symm.trans hflag) (by simp)
  | startFails _ hflag => exact absurd (hrun.symm.trans hflag) (by simp)
  | cancel _ hflag => exact absurd (hrun.symm.trans hflag) (by simp)
  | @tick n _ _ target _ =>
      have hechoes : echoes s (.tick n) = [(target, echoCommand 215)] :=
        echoes_of_eq (by rw [hs]; rfl)
      refine ⟨?_, ?_, ?_, ?_⟩
      · rw [hs]
        simp [echoResponses, otherMessages, Tab.checked, Tab.ticked, Tab.echo, Tab.sent]
      · rw [hs, hechoes]
        simp [Tab.checked, Tab.ticked, Tab.echo, Tab.sent]
      · rw [hs]
        rfl
      · rfl
  | @answer h _ target hc m dataMapBytes =>
      have hechoes : echoes s (.message m dataMapBytes) = [(target, echoCommand 215)] :=
        echoes_of_eq (by rw [hs]; rfl)
      have hanswered : unanswered s (.message m dataMapBytes) = [] :=
        if_neg fun hu => absurd (hc.symm.trans hu.2) (by simp)
      have hmessages := length_messages h m dataMapBytes
      refine ⟨?_, ?_, ?_, ?_⟩
      · rw [hs, add_assoc, ← Nat.cast_add, hmessages]
        rfl
      · rw [hs, hechoes]
        simp [Tab.counted, Tab.echo, Tab.sent]
      · rw [hs]
        rfl
      · rw [hechoes, hanswered, add_assoc, hmessages]
        rfl
  | answerFails h _ hc m dataMapBytes =>
      have hechoes : echoes s (.message m dataMapBytes) = [] :=
        echoes_of_eq (by rw [hs, List.append_nil]; rfl)
      have hunanswered : unanswered s (.message m dataMapBytes) = [m] := if_pos ⟨h, hc⟩
      have hmessages := length_messages h m dataMapBytes
      refine ⟨?_, ?_, ?_, ?_⟩
      · rw [hs, add_assoc, ← Nat.cast_add, hmessages]
        rfl
      · rw [hs, hechoes]
        simp [Tab.counted]
      · rw [hs]
        rfl
      · rw [hechoes, hunanswered, add_assoc, hmessages]
        rfl
  | _ => exact tally_quiet trivial (by rw [hs]) (by rw [hs]) (by rw [hs]) (by rw [hs])

/-- The accounts over a part of a test. -/
lemma tally_run {es : List Event} (hrun : Always step Running s es) :
    (run step s es).packetCounter = s.packetCounter +
        (outputs step echoResponses s es).length + (outputs step otherMessages s es).length ∧
      (run step s es).totalTxBytes =
        s.totalTxBytes + s.totalTxPacketSize * (outputs step echoes s es).length ∧
      (run step s es).totalTxPacketSize = s.totalTxPacketSize ∧
      (outputs step echoes s es).length + (outputs step unanswered s es).length =
        (outputs step tickEchoes s es).length + (outputs step echoResponses s es).length +
          (outputs step otherMessages s es).length := by
  induction es using List.reverseRecOn with
  | nil => exact ⟨by simp, by simp, rfl, rfl⟩
  | append_singleton es e ih =>
      obtain ⟨hpast, hflag⟩ := always_concat.mp hrun
      obtain ⟨hpackets, hbytes, hsize, hechoes⟩ := ih hpast
      obtain ⟨hpackets', hbytes', hsize', hechoes'⟩ := tally_step hflag e
      simp only [run_concat, outputs_concat, List.length_append, Nat.cast_add]
      refine ⟨?_, ?_, hsize'.trans hsize, ?_⟩
      · rw [hpackets', hpackets]
        ring
      · rw [hbytes', hbytes, hsize]
        ring
      · omega

/-- A message is a response to an echo, and is answered by the next. -/
def Answered (s : Tab) : Event → Prop
  | .message m _ => s.listens → isEchoResponse m ∧ s.characteristic.isSome
  | _ => True

lemma answered_iff (s : Tab) (e : Event) :
    Answered s e ↔ otherMessages s e = [] ∧ unanswered s e = [] := by
  cases e with
  | message m dataMapBytes =>
      rw [Answered, otherMessages, unanswered]
      by_cases hl : s.listens
      · by_cases hm : isEchoResponse m <;> cases hc : s.characteristic <;> simp [hl, hm]
      · simp [hl]
  | _ => exact iff_of_true trivial ⟨rfl, rfl⟩

/-- The start of a test: its counters begin anew, and one echo is sent if it can
be. -/
lemma start_step (hen : s.enabled) (hflag : s.startTestFlag = false) :
    (step s .press).packetCounter = 0 ∧
      (step s .press).totalTxBytes = s.totalTxPacketSize * (echoes s .press).length ∧
      (step s .press).totalTxPacketSize = s.totalTxPacketSize ∧
      (echoes s .press).length = if s.characteristic.isSome then 1 else 0 := by
  have hs : step s .press = startTest.finalState s := by
    rw [step, if_pos hen, pressed, Effect.finalState_get_bind, if_pos (ne_true_of_eq_false hflag)]
  rw [finalState_startTest] at hs
  cases hc : s.characteristic with
  | none =>
      rw [hc] at hs
      have hechoes : echoes s .press = [] := echoes_of_eq (by rw [hs, List.append_nil]; rfl)
      rw [hs, hechoes]
      exact ⟨rfl, (mul_zero _).symm, rfl, rfl⟩
  | some target =>
      rw [hc] at hs
      have hechoes : echoes s .press = [(target, echoCommand 215)] :=
        echoes_of_eq (by rw [hs]; rfl)
      rw [hs, hechoes]
      refine ⟨rfl, ?_, rfl, rfl⟩
      simp [Tab.monitored, Tab.echo, Tab.begin, Tab.sent]

/-- The counter of a test counts the packets of the tab's own size. -/
lemma txBytes_run (hen : s.enabled) (hflag : s.startTestFlag = false) {es : List Event}
    (htest : Always step Running (step s .press) es) :
    (run step s (.press :: es)).totalTxBytes =
      s.totalTxPacketSize * (outputs step echoes s (.press :: es)).length := by
  obtain ⟨-, hbytes, hsize, -⟩ := start_step hen hflag
  obtain ⟨-, hbytes', -, -⟩ := tally_run htest
  rw [run_cons, hbytes', hbytes, hsize, outputs, List.length_append, Nat.cast_add]
  ring

/-- With a characteristic at least the echo of Start is sent. -/
lemma length_echoes_ne_zero (hen : s.enabled) (hflag : s.startTestFlag = false)
    (hc : s.characteristic.isSome) (es : List Event) :
    ((outputs step echoes s (.press :: es)).length : ℤ) ≠ 0 := by
  have hfirst := (start_step hen hflag).2.2.2
  rw [if_pos hc] at hfirst
  rw [outputs, List.length_append, hfirst]
  omega

/-- A message counts as a response and an echo is the answer to one: the counts agree
if the first echo is sent, and every message of the test is a response to an echo and
is answered; and only then. -/
lemma counts_iff (hen : s.enabled) (hflag : s.startTestFlag = false) {es : List Event}
    (htest : Always step Running (step s .press) es) :
    ((run step s (.press :: es)).packetCounter =
        (outputs step echoResponses s (.press :: es)).length ∧
      ((outputs step echoes s (.press :: es)).length : ℤ) -
          (outputs step echoResponses s (.press :: es)).length =
        1 + (outputs step tickEchoes s (.press :: es)).length) ↔
      s.characteristic.isSome ∧ Always step Answered (step s .press) es := by
  obtain ⟨hpackets, -, -, hechoes⟩ := start_step hen hflag
  obtain ⟨hpackets', -, -, hechoes'⟩ := tally_run htest
  have hcond : Always step Answered (step s .press) es ↔
      (outputs step otherMessages (step s .press) es).length = 0 ∧
        (outputs step unanswered (step s .press) es).length = 0 := by
    rw [List.length_eq_zero_iff, List.length_eq_zero_iff, outputs_eq_nil_iff, outputs_eq_nil_iff,
      ← always_and]
    exact forall_congr' fun pre => forall_congr' fun e => forall_congr' fun post =>
      forall_congr' fun _ => answered_iff _ e
  have hresponses : outputs step echoResponses s (.press :: es) =
      outputs step echoResponses (step s .press) es := rfl
  have hticks : outputs step tickEchoes s (.press :: es) =
      outputs step tickEchoes (step s .press) es := rfl
  have hall : (outputs step echoes s (.press :: es)).length =
      (echoes s .press).length + (outputs step echoes (step s .press) es).length :=
    List.length_append
  rw [hpackets, zero_add] at hpackets'
  rw [hcond, run_cons, hpackets', hall, hresponses, hticks]
  constructor
  · rintro ⟨hcount, hlaw⟩
    -- one echo for each message but the unanswered ones, and one for Start
    have hothers : (outputs step otherMessages (step s .press) es).length = 0 := by omega
    have hfirst : (echoes s .press).length = 1 := by
      split_ifs at hechoes <;> omega
    refine ⟨?_, hothers, by omega⟩
    by_contra hnone
    rw [hfirst, if_neg hnone] at hechoes
    exact absurd hechoes one_ne_zero
  · rintro ⟨hsome, hothers, hunanswered⟩
    rw [if_pos hsome] at hechoes
    exact ⟨by rw [hothers, Nat.cast_zero, add_zero], by omega⟩

/-! ### The MTU of the interactor -/

/-- The tab, and `_mtu` of the interactor it sends through. -/
structure Rig where
  tab : Tab
  mtu : ℤ

/-- What happens to the two. -/
inductive RigEvent where
  | tab (e : Event)
  /-- `getMtuSize` assigns `_mtu` -/
  | mtu (mtu : ℤ)

/-- One event. -/
def rigStep (w : Rig) : RigEvent → Rig
  | .tab e => { w with tab := step w.tab e }
  | .mtu mtu => { w with mtu := mtu }

/-- The event of the tab. -/
def tabEvent : RigEvent → Option Event
  | .tab e => some e
  | .mtu _ => none

/-- The events of the tab, in order. -/
def tabEvents (es : List RigEvent) : List Event := es.filterMap tabEvent

variable {w : Rig}

/-- The tab runs by its own events. -/
lemma tab_run (w : Rig) (es : List RigEvent) :
    (run rigStep w es).tab = run step w.tab (tabEvents es) := by
  induction es using List.reverseRecOn with
  | nil => rfl
  | append_singleton es e ih =>
      rw [run_concat, tabEvents, List.filterMap_append, run_append, ← tabEvents, ← ih]
      cases e with
      | tab e => rfl
      | mtu mtu => rfl

/-- An MTU that is not changed stays. -/
lemma mtu_run {size : ℤ} {es : List RigEvent} (h0 : w.mtu = size)
    (h : ∀ mtu, .mtu mtu ∈ es → mtu = size) : (run rigStep w es).mtu = size := by
  induction es using List.reverseRecOn with
  | nil => exact h0
  | append_singleton es e ih =>
      have hes := ih fun mtu hmem => h mtu (List.mem_append_left _ hmem)
      rw [run_concat]
      cases e with
      | tab e => exact hes
      | mtu mtu => exact h mtu (by simp)

/-- **The accounts of a test are exact** after the events `es` from its Start on. -/
structure Exact (w : Rig) (es : List RigEvent) : Prop where
  packetCounter : (run rigStep w es).tab.packetCounter =
    (outputs step echoResponses w.tab (tabEvents es)).length
  totalTxBytes : (run rigStep w es).tab.totalTxBytes =
    (run rigStep w es).mtu * (outputs step echoes w.tab (tabEvents es)).length
  conservation : ((outputs step echoes w.tab (tabEvents es)).length : ℤ) -
      (outputs step echoResponses w.tab (tabEvents es)).length =
    1 + (outputs step tickEchoes w.tab (tabEvents es)).length

/-- The accounts at one moment of a test: the counts agree, and the MTU is the size
that the tab counts with. -/
lemma exact_iff (hen : w.tab.enabled) (hflag : w.tab.startTestFlag = false) {es : List RigEvent}
    (htest : Always step Running (step w.tab .press) (tabEvents es)) :
    Exact w (.tab .press :: es) ↔
      w.tab.characteristic.isSome ∧ (run rigStep w (.tab .press :: es)).mtu =
          w.tab.totalTxPacketSize ∧
        Always step Answered (step w.tab .press) (tabEvents es) := by
  have hcounts := counts_iff hen hflag htest
  have hbytes := txBytes_run hen hflag htest
  have htab : (run rigStep w (.tab .press :: es)).tab =
      run step w.tab (.press :: tabEvents es) := tab_run w _
  have hevents : tabEvents (.tab .press :: es) = .press :: tabEvents es := rfl
  constructor
  · rintro ⟨hpackets, htx, hlaw⟩
    rw [htab, hevents] at hpackets htx
    obtain ⟨hsome, hanswered⟩ := hcounts.mp ⟨hpackets, hlaw⟩
    rw [hbytes] at htx
    have hsent := length_echoes_ne_zero hen hflag hsome (tabEvents es)
    exact ⟨hsome, (mul_right_cancel₀ hsent htx).symm, hanswered⟩
  · rintro ⟨hsome, hmtu, hanswered⟩
    obtain ⟨hpackets, hlaw⟩ := hcounts.mpr ⟨hsome, hanswered⟩
    refine ⟨?_, ?_, hlaw⟩
    · rw [htab, hevents]
      exact hpackets
    · rw [htab, hevents, hmtu]
      exact hbytes

/-- **The accounts of a test are exact** throughout it if its first echo is sent, every
message received during the test is a response to an echo and is answered, and the MTU
is and stays the one that the tab has read; and only then. -/
theorem accounts_iff (hen : w.tab.enabled) (hflag : w.tab.startTestFlag = false)
    (es : List RigEvent) (htest : Always step Running (step w.tab .press) (tabEvents es)) :
    (∀ pre, pre <+: es → Exact w (.tab .press :: pre)) ↔
      w.tab.characteristic.isSome ∧ Always step Answered (step w.tab .press) (tabEvents es) ∧
        w.mtu = w.tab.totalTxPacketSize ∧
        ∀ mtu, .mtu mtu ∈ es → mtu = w.tab.totalTxPacketSize := by
  have hpart : ∀ pre, pre <+: es → tabEvents pre <+: tabEvents es :=
    fun pre hpre => hpre.filterMap _
  have hexact : ∀ pre, pre <+: es → (Exact w (.tab .press :: pre) ↔ _) :=
    fun pre hpre => exact_iff hen hflag (htest.of_prefix (hpart pre hpre))
  constructor
  · intro h
    obtain ⟨hsome, -, hanswered⟩ := (hexact es List.prefix_rfl).mp (h es List.prefix_rfl)
    refine ⟨hsome, hanswered, ?_, fun mtu hmem => ?_⟩
    · exact ((hexact [] List.nil_prefix).mp (h [] List.nil_prefix)).2.1
    · obtain ⟨before, after, rfl⟩ := List.append_of_mem hmem
      have hpre : before ++ [.mtu mtu] <+: before ++ .mtu mtu :: after := ⟨after, by simp⟩
      have hmtu := ((hexact _ hpre).mp (h _ hpre)).2.1
      rwa [← List.cons_append, run_concat] at hmtu
  · rintro ⟨hsome, hanswered, hsize, hkept⟩ pre hpre
    refine (hexact pre hpre).mpr ⟨hsome, ?_, hanswered.of_prefix (hpart pre hpre)⟩
    refine mtu_run hsize fun mtu hmem => hkept mtu (hpre.subset ?_)
    simpa using hmem

/-- A response to an echo. -/
def echoResponse : DataMap := ⟨[(.string "rsp", .string "echo-test")], by decide⟩

/-- A tab opened on a connected device, with the MTU that it reads. -/
def openRig (mtu : ℤ) : Rig := ⟨initState mtu .connected (some "A"), mtu⟩

/-- One response and one tick. -/
def sampleTest : List RigEvent := [.tab (.message echoResponse 230), .tab (.tick 0)]

lemma sampleTest_running :
    Always step Running (step (openRig 247).tab .press) (tabEvents sampleTest) :=
  have h : Always step Running (step (openRig 247).tab .press)
      ([] ++ [.message echoResponse 230] ++ [.tick 0]) :=
    always_concat.mpr ⟨always_concat.mpr ⟨Always.nil, rfl⟩, rfl⟩
  h

/-- A test of one response and one tick. -/
theorem accounts_sample :
    (∀ pre, pre <+: sampleTest → Exact (openRig 247) (.tab .press :: pre)) ↔
      (some "A").isSome ∧
        Always step Answered (step (openRig 247).tab .press) (tabEvents sampleTest) ∧
        (openRig 247).mtu = (openRig 247).tab.totalTxPacketSize ∧
        ∀ mtu, .mtu mtu ∈ sampleTest → mtu = (openRig 247).tab.totalTxPacketSize :=
  accounts_iff (by decide) rfl sampleTest sampleTest_running

/-- An event of the device during the test counts as a response. -/
theorem event_counted : ¬ ∀ (w : Rig) (es : List RigEvent), w.tab.enabled →
    w.tab.startTestFlag = false → Always step Running (step w.tab .press) (tabEvents es) →
      ∀ pre, pre <+: es → Exact w (.tab .press :: pre) := by
  intro h
  have htest : Always step Running (step (openRig 247).tab .press)
      ([] ++ [.message newDataEvent 23]) := always_concat.mpr ⟨Always.nil, rfl⟩
  have hexact := h (openRig 247) [.tab (.message newDataEvent 23)] (by decide) rfl htest _
    List.prefix_rfl
  exact absurd hexact.packetCounter (by decide)

end SopepApp.TrafficTab
