import SopepApp.ReadData.Accepted

/-!
The read loop together with the device it reads from.

* `System`: the loop, the requests on their way to the device and the
  responses on their way back;
* `systemStep`: the device answers a request, a response is delivered, some
  other message arrives, a delayed request fires;
* `not_stalled_iff`: in every state before the end something is under way,
  exactly in the runs whose deliveries satisfy `SoundDelivery`;
  `sequence_gap_stalls` is a run with a gap in the numbers.
-/

namespace SopepApp.ReadData

open Dart Transition Sections

/-- The loop and what is in flight between it and the device. -/
structure System where
  loop : ReadLoop
  /-- the sequence numbers of the requests that the device has not answered -/
  requests : List ℤ
  /-- the responses that have not been delivered -/
  responses : List DataMap
  deriving DecidableEq

/-- A response to the request for the record after `seq`: no number, or the
number of a later record. -/
def Answers (seq : ℤ) (m : DataMap) : Prop :=
  m.get "rsp" = .string "read-data" ∧
    (m.get "seq" = .null ∨ ∃ n ∈ (m.get "seq").toInt?, seq < n)

instance (seq : ℤ) (m : DataMap) : Decidable (Answers seq m) := by
  unfold Answers
  infer_instance

/-- What happens between the loop and the device. -/
inductive SystemEvent where
  /-- the device answers a request -/
  | answer (seq : ℤ) (m : DataMap)
  /-- a response reaches the loop -/
  | deliver (m : DataMap)
  /-- a message that is no `read-data` response reaches the loop -/
  | unrelated (m : DataMap)
  /-- a delayed closure fires -/
  | delayedRequest

/-- The loop takes a step; what it sends is under way to the device. -/
def System.react (p : Platform) (sopepId : String) (sys : System) (e : Event) : System :=
  { sys with
    loop := step p sopepId sys.loop e
    requests := sys.requests ++ sentBy p sopepId sys.loop e }

/-- One event. Nothing is lost, and a request is answered once. -/
def systemStep (p : Platform) (sopepId : String) (sys : System) : SystemEvent → System
  | .answer seq m =>
    if seq ∈ sys.requests ∧ Answers seq m then
      { sys with requests := sys.requests.erase seq, responses := sys.responses ++ [m] }
    else sys
  | .deliver m =>
    if m ∈ sys.responses then
      { sys with responses := sys.responses.erase m }.react p sopepId (.message m)
    else sys
  | .unrelated m =>
    if m.get "rsp" ≠ .string "read-data" then sys.react p sopepId (.message m) else sys
  | .delayedRequest => sys.react p sopepId .delayedRequest

/-- The system after `_getDataLoop(seqOldest)`. -/
def systemStart (seqOldest : ℤ) : System :=
  { loop := start seqOldest, requests := (start seqOldest).requests, responses := [] }

/-- Nothing is in flight and no delayed request is scheduled. -/
def System.Quiet (sys : System) : Prop :=
  sys.requests = [] ∧ sys.responses = [] ∧ sys.loop.delayed = 0

instance (sys : System) : Decidable sys.Quiet := inferInstanceAs (Decidable (_ ∧ _ ∧ _))

/-- **The loop is not stalled**: until it has ended, a request or a response is
in flight or a delayed request is scheduled. -/
def NotStalled (sys : System) : Prop := sys.loop.readingComplete = false → ¬ sys.Quiet

instance (sys : System) : Decidable (NotStalled sys) := inferInstanceAs (Decidable (_ → _))

/-- The records end with a savable set, and none before it closes a set. -/
def EndsSavable (records : List DataMap) : Prop :=
  ∃ pre, (∀ r ∈ pre, isEnd r = false) ∧ ∃ c, IsSet c ∧ Savable c ∧
    records = pre ++ c.first :: (c.inner ++ [c.last])

/-- A record on which the loop goes on: it is the one it waits for, and the set
it closes is savable. -/
def Progresses (s : ReadLoop) (m : DataMap) : Prop :=
  Awaited s m ∧ (Closes s m → EndsSavable (s.pressureDataRaw ++ [m]))

/-- The condition on a delivery: when a record is delivered and nothing else is
under way, it is the one the loop waits for, and if it closes the open set the
set is savable. -/
def SoundDelivery (sys : System) : SystemEvent → Prop
  | .deliver m =>
    m ∈ sys.responses → sys.loop.readingComplete = false →
      { sys with responses := sys.responses.erase m }.Quiet → isRecord m = true →
      Progresses sys.loop m
  | _ => True

/-! ### The buffer -/

variable {p : Platform} {sopepId : String} {sys : System}

/-- **What the buffer holds** while a set is open: the records of the set so
far, or, after `_formatData` has thrown, a set that is not savable. -/
inductive Buffer : List DataMap → Prop
  | reading (pre : List DataMap) (first : DataMap) (inner : List DataMap)
      (hpre : ∀ r ∈ pre, isEnd r = false) (hfirst : isStart first = true)
      (hinner : ∀ r ∈ inner, isStart r = false ∧ isEnd r = false) :
      Buffer (pre ++ first :: inner)
  | spoilt {pre : List DataMap} {c : Section DataMap} (rest : List DataMap)
      (hpre : ∀ r ∈ pre, isEnd r = false) (hc : IsSet c) (hspoilt : ¬ Savable c) :
      Buffer (pre ++ c.first :: (c.inner ++ c.last :: rest))

variable {records : List DataMap} {m : DataMap}

lemma buffer_singleton (hstart : isStart m = true) : Buffer [m] :=
  .reading [] m [] (by simp) hstart (by simp)

/-- One more record that closes no set. -/
lemma Buffer.concat (h : Buffer records) (hend : isEnd m = false) : Buffer (records ++ [m]) := by
  cases h with
  | reading pre first inner hpre hfirst hinner =>
      cases hstart : isStart m with
      | true =>
          refine .reading (pre ++ first :: inner) m [] (fun r hr => ?_) hstart (by simp)
          rcases List.mem_append.mp hr with hr | hr
          · exact hpre r hr
          rcases List.mem_cons.mp hr with rfl | hr
          · exact isEnd_of_isStart hfirst
          · exact (hinner r hr).2
      | false =>
          rw [List.append_assoc, List.cons_append]
          refine .reading pre first (inner ++ [m]) hpre hfirst fun r hr => ?_
          rcases List.mem_append.mp hr with hr | hr
          · exact hinner r hr
          · rw [List.mem_singleton.mp hr]
            exact ⟨hstart, hend⟩
  | spoilt rest hpre hc hspoilt =>
      rw [List.append_assoc, List.cons_append, List.append_assoc, List.cons_append]
      exact .spoilt (rest ++ [m]) hpre hc hspoilt

/-- An End set closes a savable set, or spoils the buffer. -/
lemma Buffer.closed (p : Platform) (sopepId : String) (h : Buffer records) (hend : isEnd m = true) :
    EndsSavable (records ++ [m]) ∨ Buffer (records ++ [m]) ∧
      ∀ files, ∃ e files', (formatData p sopepId (records ++ [m])).run files = .error e files' := by
  cases h with
  | reading pre first inner hpre hfirst hinner =>
      have hc : IsSet ⟨first, inner, m⟩ := ⟨hfirst, hinner, hend⟩
      rw [List.append_assoc, List.cons_append]
      by_cases hsavable : Savable ⟨first, inner, m⟩
      · exact Or.inl ⟨pre, hpre, ⟨first, inner, m⟩, hc, hsavable, rfl⟩
      · exact Or.inr ⟨.spoilt [] hpre hc hsavable, formatData_error p sopepId hpre hc hsavable []⟩
  | spoilt rest hpre hc hspoilt =>
      rw [List.append_assoc, List.cons_append, List.append_assoc, List.cons_append]
      exact Or.inr ⟨.spoilt (rest ++ [m]) hpre hc hspoilt,
        formatData_error p sopepId hpre hc hspoilt (rest ++ [m])⟩

/-- A savable set at the end of the buffer is saved. -/
lemma EndsSavable.formatData_ok (p : Platform) (sopepId : String) (h : EndsSavable records)
    (files : List SavedFile) :
    ∃ files', (formatData p sopepId records).run files = .ok () files' := by
  obtain ⟨pre, hpre, c, hc, hsavable, rfl⟩ := h
  exact ⟨_, formatData_section p sopepId hpre hc hsavable files⟩

/-! ### Invariants -/

/-- What holds in every state: the dialog is on the screen, the loop is
subscribed until it has ended, and its buffer is empty or holds a set. -/
structure Running (s : ReadLoop) : Prop where
  mounted : s.mounted = true
  subscribed : s.streamSubscriptionReadData = !s.readingComplete
  idle : s.startSetFound = false → s.pressureDataRaw = []
  reading : s.startSetFound = true → Buffer s.pressureDataRaw

lemma running_start (seqOldest : ℤ) : Running (start seqOldest) where
  mounted := rfl
  subscribed := rfl
  idle _ := rfl
  reading h := absurd h (by simp [start])

lemma Running.message {s : ReadLoop} (h : Running s) (hsub : s.streamSubscriptionReadData = true)
    (m : DataMap) : Running (step p sopepId s (.message m)) := by
  have hreaction := step_message p sopepId m hsub h.mounted
  generalize step p sopepId s (.message m) = s' at hreaction
  cases hreaction with
  | ignored _ _ => exact h
  | skipped _ _ _ => exact ⟨h.mounted, h.subscribed, h.idle, h.reading⟩
  | opened _ hstart text =>
      refine ⟨h.mounted, h.subscribed, fun hset => absurd hset (by simp [ReadLoop.advance]),
        fun _ => ?_⟩
      change Buffer (s.pressureDataRaw ++ [m])
      cases hset : s.startSetFound with
      | true => exact (h.reading hset).concat (isEnd_of_isStart hstart)
      | false =>
          rw [h.idle hset]
          exact buffer_singleton hstart
  | added _ hset _ hend =>
      exact ⟨h.mounted, h.subscribed, fun hset' => absurd hset' (ne_false_of_eq_true hset),
        fun _ => (h.reading hset).concat hend⟩
  | closed _ _ _ =>
      exact ⟨h.mounted, h.subscribed, fun _ => rfl,
        fun hset => absurd hset (by simp [ReadLoop.advance])⟩
  | failed _ hclose hformat =>
      refine ⟨h.mounted, h.subscribed, fun hset => absurd hset (ne_false_of_eq_true hclose.1),
        fun _ => ?_⟩
      rcases (h.reading hclose.1).closed p sopepId hclose.2 with hsavable | ⟨hbuffer, -⟩
      · obtain ⟨files, hok⟩ := hsavable.formatData_ok p sopepId s.files
        rw [hok] at hformat
        exact absurd hformat (by simp)
      · exact hbuffer
  | retried _ _ => exact ⟨h.mounted, h.subscribed, h.idle, h.reading⟩
  | ended _ _ => exact ⟨h.mounted, rfl, h.idle, h.reading⟩

lemma Running.step {s : ReadLoop} (h : Running s) (e : Event) :
    Running (ReadData.step p sopepId s e) := by
  cases e with
  | message m =>
      cases hsub : s.streamSubscriptionReadData with
      | true => exact h.message hsub m
      | false =>
          rw [step_message_unsubscribed hsub]
          exact h
  | delayedRequest =>
      rw [ReadData.step]
      split_ifs
      · exact h
      · exact ⟨h.mounted, h.subscribed, h.idle, h.reading⟩

lemma Running.react {sys : System} (h : Running sys.loop) (e : Event) :
    Running (sys.react p sopepId e).loop := h.step e

lemma Running.systemStep (h : Running sys.loop) (e : SystemEvent) :
    Running (systemStep p sopepId sys e).loop := by
  cases e with
  | answer seq m =>
      rw [ReadData.systemStep]
      split_ifs
      · exact h
      · exact h
  | deliver m =>
      rw [ReadData.systemStep]
      split_ifs
      · have hrest : Running { sys with responses := sys.responses.erase m }.loop := h
        exact hrest.react _
      · exact h
  | unrelated m =>
      rw [ReadData.systemStep]
      split_ifs
      · exact h.react _
      · exact h
  | delayedRequest => exact h.react _

/-- The message leaves the loop reading, without a request and without a
delayed one. -/
def Idles (p : Platform) (sopepId : String) (s : ReadLoop) (m : DataMap) : Prop :=
  (step p sopepId s (.message m)).readingComplete = false ∧ sentBy p sopepId s (.message m) = [] ∧
    (step p sopepId s (.message m)).delayed = s.delayed

/-- **The messages on which the loop idles** are the records out of turn and
those that close a set which is not savable. -/
lemma idles_iff {s : ReadLoop} {m : DataMap} (h : Running s)
    (hsub : s.streamSubscriptionReadData = true) (hreading : s.readingComplete = false) :
    Idles p sopepId s m ↔ isRecord m = true ∧ ¬ Progresses s m := by
  have hreaction := step_message p sopepId m hsub h.mounted
  rw [Idles, sentBy, Progresses]
  generalize step p sopepId s (.message m) = s' at hreaction
  cases hreaction with
  | ignored hrecord hseq =>
      exact iff_of_true ⟨hreading, List.drop_length, rfl⟩ ⟨hrecord, fun h => hseq h.1⟩
  | skipped hseq hset hstart =>
      refine iff_of_false (fun h => absurd h.2.1 (by simp [ReadLoop.advance])) fun h =>
        h.2 ⟨hseq, fun hclose => ?_⟩
      exact absurd hclose.1 (ne_true_of_eq_false hset)
  | opened hseq hstart text =>
      refine iff_of_false (fun h => absurd h.2.1 (by simp [ReadLoop.advance])) fun h =>
        h.2 ⟨hseq, fun hclose => ?_⟩
      exact absurd hstart (ne_true_of_eq_false (isStart_of_isEnd hclose.2))
  | added hseq hset hstart hend =>
      refine iff_of_false (fun h => absurd h.2.1 (by simp [ReadLoop.advance])) fun h =>
        h.2 ⟨hseq, fun hclose => ?_⟩
      exact absurd hclose.2 (ne_true_of_eq_false hend)
  | closed hseq hclose hformat =>
      refine iff_of_false (fun h => absurd h.2.1 (by simp [ReadLoop.advance])) fun hnot =>
        hnot.2 ⟨hseq, fun _ => ?_⟩
      rcases (h.reading hclose.1).closed p sopepId hclose.2 with hsavable | ⟨-, herror⟩
      · exact hsavable
      · obtain ⟨e, files, herror⟩ := herror s.files
        rw [herror] at hformat
        exact absurd hformat (by simp)
  | failed hseq hclose hformat =>
      refine iff_of_true ⟨hreading, List.drop_length, rfl⟩ ⟨hseq.1, fun h => ?_⟩
      obtain ⟨files, hok⟩ := (h.2 hclose).formatData_ok p sopepId s.files
      rw [hok] at hformat
      exact absurd hformat (by simp)
  | retried hrecord hset =>
      refine iff_of_false (fun h => absurd h.2.2 (by simp)) fun h => ?_
      exact absurd h.1 (ne_true_of_eq_false hrecord)
  | ended hrecord hset =>
      refine iff_of_false (fun h => absurd h.1 (by simp)) fun h => ?_
      exact absurd h.1 (ne_true_of_eq_false hrecord)

/-- A message schedules at most one more delayed request. -/
lemma delayed_le (p : Platform) (sopepId : String) {s : ReadLoop} (m : DataMap)
    (hmounted : s.mounted = true) :
    s.delayed ≤ (step p sopepId s (.message m)).delayed := by
  cases hsub : s.streamSubscriptionReadData with
  | true =>
      have hreaction := step_message p sopepId m hsub hmounted
      generalize step p sopepId s (.message m) = s' at hreaction
      cases hreaction with
      | retried => exact Nat.le_succ _
      | _ => exact le_rfl
  | false =>
      rw [step_message_unsubscribed hsub]

/-- A system is stalled while it reads and is quiet. -/
lemma not_notStalled_iff : ¬ NotStalled sys ↔ sys.loop.readingComplete = false ∧ sys.Quiet := by
  rw [NotStalled, Classical.not_imp, not_not]

/-- **When a message stalls the system**: nothing else is under way, and the
message is a record on which the loop does not go on. -/
lemma stalled_react_iff (p : Platform) (sopepId : String) (sys : System) (h : Running sys.loop)
    (hreading : sys.loop.readingComplete = false) (m : DataMap) :
    ¬ NotStalled (sys.react p sopepId (.message m)) ↔
      sys.Quiet ∧ isRecord m = true ∧ ¬ Progresses sys.loop m := by
  have hsub : sys.loop.streamSubscriptionReadData = true := by
    rw [h.subscribed, hreading]
    rfl
  have hle := delayed_le p sopepId m h.mounted
  rw [not_notStalled_iff, ← idles_iff h hsub hreading, System.Quiet, System.Quiet, Idles,
    System.react]
  dsimp only
  rw [List.append_eq_nil_iff]
  refine ⟨?_, ?_⟩
  · rintro ⟨hread, ⟨hreq, hsent⟩, hresp, hdelayed⟩
    exact ⟨⟨hreq, hresp, by omega⟩, hread, hsent, by omega⟩
  · rintro ⟨⟨hreq, hresp, hdelayed⟩, hread, hsent, hsame⟩
    exact ⟨hread, ⟨hreq, hsent⟩, hresp, by omega⟩

/-- After its end the loop does not read. -/
lemma notStalled_of_ended {sys : System} (h : Running sys.loop)
    (hended : sys.loop.readingComplete = true) {m : DataMap} :
    NotStalled (sys.react p sopepId (.message m)) := by
  intro hread
  have hsub : sys.loop.streamSubscriptionReadData = false := by
    rw [h.subscribed, hended]
    rfl
  rw [System.react, step_message_unsubscribed hsub] at hread
  exact absurd hread (ne_false_of_eq_true hended)

/-- A step is sound when it does not stall the system. -/
lemma notStalled_step_iff (h : Running sys.loop) (hns : NotStalled sys) (e : SystemEvent) :
    NotStalled (systemStep p sopepId sys e) ↔ SoundDelivery sys e := by
  cases e with
  | answer seq m =>
      refine iff_of_true ?_ trivial
      rw [systemStep]
      split_ifs
      · exact fun _ hquiet => absurd hquiet.2.1 (by simp)
      · exact hns
  | deliver m =>
      rw [systemStep, SoundDelivery]
      by_cases hm : m ∈ sys.responses
      · rw [if_pos hm]
        cases hread : sys.loop.readingComplete with
        | false =>
            have hiff := stalled_react_iff p sopepId
              { sys with responses := sys.responses.erase m } h hread m
            rw [← not_iff_not, hiff]
            refine ⟨fun hbad hgood => hbad.2.2 (hgood hm rfl hbad.1 hbad.2.1), fun hbad => ?_⟩
            by_contra hnot
            refine hbad fun _ _ hquiet hrecord => ?_
            by_contra hstop
            exact hnot ⟨hquiet, hrecord, hstop⟩
        | true =>
            have hrest : Running { sys with responses := sys.responses.erase m }.loop := h
            exact iff_of_true (notStalled_of_ended hrest hread) fun _ hread' =>
              absurd hread'.symm Bool.false_ne_true
      · rw [if_neg hm]
        exact iff_of_true hns fun hm' => absurd hm' hm
  | unrelated m =>
      refine iff_of_true ?_ trivial
      rw [systemStep]
      split_ifs with hm
      · cases hread : sys.loop.readingComplete with
        | false =>
            by_contra hstalled
            obtain ⟨-, hrecord, -⟩ := (stalled_react_iff p sopepId sys h hread m).mp hstalled
            exact hm (rsp_of_isRecord hrecord)
        | true => exact notStalled_of_ended h hread
      · exact hns
  | delayedRequest =>
      refine iff_of_true (fun hread hquiet => ?_) trivial
      rw [systemStep, System.react] at hread hquiet
      by_cases hdelayed : sys.loop.delayed = 0
      · rw [step, if_pos hdelayed] at hread hquiet
        exact hns hread ⟨(List.append_eq_nil_iff.mp hquiet.1).1, hquiet.2.1, hdelayed⟩
      · have hsent := (List.append_eq_nil_iff.mp hquiet.1).2
        rw [sentBy, step, if_neg hdelayed, List.drop_left] at hsent
        exact absurd hsent (by simp)

/-- **The loop stalls exactly on a last record that it cannot use**: in every
state of a run before the end something is under way, exactly when every record
delivered with nothing else under way is the one the loop waits for and closes
no set that cannot be formatted. -/
theorem not_stalled_iff (seqOldest : ℤ) (es : List SystemEvent) :
    Throughout (systemStep p sopepId) NotStalled (systemStart seqOldest) es ↔
      Always (systemStep p sopepId) (SoundDelivery) (systemStart seqOldest) es :=
  throughout_iff_always (I := fun sys => Running sys.loop) (running_start seqOldest)
    (fun _ hquiet => absurd hquiet.1 (by simp [systemStart, start])) (fun _ e h => h.systemStep e)
    fun _ e h hns => notStalled_step_iff h hns e

/-- The oldest record is delivered, the one after it has been erased. -/
def sequenceGap : List SystemEvent :=
  [.answer 4 startSet, .deliver startSet, .answer 5 rawPressure, .deliver rawPressure]

/-- A gap in the sequence numbers: the record after it is ignored, and nothing
is requested any more. -/
theorem sequence_gap_stalls :
    ¬ ∀ (p : Platform) (sopepId : String) (seqOldest : ℤ) (es : List SystemEvent),
      Throughout (systemStep p sopepId) NotStalled (systemStart seqOldest) es := by
  intro h
  have hlast := (h samplePlatform "SOPEP0000000001" 5 sequenceGap).last
  revert hlast
  decide +kernel

end SopepApp.ReadData
