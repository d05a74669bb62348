import SopepApp.Codec.Reference
import SopepApp.ReadData.FormatData
import SopepApp.Transition.Run

/-!
`_getDataLoop` of `sopep_readdata_dialog.dart`: the loop that reads the records
of the device one after the other.

* `ReadLoop`: the variables of the loop and the fields of the dialog it
  assigns, with the requests it has sent and the files it has saved;
* `getDataLoopListener`: its listener on the stream of responses; `step`: a
  message, or a delayed request that fires;
* `Reaction`: what a message can do, in one list of cases, and `step_message`;
* `ends_on_answer_iff`: the loop ends only when the device has answered that no
  record follows, exactly in the runs in which no other message arrives between
  two sets; `stray_event_ends_loop` is a run in which one does.
-/

namespace SopepApp.ReadData

open Dart Transition

/-- The variables of one run of `_getDataLoop` and the fields it assigns. -/
structure ReadLoop where
  seqCounter : ℤ
  startSetFound : Bool := false
  pressureDataRaw : List DataMap := []
  /-- `_streamSubscriptionReadData` is not null; it is live as long -/
  streamSubscriptionReadData : Bool := true
  readingComplete : Bool := false
  completeMessage : String := ""
  currentSesSet : String := ""
  /-- the dialog is on the screen -/
  mounted : Bool := true
  /-- the delayed closures that have not fired -/
  delayed : ℕ := 0
  /-- the sequence numbers given to `getData` -/
  requests : List ℤ := []
  /-- the files given to the storage -/
  files : List SavedFile := []
  deriving DecidableEq

/-- `setState(fn)`: after the callback the element is marked for a rebuild,
which throws when the widget has been disposed of. -/
def setState (fn : ReadLoop → ReadLoop) : Effect ReadLoop Unit := do
  modify fn
  if ¬ (← get).mounted then
    throw .unmounted

/-- `widget.sopepInteractor.getData(seq)`. -/
def getData (seq : ℤ) : Effect ReadLoop Unit :=
  modify fun s => { s with requests := s.requests ++ [seq] }

/-- The call of `_formatData` on the buffer. -/
def callFormatData (p : Platform) (sopepId : String) : Effect ReadLoop Unit := fun s =>
  match (formatData p sopepId s.pressureDataRaw).run s.files with
  | .ok _ files => .ok () { s with files := files }
  | .error e files => .error e { s with files := files }

/-- A `read-data` response with a sequence number. -/
def isRecord (dataMap : DataMap) : Bool :=
  dataMap.get "rsp" = .string "read-data" ∧ dataMap.get "seq" ≠ .null

/-- The listener of `_getDataLoop`. -/
def getDataLoopListener (p : Platform) (sopepId : String) (dataMap : DataMap) :
    Effect ReadLoop Unit := do
  if isRecord dataMap then
    if (dataMap.get "seq").eqInt (int64 ((← get).seqCounter + 1)) then
      if isStart dataMap then
        setState fun s => { s with
          currentSesSet := "Reading session: " ++ (dataMap.get "session").toText p ++ ", set: " ++
            (dataMap.get "set").toText p
          startSetFound := true }
      if (← get).startSetFound then
        modify fun s => { s with pressureDataRaw := s.pressureDataRaw ++ [dataMap] }
        if isEnd dataMap then
          callFormatData p sopepId
          modify fun s => { s with pressureDataRaw := [], startSetFound := false }
      modify fun s => { s with seqCounter := int64 (s.seqCounter + 1) }
      getData (← get).seqCounter
  else if (← get).startSetFound then
    modify fun s => { s with delayed := s.delayed + 1 }
  else
    if ¬ (← get).streamSubscriptionReadData then
      throw .nullCheck
    modify fun s => { s with streamSubscriptionReadData := false }
    setState fun s => { s with completeMessage := "Reading Complete", readingComplete := true }

/-- What happens during the loop while its dialog is open. -/
inductive Event where
  /-- a message on the stream of responses -/
  | message (dataMap : DataMap)
  /-- a delayed closure fires -/
  | delayedRequest

/-- One event. A message reaches the listener while it is subscribed. -/
def step (p : Platform) (sopepId : String) (s : ReadLoop) : Event → ReadLoop
  | .message dataMap =>
    if s.streamSubscriptionReadData then (getDataLoopListener p sopepId dataMap).finalState s
    else s
  | .delayedRequest =>
    if s.delayed = 0 then s
    else { s with delayed := s.delayed - 1, requests := s.requests ++ [s.seqCounter] }

/-- The start of `_getDataLoop(seqOldest)`. -/
def start (seqOldest : ℤ) : ReadLoop :=
  { seqCounter := int64 (seqOldest - 1), requests := [int64 (seqOldest - 1)] }

/-! ### What a message can do -/

variable {p : Platform} {sopepId : String} {s : ReadLoop} {m : DataMap}

/-- The message is the record that the loop waits for. -/
def Awaited (s : ReadLoop) (m : DataMap) : Prop :=
  isRecord m = true ∧ (m.get "seq").eqInt (int64 (s.seqCounter + 1))

instance (s : ReadLoop) (m : DataMap) : Decidable (Awaited s m) :=
  inferInstanceAs (Decidable (_ ∧ _))

/-- The record closes the set that is being read. -/
def Closes (s : ReadLoop) (m : DataMap) : Prop :=
  s.startSetFound = true ∧ isEnd m = true

instance (s : ReadLoop) (m : DataMap) : Decidable (Closes s m) :=
  inferInstanceAs (Decidable (_ ∧ _))

/-- The loop with the next record taken: the counter and the request for the
one that follows. -/
def ReadLoop.advance (s : ReadLoop) : ReadLoop :=
  { s with
    seqCounter := int64 (s.seqCounter + 1)
    requests := s.requests ++ [int64 (s.seqCounter + 1)] }

/-- **What a message does** to a loop that is subscribed and on the screen. -/
inductive Reaction (p : Platform) (sopepId : String) (s : ReadLoop) (m : DataMap) :
    ReadLoop → Prop
  /-- a record out of turn is ignored, and nothing is sent -/
  | ignored (hrecord : isRecord m = true) (hseq : ¬ Awaited s m) : Reaction p sopepId s m s
  /-- a record outside a set is counted -/
  | skipped (hseq : Awaited s m) (hset : s.startSetFound = false) (hstart : isStart m = false) :
      Reaction p sopepId s m s.advance
  /-- a set is opened, perhaps while another is open -/
  | opened (hseq : Awaited s m) (hstart : isStart m = true) (text : String) :
      Reaction p sopepId s m { s with
        currentSesSet := text
        startSetFound := true
        pressureDataRaw := s.pressureDataRaw ++ [m] }.advance
  /-- a record of the open set -/
  | added (hseq : Awaited s m) (hset : s.startSetFound = true) (hstart : isStart m = false)
      (hend : isEnd m = false) :
      Reaction p sopepId s m { s with pressureDataRaw := s.pressureDataRaw ++ [m] }.advance
  /-- the open set is closed and saved -/
  | closed (hseq : Awaited s m) (hclose : Closes s m) {files : List SavedFile}
      (hformat : (formatData p sopepId (s.pressureDataRaw ++ [m])).run s.files = .ok () files) :
      Reaction p sopepId s m { s with
        startSetFound := false
        pressureDataRaw := []
        files := files }.advance
  /-- `_formatData` throws: the record stays in the buffer and nothing is sent -/
  | failed (hseq : Awaited s m) (hclose : Closes s m) {e : Error} {files : List SavedFile}
      (hformat : (formatData p sopepId (s.pressureDataRaw ++ [m])).run s.files = .error e files) :
      Reaction p sopepId s m { s with
        pressureDataRaw := s.pressureDataRaw ++ [m]
        files := files }
  /-- any other message inside a set leads to a request in 500 ms -/
  | retried (hrecord : isRecord m = false) (hset : s.startSetFound = true) :
      Reaction p sopepId s m { s with delayed := s.delayed + 1 }
  /-- any other message outside a set ends the loop -/
  | ended (hrecord : isRecord m = false) (hset : s.startSetFound = false) :
      Reaction p sopepId s m { s with
        streamSubscriptionReadData := false
        completeMessage := "Reading Complete"
        readingComplete := true }

lemma callFormatData_ok {files : List SavedFile}
    (h : (formatData p sopepId s.pressureDataRaw).run s.files = .ok () files) :
    (callFormatData p sopepId).run s = .ok () { s with files := files } := by
  rw [EStateM.run, callFormatData, h]

lemma callFormatData_error {e : Error} {files : List SavedFile}
    (h : (formatData p sopepId s.pressureDataRaw).run s.files = .error e files) :
    (callFormatData p sopepId).run s = .error e { s with files := files } := by
  rw [EStateM.run, callFormatData, h]

/-- A message does one of these. -/
lemma step_message (p : Platform) (sopepId : String) (m : DataMap)
    (hsub : s.streamSubscriptionReadData = true) (hmounted : s.mounted = true) :
    Reaction p sopepId s m (step p sopepId s (.message m)) := by
  rw [step, if_pos hsub, getDataLoopListener]
  cases hrecord : isRecord m with
  | true =>
      rw [if_pos rfl, Effect.finalState_get_bind]
      by_cases hseq : (m.get "seq").eqInt (int64 (s.seqCounter + 1))
      · have hawaited : Awaited s m := ⟨hrecord, hseq⟩
        rw [if_pos hseq]
        cases hstart : isStart m with
        | true =>
            have hend : isEnd m = false := isEnd_of_isStart hstart
            have hreaction : Reaction p sopepId s m _ := Reaction.opened hawaited hstart
              ("Reading session: " ++ (m.get "session").toText p ++ ", set: " ++
                (m.get "set").toText p)
            simpa [setState, hmounted, hend, getData, ReadLoop.advance] using hreaction
        | false =>
            cases hset : s.startSetFound with
            | false =>
                have hreaction : Reaction p sopepId s m _ := Reaction.skipped hawaited hset hstart
                simpa [hset, getData, ReadLoop.advance] using hreaction
            | true =>
                cases hend : isEnd m with
                | false =>
                    have hreaction : Reaction p sopepId s m _ :=
                      Reaction.added hawaited hset hstart hend
                    simpa [hset, getData, ReadLoop.advance] using hreaction
                | true =>
                    have hclose : Closes s m := ⟨hset, hend⟩
                    simp only [hset, Bool.false_eq_true, if_false, if_true,
                      Effect.finalState_get_bind, Effect.finalState_modify_bind]
                    cases hformat :
                        (formatData p sopepId (s.pressureDataRaw ++ [m])).run s.files with
                    | ok u files =>
                        rw [Effect.finalState_bind_of_ok (callFormatData_ok hformat)]
                        exact Reaction.closed hawaited hclose hformat
                    | error e files =>
                        rw [Effect.finalState_bind_of_error (callFormatData_error hformat)]
                        have hreaction := Reaction.failed (p := p) hawaited hclose hformat
                        rw [hset] at hreaction
                        exact hreaction
      · rw [if_neg hseq]
        exact Reaction.ignored hrecord fun h => hseq h.2
  | false =>
      rw [if_neg (by simp), Effect.finalState_get_bind]
      cases hset : s.startSetFound with
      | true => exact Reaction.retried hrecord hset
      | false =>
          have hreaction : Reaction p sopepId s m _ := Reaction.ended hrecord hset
          simpa [hsub, setState, hmounted] using hreaction

/-- Without a subscription a message is not received. -/
lemma step_message_unsubscribed (hsub : s.streamSubscriptionReadData = false) :
    step p sopepId s (.message m) = s := by
  rw [step, hsub]
  rfl

/-- The fields of the dialog that no message changes. -/
lemma step_mounted (hmounted : s.mounted = true) (e : Event) :
    (step p sopepId s e).mounted = true := by
  cases e with
  | message m =>
      cases hsub : s.streamSubscriptionReadData with
      | true =>
          have hreaction := step_message p sopepId m hsub hmounted
          generalize step p sopepId s (.message m) = s' at hreaction
          cases hreaction <;> exact hmounted
      | false =>
          rw [step_message_unsubscribed hsub]
          exact hmounted
  | delayedRequest =>
      rw [step]
      split_ifs
      · exact hmounted
      · exact hmounted

/-! ### When the loop ends -/

/-- The loop ends between two states: the subscription is cancelled or the
reading is reported as complete. -/
def Ends (s s' : ReadLoop) : Prop :=
  (s.streamSubscriptionReadData = true ∧ s'.streamSubscriptionReadData = false) ∨
    (s.readingComplete = false ∧ s'.readingComplete = true)

/-- The loop ends only on a `read-data` response without a sequence number. -/
def EndsOnAnswer (p : Platform) (sopepId : String) (s : ReadLoop) (e : Event) : Prop :=
  Ends s (step p sopepId s e) →
    ∃ m, e = .message m ∧ m.get "rsp" = .string "read-data" ∧ m.get "seq" = .null

/-- No message but a `read-data` response arrives while the loop is reading and
no set is open. -/
def NoStray (s : ReadLoop) (e : Event) : Prop :=
  s.streamSubscriptionReadData = true → s.startSetFound = false →
    ∀ m, e = .message m → m.get "rsp" = .string "read-data"

lemma rsp_of_isRecord (h : isRecord m = true) : m.get "rsp" = .string "read-data" := by
  rw [isRecord, decide_eq_true_iff] at h
  exact h.1

lemma seq_of_isRecord (h : isRecord m = false) (hrsp : m.get "rsp" = .string "read-data") :
    m.get "seq" = .null := by
  rw [isRecord, decide_eq_false_iff_not] at h
  by_contra hseq
  exact h ⟨hrsp, hseq⟩

/-- Nothing ends while the two fields stay as they are. -/
lemma not_ends {s' : ReadLoop} (hsub : s'.streamSubscriptionReadData = s.streamSubscriptionReadData)
    (hcomplete : s'.readingComplete = s.readingComplete) : ¬ Ends s s' := by
  rintro (⟨h1, h2⟩ | ⟨h1, h2⟩)
  · exact absurd h2 (ne_false_of_eq_true (hsub.trans h1))
  · exact absurd h2 (ne_true_of_eq_false (hcomplete.trans h1))

lemma endsOnAnswer_iff (hmounted : s.mounted = true) (e : Event) :
    EndsOnAnswer p sopepId s e ↔ NoStray s e := by
  cases e with
  | message m =>
      cases hsub : s.streamSubscriptionReadData with
      | true =>
          have hstray : isRecord m = true ∨ s.startSetFound = true → NoStray s (.message m) := by
            intro h _ hset m' hm'
            obtain rfl := Event.message.inj hm'
            rcases h with h | h
            · exact rsp_of_isRecord h
            · exact absurd h (ne_true_of_eq_false hset)
          have hreaction := step_message p sopepId m hsub hmounted
          rw [EndsOnAnswer]
          generalize step p sopepId s (.message m) = s' at hreaction
          cases hreaction with
          | ignored hrecord _ =>
              exact iff_of_true (fun h => absurd h (not_ends rfl rfl)) (hstray (Or.inl hrecord))
          | skipped hseq _ _ =>
              exact iff_of_true (fun h => absurd h (not_ends rfl rfl)) (hstray (Or.inl hseq.1))
          | opened hseq _ _ =>
              exact iff_of_true (fun h => absurd h (not_ends rfl rfl)) (hstray (Or.inl hseq.1))
          | added hseq _ _ _ =>
              exact iff_of_true (fun h => absurd h (not_ends rfl rfl)) (hstray (Or.inl hseq.1))
          | closed hseq _ _ =>
              exact iff_of_true (fun h => absurd h (not_ends rfl rfl)) (hstray (Or.inl hseq.1))
          | failed hseq _ _ =>
              exact iff_of_true (fun h => absurd h (not_ends rfl rfl)) (hstray (Or.inl hseq.1))
          | retried _ hset =>
              exact iff_of_true (fun h => absurd h (not_ends rfl rfl)) (hstray (Or.inr hset))
          | ended hrecord hset =>
              refine ⟨fun h _ _ m' hm' => ?_, fun h _ => ?_⟩
              · obtain ⟨m'', hm'', hrsp, -⟩ := h (Or.inl ⟨hsub, rfl⟩)
                rw [← Event.message.inj hm', Event.message.inj hm'']
                exact hrsp
              · have hrsp := h hsub hset m rfl
                exact ⟨m, rfl, hrsp, seq_of_isRecord hrecord hrsp⟩
      | false =>
          rw [EndsOnAnswer, step_message_unsubscribed hsub]
          exact iff_of_true (fun h => absurd h (not_ends rfl rfl)) fun h =>
            absurd h (ne_true_of_eq_false hsub)
  | delayedRequest =>
      refine iff_of_true (fun h => absurd h ?_) fun _ _ m hm => absurd hm nofun
      rw [step]
      split_ifs
      · exact not_ends rfl rfl
      · exact not_ends rfl rfl

/-- **The loop ends early exactly on stray messages**: in a run of
`_getDataLoop` every step that ends the loop is a `read-data` response without
a sequence number, exactly when no other message arrives outside a set. -/
theorem ends_on_answer_iff (seqOldest : ℤ) (es : List Event) :
    Always (step p sopepId) (EndsOnAnswer p sopepId) (start seqOldest) es ↔
      Always (step p sopepId) NoStray (start seqOldest) es :=
  always_congr (I := fun s => s.mounted = true)
    (Throughout.of_invariant rfl fun _ e h => step_mounted h e) fun _ e h => endsOnAnswer_iff h e

/-- A `new-data` event right after the start ends the loop. -/
theorem stray_event_ends_loop :
    ¬ ∀ (p : Platform) (sopepId : String) (seqOldest : ℤ) (es : List Event),
      Always (step p sopepId) (EndsOnAnswer p sopepId) (start seqOldest) es := by
  intro h
  obtain ⟨m, hm, hrsp, -⟩ := h ⟨fun _ => "", fun _ _ => ""⟩ "" 5 [.message newDataEvent] [] _ [] rfl
    (Or.inl ⟨rfl, by decide +kernel⟩)
  rw [← Event.message.inj hm] at hrsp
  exact absurd hrsp (by decide)

end SopepApp.ReadData
