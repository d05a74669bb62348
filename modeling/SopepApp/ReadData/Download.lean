import SopepApp.ReadData.Progress

/-!
A whole download: the read loop, the device it reads from, and the messages
between them, each way in order.

* `Link`, `linkStep`: the loop, the records of the device, and what is on the
  way; the device may store records during the download;
* `Faithful`: the device answers a request with the record of the next number,
  or with no number while there is none;
* `Synced`: the loop has accepted the first records of the device;
  `Synced.step`: what one event keeps;
* `download_exact`: when the loop has ended, its files are those of all sets
  that the device held when it answered that nothing follows;
* `download_terminates`: as soon as the device stores nothing more, the loop
  ends after a bounded number of transfers, and there is always one to make.
-/

namespace SopepApp.ReadData

open Dart Transition Sections

variable {p : Platform} {sopepId : String} {seqOldest : ℤ} {stored : List DataMap} {s : ReadLoop}
  {m : DataMap} {j k : ℕ}

/-- The loop, the device, and what is on the way between them. -/
structure Link where
  loop : ReadLoop
  /-- the records of the device, the oldest first -/
  stored : List DataMap
  /-- the requests that the device has not answered -/
  requests : List ℤ
  /-- the responses that have not arrived -/
  responses : List DataMap
  deriving DecidableEq

/-- What happens during a download. -/
inductive LinkEvent where
  /-- the device stores a record -/
  | store (record : DataMap)
  /-- the device answers the oldest request -/
  | answer (m : DataMap)
  /-- the oldest response arrives -/
  | deliver
  /-- another message arrives -/
  | unrelated (m : DataMap)
  /-- a delayed closure fires -/
  | delayedRequest

/-- The loop takes a step; what it sends is on the way to the device. -/
def Link.react (p : Platform) (sopepId : String) (l : Link) (e : Event) : Link :=
  { l with
    loop := step p sopepId l.loop e
    requests := l.requests ++ sentBy p sopepId l.loop e }

/-- One event. -/
def linkStep (p : Platform) (sopepId : String) (l : Link) : LinkEvent → Link
  | .store record => { l with stored := l.stored ++ [record] }
  | .answer m =>
    match l.requests with
    | [] => l
    | _ :: requests => { l with requests := requests, responses := l.responses ++ [m] }
  | .deliver =>
    match l.responses with
    | [] => l
    | m :: responses => { l with responses := responses }.react p sopepId (.message m)
  | .unrelated m => l.react p sopepId (.message m)
  | .delayedRequest => l.react p sopepId .delayedRequest

/-- The link after `_getDataLoop(seqOldest)`. -/
def linkStart (seqOldest : ℤ) (stored : List DataMap) : Link :=
  { loop := start seqOldest, stored := stored, requests := (start seqOldest).requests,
    responses := [] }

/-- What a device stores: well-formed records, numbered from `seqOldest` on in
the range of an int. -/
structure Journal (seqOldest : ℤ) (stored : List DataMap) : Prop where
  numbered : ∀ (k : ℕ) (r : DataMap), stored[k]? = some r →
    r.get "rsp" = .string "read-data" ∧ r.get "seq" = .int (seqOldest + k)
  wellFormed : WellFormedRun stored
  low : -2 ^ 63 < seqOldest
  high : seqOldest + stored.length < 2 ^ 63

lemma numbered_iff : (∀ k : Fin stored.length, (stored.get k).get "rsp" = .string "read-data" ∧
    (stored.get k).get "seq" = .int (seqOldest + (k : ℕ))) ∧ WellFormedRun stored ∧
      -2 ^ 63 < seqOldest ∧ seqOldest + stored.length < 2 ^ 63 ↔ Journal seqOldest stored := by
  constructor
  · rintro ⟨hnumbered, hwf, hlow, hhigh⟩
    refine ⟨fun k r hr => ?_, hwf, hlow, hhigh⟩
    obtain ⟨hk, rfl⟩ := List.getElem?_eq_some_iff.mp hr
    exact hnumbered ⟨k, hk⟩
  · intro h
    exact ⟨fun k => h.numbered k _ (List.getElem?_eq_getElem k.isLt), h.wellFormed, h.low, h.high⟩

instance : Decidable (Journal seqOldest stored) := decidable_of_iff _ numbered_iff

/-- The response of a device that has no record to send. -/
def NoData (m : DataMap) : Prop := m.get "rsp" = .string "read-data" ∧ m.get "seq" = .null

instance (m : DataMap) : Decidable (NoData m) := inferInstanceAs (Decidable (_ ∧ _))

lemma NoData.isRecord {m : DataMap} (h : NoData m) : isRecord m = false := by
  rw [ReadData.isRecord, decide_eq_false_iff_not]
  exact fun hrecord => hrecord.2 h.2

/-- The answer to the request for the record after `seq`. -/
def Answer (seqOldest : ℤ) (stored : List DataMap) (seq : ℤ) (m : DataMap) : Prop :=
  match stored[(seq + 1 - seqOldest).toNat]? with
  | some record => m = record
  | none => NoData m

instance (seqOldest : ℤ) (stored : List DataMap) (seq : ℤ) (m : DataMap) :
    Decidable (Answer seqOldest stored seq m) := by
  unfold Answer
  split <;> infer_instance

/-- **What is expected of the device**: it stores records in order and answers
each request with the next record, if there is one; its other messages arrive
only while a set is open. -/
def Faithful (seqOldest : ℤ) (l : Link) : LinkEvent → Prop
  | .store record => Journal seqOldest (l.stored ++ [record])
  | .answer m => ∀ seq ∈ l.requests.head?, Answer seqOldest l.stored seq m
  | .deliver => True
  | .unrelated m => m.get "rsp" ≠ .string "read-data" ∧
    (l.loop.streamSubscriptionReadData = true → l.loop.startSetFound = true)
  | .delayedRequest => True

instance (seqOldest : ℤ) (l : Link) (e : LinkEvent) : Decidable (Faithful seqOldest l e) := by
  unfold Faithful
  split <;> infer_instance

variable {l : Link}

/-! ### Journals -/

lemma int64_of_range {n : ℤ} (hlow : -2 ^ 63 ≤ n) (hhigh : n < 2 ^ 63) : int64 n = n :=
  Int.bmod_eq_of_le (by norm_num at hlow ⊢; omega) (by norm_num at hhigh ⊢; omega)

lemma Journal.of_concat {record : DataMap} (h : Journal seqOldest (stored ++ [record])) :
    Journal seqOldest stored where
  numbered k r hr := h.numbered k r (by
    rw [List.getElem?_append_left (List.getElem?_eq_some_iff.mp hr).1, hr])
  wellFormed := h.wellFormed.of_prefix (List.prefix_append _ _)
  low := h.low
  high := by
    have hhigh := h.high
    rw [List.length_append, List.length_singleton] at hhigh
    push_cast at hhigh
    omega

lemma Journal.isRecord (h : Journal seqOldest stored) (hm : stored[j]? = some m) :
    isRecord m = true := by
  obtain ⟨hrsp, hseq⟩ := h.numbered j m hm
  rw [ReadData.isRecord, hrsp, hseq]
  exact decide_eq_true ⟨rfl, Value.noConfusion⟩

lemma Journal.not_noData (h : Journal seqOldest stored) (hm : stored[j]? = some m) : ¬ NoData m := by
  intro hnone
  have hseq := (h.numbered j m hm).2
  rw [hnone.2] at hseq
  exact absurd hseq (by simp)

/-- A record has one number. -/
lemma Journal.index_inj (h : Journal seqOldest stored) (hj : stored[j]? = some m)
    (hk : stored[k]? = some m) : j = k := by
  have hseq := (h.numbered j m hj).2.symm.trans (h.numbered k m hk).2
  have hint := Value.int.inj hseq
  omega

/-- The record that the loop waits for is the next one of the device. -/
lemma Journal.awaited_iff (h : Journal seqOldest stored) (hcounter : s.seqCounter = seqOldest - 1 + k)
    (hk : k ≤ stored.length) (hm : stored[j]? = some m) : Awaited s m ↔ j = k := by
  have hnext : int64 (s.seqCounter + 1) = seqOldest + k := by
    have hlow := h.low
    have hhigh := h.high
    rw [hcounter, int64_of_range (by omega) (by omega)]
    omega
  rw [Awaited, hnext, Value.eqInt, (h.numbered j m hm).2, Value.toInt?, Option.some.injEq]
  refine ⟨fun hawaited => ?_, fun heq => ⟨h.isRecord hm, by rw [heq]⟩⟩
  have heq := hawaited.2
  omega

/-! ### One message -/

/-- **The next record is accepted**, and the one after it requested. -/
lemma Tracks.accept (h : Tracks p sopepId seqOldest (stored.take k) s)
    (hwf : WellFormedRun stored) (hsub : s.streamSubscriptionReadData = true)
    (hm : stored[k]? = some m) (hawaited : Awaited s m) :
    Tracks p sopepId seqOldest (stored.take (k + 1)) (ReadData.step p sopepId s (.message m)) ∧
      (ReadData.step p sopepId s (.message m)).readingComplete = s.readingComplete ∧
      (ReadData.step p sopepId s (.message m)).streamSubscriptionReadData = true ∧
      (ReadData.step p sopepId s (.message m)).delayed = s.delayed ∧
      sentBy p sopepId s (.message m) = [int64 (s.seqCounter + 1)] := by
  have htake : stored.take (k + 1) = stored.take k ++ [m] := by
    rw [List.take_add_one, hm]
    rfl
  have htaken : taken s (.message m) = [m] := if_pos ⟨hsub, hawaited⟩
  have htracks := h.step (.message m) (by
    rw [htaken, ← htake]
    exact hwf.of_prefix (List.take_prefix _ _))
  rw [htaken, ← htake] at htracks
  refine ⟨htracks, ?_⟩
  have hreaction := step_message p sopepId m hsub h.mounted
  rw [sentBy]
  generalize ReadData.step p sopepId s (.message m) = s' at hreaction htracks
  cases hreaction with
  | ignored _ hseq => exact absurd hawaited hseq
  | failed _ hclose hformat =>
      -- the record would still be in the buffer, though its set is closed
      have hend := htracks.noEnd m (List.mem_append_right _ (List.mem_singleton_self m))
      exact absurd hclose.2 (ne_true_of_eq_false hend)
  | retried hrecord _ => exact absurd hawaited.1 (ne_true_of_eq_false hrecord)
  | ended hrecord _ => exact absurd hawaited.1 (ne_true_of_eq_false hrecord)
  | _ => exact ⟨rfl, hsub, rfl, List.drop_left⟩

/-- A record that is not awaited is ignored. -/
lemma step_ignored (hmounted : s.mounted = true) (hrecord : isRecord m = true)
    (hawaited : ¬ Awaited s m) : step p sopepId s (.message m) = s := by
  cases hsub : s.streamSubscriptionReadData with
  | true =>
      have hreaction := step_message p sopepId m hsub hmounted
      generalize step p sopepId s (.message m) = s' at hreaction
      cases hreaction with
      | ignored => rfl
      | skipped hseq _ _ => exact absurd hseq hawaited
      | opened hseq _ _ => exact absurd hseq hawaited
      | added hseq _ _ _ => exact absurd hseq hawaited
      | closed hseq _ _ => exact absurd hseq hawaited
      | failed hseq _ _ => exact absurd hseq hawaited
      | retried hnone _ => exact absurd hrecord (ne_true_of_eq_false hnone)
      | ended hnone _ => exact absurd hrecord (ne_true_of_eq_false hnone)
  | false => exact step_message_unsubscribed hsub

/-- Any other message leads to a delayed request while a set is open, and else
ends the loop. -/
lemma step_other (hmounted : s.mounted = true) (hsub : s.streamSubscriptionReadData = true)
    (hrecord : isRecord m = false) :
    step p sopepId s (.message m) =
      if s.startSetFound then { s with delayed := s.delayed + 1 }
      else { s with
        streamSubscriptionReadData := false
        completeMessage := "Reading Complete"
        readingComplete := true } := by
  have hreaction := step_message p sopepId m hsub hmounted
  generalize step p sopepId s (.message m) = s' at hreaction
  cases hreaction with
  | ignored hsome _ => exact absurd hsome (ne_true_of_eq_false hrecord)
  | skipped hseq _ _ => exact absurd hseq.1 (ne_true_of_eq_false hrecord)
  | opened hseq _ _ => exact absurd hseq.1 (ne_true_of_eq_false hrecord)
  | added hseq _ _ _ => exact absurd hseq.1 (ne_true_of_eq_false hrecord)
  | closed hseq _ _ => exact absurd hseq.1 (ne_true_of_eq_false hrecord)
  | failed hseq _ _ => exact absurd hseq.1 (ne_true_of_eq_false hrecord)
  | retried _ hset => rw [if_pos hset]
  | ended _ hset => rw [if_neg (ne_true_of_eq_false hset)]

/-! ### What is on the way -/

/-- A response that comes from the first `n` records of the device. -/
def Sent (stored : List DataMap) (n : ℕ) (m : DataMap) : Prop :=
  NoData m ∨ ∃ j < n, stored[j]? = some m

lemma Sent.mono {n n' : ℕ} (h : Sent stored n m) (hle : n ≤ n') : Sent stored n' m := by
  rcases h with hnone | ⟨j, hj, hm⟩
  · exact Or.inl hnone
  · exact Or.inr ⟨j, hj.trans_le hle, hm⟩

lemma Sent.append {n : ℕ} (h : Sent stored n m) (record : DataMap) :
    Sent (stored ++ [record]) n m := by
  rcases h with hnone | ⟨j, hj, hm⟩
  · exact Or.inl hnone
  · exact Or.inr ⟨j, hj,
      by rw [List.getElem?_append_left (List.getElem?_eq_some_iff.mp hm).1, hm]⟩

/-- The next record does not come from those before it. -/
lemma Journal.not_sent (h : Journal seqOldest stored) (hm : stored[k]? = some m) :
    ¬ Sent stored k m := by
  rintro (hnone | ⟨j, hj, hjm⟩)
  · exact h.not_noData hm hnone
  · exact absurd (h.index_inj hjm hm) (by omega)

/-- **The loop has accepted the first `k` records**, and what is on the way is
about them and the next one. `Known` holds of the records of which the device
has answered that nothing follows. -/
structure Synced (p : Platform) (sopepId : String) (seqOldest : ℤ) (Known : List DataMap → Prop)
    (k : ℕ) (l : Link) : Prop where
  journal : Journal seqOldest l.stored
  le : k ≤ l.stored.length
  tracks : Tracks p sopepId seqOldest (l.stored.take k) l.loop
  subscribed : l.loop.streamSubscriptionReadData = !l.loop.readingComplete
  requests : ∀ seq ∈ l.requests, ∃ j ≤ k, seq = seqOldest - 1 + (j : ℕ)
  responses : ∀ m ∈ l.responses, Sent l.stored (k + 1) m
  /-- what stands before an empty response has been accepted -/
  behind : ∀ pre m post, l.responses = pre ++ m :: post → NoData m → ∀ r ∈ pre, Sent l.stored k r
  known : ∀ m ∈ l.responses, NoData m → Known (l.stored.take k)
  complete : l.loop.readingComplete = true →
    Known (l.stored.take k) ∧ l.loop.startSetFound = false
  /-- something that leads on is on the way -/
  live : l.loop.readingComplete = false → 0 < l.loop.delayed ∨ seqOldest - 1 + k ∈ l.requests ∨
    ∃ m ∈ l.responses, NoData m ∨ l.stored[k]? = some m

variable {Known Known' : List DataMap → Prop}

lemma Synced.counter (h : Synced p sopepId seqOldest Known k l) :
    l.loop.seqCounter = seqOldest - 1 + k := by
  have hlow := h.journal.low
  have hhigh := h.journal.high
  have hle := h.le
  rw [h.tracks.counter, List.length_take, Nat.min_eq_left hle,
    int64_of_range (by omega) (by omega)]

lemma Synced.mono (h : Synced p sopepId seqOldest Known k l) (hk : ∀ acc, Known acc → Known' acc) :
    Synced p sopepId seqOldest Known' k l :=
  { h with
    known := fun m hm hnone => hk _ (h.known m hm hnone)
    complete := fun hc => ⟨hk _ (h.complete hc).1, (h.complete hc).2⟩ }

lemma synced_start (h : Journal seqOldest stored) :
    Synced p sopepId seqOldest Known 0 (linkStart seqOldest stored) where
  journal := h
  le := Nat.zero_le _
  tracks := tracks_start
  subscribed := rfl
  requests seq hseq := by
    have hlow := h.low
    have hhigh := h.high
    rw [linkStart, start, List.mem_singleton, int64_of_range (by omega) (by omega)] at hseq
    exact ⟨0, le_rfl, by rw [hseq]; simp⟩
  responses m hm := absurd hm List.not_mem_nil
  behind pre m post heq := absurd heq (by simp [linkStart])
  known m hm := absurd hm List.not_mem_nil
  complete hc := absurd hc (by simp [linkStart, start])
  live _ := by
    have hlow := h.low
    have hhigh := h.high
    refine Or.inr (Or.inl ?_)
    rw [linkStart, start, List.mem_singleton, int64_of_range (by omega) (by omega)]
    simp

/-! ### One event -/

/-- The device stores one more record. -/
lemma Synced.store (h : Synced p sopepId seqOldest Known k l) {record : DataMap}
    (hj : Journal seqOldest (l.stored ++ [record])) :
    Synced p sopepId seqOldest Known k (linkStep p sopepId l (.store record)) := by
  have htake : (l.stored ++ [record]).take k = l.stored.take k :=
    List.take_append_of_le_length h.le
  refine ⟨hj, ?_, ?_, h.subscribed, h.requests, fun m hm => (h.responses m hm).append record,
    fun pre m post heq hnone r hr => (h.behind pre m post heq hnone r hr).append record,
    ?_, ?_, ?_⟩
  · exact h.le.trans (by simp [linkStep])
  · exact htake.symm ▸ h.tracks
  · exact htake.symm ▸ h.known
  · exact htake.symm ▸ h.complete
  · intro hread
    refine (h.live hread).imp_right (Or.imp_right ?_)
    rintro ⟨m, hm, hnone | hrecord⟩
    · exact ⟨m, hm, Or.inl hnone⟩
    · refine ⟨m, hm, Or.inr ?_⟩
      change (l.stored ++ [record])[k]? = some m
      rw [List.getElem?_append_left (List.getElem?_eq_some_iff.mp hrecord).1, hrecord]

/-- The device answers: with the record that is asked for, or, if all have been
accepted, with none. -/
lemma Synced.answer (h : Synced p sopepId seqOldest Known k l) {seq : ℤ} {requests : List ℤ}
    (hrequests : l.requests = seq :: requests) (hm : Answer seqOldest l.stored seq m)
    (hknown : NoData m → Known l.stored) :
    Synced p sopepId seqOldest Known k (linkStep p sopepId l (.answer m)) ∧
      (NoData m → k = l.stored.length) := by
  obtain ⟨j, hj, hseq⟩ := h.requests seq (by rw [hrequests]; exact List.mem_cons_self)
  have hle := h.le
  have hindex : (seq + 1 - seqOldest).toNat = j := by omega
  rw [Answer, hindex] at hm
  have hstep : linkStep p sopepId l (.answer m) =
      { l with requests := requests, responses := l.responses ++ [m] } := by
    rw [linkStep, hrequests]
  have hall : NoData m → j = k ∧ k = l.stored.length := by
    intro hnone
    cases hget : l.stored[j]? with
    | none =>
        have hlen := List.getElem?_eq_none_iff.mp hget
        omega
    | some record =>
        rw [hget] at hm
        exact absurd (hm ▸ hnone) (h.journal.not_noData hget)
  have hsent : NoData m ∨ l.stored[j]? = some m := by
    cases hget : l.stored[j]? with
    | none =>
        rw [hget] at hm
        exact Or.inl hm
    | some record =>
        rw [hget] at hm
        exact Or.inr (by rw [hm])
  rw [hstep]
  refine ⟨⟨h.journal, h.le, h.tracks, h.subscribed, ?_, ?_, ?_, ?_, h.complete, ?_⟩,
    fun hnone => (hall hnone).2⟩
  · intro seq' hseq'
    exact h.requests seq' (by rw [hrequests]; exact List.mem_cons_of_mem _ hseq')
  · intro r hr
    rcases List.mem_append.mp hr with hr | hr
    · exact h.responses r hr
    · rw [List.mem_singleton.mp hr]
      exact hsent.imp_right fun hget => ⟨j, by omega, hget⟩
  · intro pre r post heq hnone r' hr'
    rcases concat_eq_append_cons.mp heq with ⟨rfl, rfl, rfl⟩ | ⟨post', rfl, hpre⟩
    · -- all records have been accepted, those on the way included
      refine (h.responses r' hr').imp_right ?_
      rintro ⟨i, -, hi⟩
      refine ⟨i, ?_, hi⟩
      have hlt := (List.getElem?_eq_some_iff.mp hi).1
      have hlen := (hall hnone).2
      omega
    · exact h.behind pre r post' hpre hnone r' hr'
  · intro r hr hnone
    rcases List.mem_append.mp hr with hr | hr
    · exact h.known r hr hnone
    · obtain rfl := List.mem_singleton.mp hr
      rw [List.take_of_length_le (hall hnone).2.ge]
      exact hknown hnone
  · intro hread
    rcases h.live hread with hdelayed | hcurrent | ⟨r, hr, hlead⟩
    · exact Or.inl hdelayed
    · rw [hrequests, List.mem_cons] at hcurrent
      rcases hcurrent with hcurrent | hcurrent
      · obtain rfl : j = k := by omega
        exact Or.inr (Or.inr ⟨m, List.mem_append_right _ (List.mem_singleton_self m), hsent⟩)
      · exact Or.inr (Or.inl hcurrent)
    · exact Or.inr (Or.inr ⟨r, List.mem_append_left _ hr, hlead⟩)

/-- A step of the loop that accepts nothing, with the responses of which it has
taken the first ones. -/
lemma Synced.update (h : Synced p sopepId seqOldest Known k l) {taken rest : List DataMap}
    (hrest : l.responses = taken ++ rest) {sent : List ℤ}
    (hsent : ∀ seq ∈ sent, seq = seqOldest - 1 + k)
    (htracks : Tracks p sopepId seqOldest (l.stored.take k) s)
    (hsub : s.streamSubscriptionReadData = !s.readingComplete)
    (hcomplete : s.readingComplete = true → Known (l.stored.take k) ∧ s.startSetFound = false)
    (hlive : s.readingComplete = false → 0 < s.delayed ∨ seqOldest - 1 + k ∈ l.requests ++ sent ∨
      ∃ m ∈ rest, NoData m ∨ l.stored[k]? = some m) :
    Synced p sopepId seqOldest Known k ⟨s, l.stored, l.requests ++ sent, rest⟩ := by
  have hmem : ∀ m ∈ rest, m ∈ l.responses := fun m hm => by
    rw [hrest]
    exact List.mem_append_right _ hm
  refine ⟨h.journal, h.le, htracks, hsub, ?_, fun m hm => h.responses m (hmem m hm), ?_,
    fun m hm => h.known m (hmem m hm), hcomplete, hlive⟩
  · intro seq hseq
    rcases List.mem_append.mp hseq with hseq | hseq
    · exact h.requests seq hseq
    · exact ⟨k, le_rfl, hsent seq hseq⟩
  · intro pre m post heq hnone r hr
    rw [show rest = pre ++ m :: post from heq, ← List.append_assoc] at hrest
    exact h.behind _ m post hrest hnone r (List.mem_append_right _ hr)

/-- A message that is no record: the loop takes it as the news that there is
none, which is to be known unless a set is open. -/
lemma Synced.other (h : Synced p sopepId seqOldest Known k l) {taken rest : List DataMap}
    (hrest : l.responses = taken ++ rest) (hread : l.loop.readingComplete = false)
    (hrecord : isRecord m = false)
    (hknown : l.loop.startSetFound = false → Known (l.stored.take k)) :
    Synced p sopepId seqOldest Known k
      ⟨step p sopepId l.loop (.message m), l.stored,
        l.requests ++ sentBy p sopepId l.loop (.message m), rest⟩ := by
  have hsub : l.loop.streamSubscriptionReadData = true := by
    rw [h.subscribed, hread]
    rfl
  have ht := h.tracks
  rw [sentBy, step_other ht.mounted hsub hrecord]
  by_cases hset : l.loop.startSetFound = true
  · rw [if_pos hset, List.drop_length]
    refine h.update hrest (by simp) ?_ h.subscribed ?_ ?_
    · exact ⟨ht.mounted, ht.counter, ht.numbered, ht.suffix, ht.noEnd, ht.idle, ht.reading,
        ht.files⟩
    · exact fun hc => absurd hc (ne_true_of_eq_false hread)
    · exact fun _ => Or.inl (Nat.succ_pos _)
  · have hidle := Bool.eq_false_iff.mpr hset
    rw [if_neg hset, List.drop_length]
    refine h.update hrest (by simp) ?_ rfl ?_ ?_
    · exact ⟨ht.mounted, ht.counter, ht.numbered, ht.suffix, ht.noEnd, ht.idle, ht.reading,
        ht.files⟩
    · exact fun _ => ⟨hknown hidle, hidle⟩
    · exact fun hc => absurd hc.symm Bool.false_ne_true

/-- What a delivery is. -/
lemma linkStep_deliver {rest : List DataMap} (h : l.responses = m :: rest) :
    linkStep p sopepId l .deliver = ⟨step p sopepId l.loop (.message m), l.stored,
      l.requests ++ sentBy p sopepId l.loop (.message m), rest⟩ := by
  rw [linkStep, h]
  rfl

/-- A record that has been accepted before arrives again. -/
lemma Synced.deliver_old (h : Synced p sopepId seqOldest Known k l) {rest : List DataMap}
    (hrest : l.responses = m :: rest) (hj : j < k) (hm : l.stored[j]? = some m) :
    linkStep p sopepId l .deliver = { l with responses := rest } ∧
      Synced p sopepId seqOldest Known k { l with responses := rest } := by
  have hawaited : ¬ Awaited l.loop m := fun hawaited =>
    absurd ((h.journal.awaited_iff h.counter h.le hm).mp hawaited) (by omega)
  have hsame : step p sopepId l.loop (.message m) = l.loop :=
    step_ignored h.tracks.mounted (h.journal.isRecord hm) hawaited
  refine ⟨?_, ?_⟩
  · rw [linkStep_deliver hrest, sentBy, hsame, List.drop_length, List.append_nil]
  · have hhead : l.responses = [m] ++ rest := hrest
    have hupdate := h.update hhead (List.forall_mem_nil _) h.tracks h.subscribed h.complete
    rw [List.append_nil] at hupdate
    refine hupdate fun hread => (h.live hread).imp_right (Or.imp_right ?_)
    rintro ⟨r, hr, hlead⟩
    rw [hrest, List.mem_cons] at hr
    rcases hr with rfl | hr
    · rcases hlead with hnone | hk
      · exact absurd hnone (h.journal.not_noData hm)
      · exact absurd (h.journal.index_inj hm hk) (by omega)
    · exact ⟨r, hr, hlead⟩

/-- A response that arrives after the end. -/
lemma Synced.deliver_late (h : Synced p sopepId seqOldest Known k l) {rest : List DataMap}
    (hrest : l.responses = m :: rest) (hdone : l.loop.readingComplete = true) :
    linkStep p sopepId l .deliver = { l with responses := rest } ∧
      Synced p sopepId seqOldest Known k { l with responses := rest } := by
  have hsub : l.loop.streamSubscriptionReadData = false := by
    rw [h.subscribed, hdone]
    rfl
  refine ⟨?_, ?_⟩
  · rw [linkStep_deliver hrest, sentBy, step_message_unsubscribed hsub, List.drop_length,
      List.append_nil]
  · have hhead : l.responses = [m] ++ rest := hrest
    have hupdate := h.update hhead (List.forall_mem_nil _) h.tracks h.subscribed h.complete
    rw [List.append_nil] at hupdate
    exact hupdate fun hread => absurd hread (ne_false_of_eq_true hdone)

/-- **The next record arrives**: it is accepted, and nothing on the way is an
empty response. -/
lemma Synced.deliver_next (h : Synced p sopepId seqOldest Known k l) {rest : List DataMap}
    (hrest : l.responses = m :: rest) (hread : l.loop.readingComplete = false)
    (hm : l.stored[k]? = some m) :
    Synced p sopepId seqOldest Known (k + 1) (linkStep p sopepId l .deliver) ∧
      (linkStep p sopepId l .deliver).requests = l.requests ++ [seqOldest + k] ∧
      (linkStep p sopepId l .deliver).loop.delayed = l.loop.delayed := by
  have hsub : l.loop.streamSubscriptionReadData = true := by
    rw [h.subscribed, hread]
    rfl
  have hlt := (List.getElem?_eq_some_iff.mp hm).1
  obtain ⟨htracks, hcomplete, hsub', hdelayed, hsent⟩ := h.tracks.accept h.journal.wellFormed hsub hm
    ((h.journal.awaited_iff h.counter h.le hm).mpr rfl)
  have hnext : int64 (l.loop.seqCounter + 1) = seqOldest + k := by
    have hlow := h.journal.low
    have hhigh := h.journal.high
    rw [h.counter, int64_of_range (by omega) (by omega)]
    omega
  rw [hnext] at hsent
  have hrecords : ∀ r ∈ rest, ¬ NoData r := by
    intro r hr hnone
    obtain ⟨pre, post, rfl⟩ := List.append_of_mem hr
    exact h.journal.not_sent hm (h.behind (m :: pre) r post hrest hnone m List.mem_cons_self)
  rw [hread] at hcomplete
  rw [linkStep_deliver hrest, hsent]
  refine ⟨⟨h.journal, hlt, htracks, ?_, ?_, ?_, ?_, ?_, ?_, ?_⟩, rfl, hdelayed⟩
  · exact hsub'.trans (by rw [hcomplete]; rfl)
  · intro seq hseq
    rcases List.mem_append.mp hseq with hseq | hseq
    · obtain ⟨i, hi, rfl⟩ := h.requests seq hseq
      exact ⟨i, by omega, rfl⟩
    · refine ⟨k + 1, le_rfl, ?_⟩
      rw [List.mem_singleton.mp hseq]
      push_cast
      omega
  · intro r hr
    exact (h.responses r (by rw [hrest]; exact List.mem_cons_of_mem _ hr)).mono (Nat.le_succ _)
  · intro pre r post heq hnone
    have hr : r ∈ rest := by
      rw [show rest = pre ++ r :: post from heq]
      simp
    exact absurd hnone (hrecords r hr)
  · exact fun r hr hnone => absurd hnone (hrecords r hr)
  · exact fun hc => absurd hc (ne_true_of_eq_false hcomplete)
  · intro _
    refine Or.inr (Or.inl (List.mem_append_right _ (List.mem_singleton.mpr ?_)))
    push_cast
    omega

/-- A delayed closure fires, perhaps after the end. -/
lemma Synced.delayedRequest (h : Synced p sopepId seqOldest Known k l) :
    Synced p sopepId seqOldest Known k (linkStep p sopepId l .delayedRequest) := by
  have ht := h.tracks
  rw [linkStep, Link.react, sentBy, ReadData.step]
  split_ifs with hdelayed
  · rw [List.drop_length, List.append_nil]
    exact h
  · rw [List.drop_left]
    refine h.update (List.nil_append _).symm ?_ ?_ h.subscribed h.complete ?_
    · intro seq hseq
      rw [List.mem_singleton.mp hseq, h.counter]
    · exact ⟨ht.mounted, ht.counter, ht.numbered, ht.suffix, ht.noEnd, ht.idle, ht.reading,
        ht.files⟩
    · intro _
      refine Or.inr (Or.inl (List.mem_append_right _ ?_))
      rw [h.counter]
      exact List.mem_singleton_self _

/-- **One event of a faithful device** keeps the loop in step with it. -/
theorem Synced.step (h : Synced p sopepId seqOldest Known k l) {e : LinkEvent}
    (he : Faithful seqOldest l e) (hknown : ∀ acc, Known acc → Known' acc)
    (hanswer : ∀ m, e = .answer m → NoData m → Known' l.stored) :
    ∃ k', Synced p sopepId seqOldest Known' k' (linkStep p sopepId l e) := by
  have h' := h.mono hknown
  cases e with
  | store record => exact ⟨k, h'.store he⟩
  | answer m =>
      cases hrequests : l.requests with
      | nil =>
          rw [linkStep, hrequests]
          exact ⟨k, h'⟩
      | cons seq requests =>
          have hm := he seq (by rw [hrequests]; rfl)
          exact ⟨k, (h'.answer hrequests hm (hanswer m rfl)).1⟩
  | deliver =>
      cases hresponses : l.responses with
      | nil =>
          rw [linkStep, hresponses]
          exact ⟨k, h'⟩
      | cons m rest =>
          cases hread : l.loop.readingComplete with
          | true =>
              obtain ⟨hstep, hsynced⟩ := h'.deliver_late (p := p) hresponses hread
              exact ⟨k, hstep ▸ hsynced⟩
          | false =>
              have hmem : m ∈ l.responses := by
                rw [hresponses]
                exact List.mem_cons_self
              rcases h'.responses m hmem with hnone | ⟨j, hj, hm⟩
              · have hhead : l.responses = [m] ++ rest := hresponses
                rw [linkStep_deliver hresponses]
                exact ⟨k, h'.other hhead hread hnone.isRecord fun _ => h'.known m hmem hnone⟩
              · rcases Nat.lt_succ_iff_lt_or_eq.mp hj with hj | rfl
                · obtain ⟨hstep, hsynced⟩ := h'.deliver_old (p := p) hresponses hj hm
                  exact ⟨k, hstep ▸ hsynced⟩
                · exact ⟨j + 1, (h'.deliver_next hresponses hread hm).1⟩
  | unrelated m =>
      obtain ⟨hrsp, hopen⟩ := he
      have hrecord : isRecord m = false := Bool.eq_false_iff.mpr fun h => hrsp (rsp_of_isRecord h)
      cases hread : l.loop.readingComplete with
      | true =>
          have hsub : l.loop.streamSubscriptionReadData = false := by
            rw [h.subscribed, hread]
            rfl
          rw [linkStep, Link.react, sentBy, step_message_unsubscribed hsub, List.drop_length,
            List.append_nil]
          exact ⟨k, h'⟩
      | false =>
          have hset := hopen (by rw [h.subscribed, hread]; rfl)
          exact ⟨k, h'.other (List.nil_append _).symm hread hrecord fun hidle =>
            absurd hset (ne_true_of_eq_false hidle)⟩
  | delayedRequest => exact ⟨k, h'.delayedRequest⟩

/-- Whatever a faithful device does keeps the loop in step with it. -/
lemma Synced.run (h : Synced p sopepId seqOldest (fun _ => True) k l) {es : List LinkEvent}
    (hes : Always (linkStep p sopepId) (Faithful seqOldest) l es) :
    ∃ k', Synced p sopepId seqOldest (fun _ => True) k'
      (Transition.run (linkStep p sopepId) l es) := by
  refine hes.induction (J := fun es => ∃ k', Synced p sopepId seqOldest (fun _ => True) k'
    (Transition.run (linkStep p sopepId) l es)) ⟨k, h⟩ ?_
  rintro es e ⟨k, h⟩ he
  rw [run_concat]
  exact h.step he (fun _ _ => trivial) fun _ _ _ => trivial

/-! ### The whole download -/

/-- The device has answered that nothing follows these records. -/
def Announced (p : Platform) (sopepId : String) (l : Link) (es : List LinkEvent)
    (acc : List DataMap) : Prop :=
  ∃ pre m post, es = pre ++ .answer m :: post ∧ NoData m ∧
    (run (linkStep p sopepId) l pre).stored = acc

/-- In every state of a run the loop is in step with the device. -/
lemma synced_run (hstored : Journal seqOldest stored) {es : List LinkEvent}
    (hes : Always (linkStep p sopepId) (Faithful seqOldest) (linkStart seqOldest stored) es) :
    ∃ k, Synced p sopepId seqOldest (Announced p sopepId (linkStart seqOldest stored) es) k
      (run (linkStep p sopepId) (linkStart seqOldest stored) es) := by
  refine hes.induction (J := fun es => ∃ k, Synced p sopepId seqOldest
    (Announced p sopepId (linkStart seqOldest stored) es) k
      (run (linkStep p sopepId) (linkStart seqOldest stored) es)) ?_ ?_
  · exact ⟨0, synced_start hstored⟩
  · rintro es e ⟨k, hsynced⟩ he
    rw [run_concat]
    refine hsynced.step he ?_ ?_
    · rintro acc ⟨pre, m, post, rfl, hnone, hacc⟩
      exact ⟨pre, m, post ++ [e], by simp, hnone, hacc⟩
    · rintro m rfl hnone
      exact ⟨es, m, [], rfl, hnone, rfl⟩

/-- The files of a loop in step with the device. -/
lemma Synced.exact (h : Synced p sopepId seqOldest Known k l) :
    l.loop.files = (sections isStart isEnd
        (l.stored.take (l.loop.seqCounter + 1 - seqOldest).toNat)).flatMap
          (datasetFiles p sopepId) ∧
      (l.loop.readingComplete = true → ∃ held, Known held ∧
        openSection isStart isEnd held = none ∧
          l.loop.files = (sections isStart isEnd held).flatMap (datasetFiles p sopepId)) := by
  have hk : (l.loop.seqCounter + 1 - seqOldest).toNat = k := by
    rw [h.counter]
    omega
  rw [hk]
  refine ⟨h.tracks.files, fun hdone => ?_⟩
  obtain ⟨hknown, hidle⟩ := h.complete hdone
  exact ⟨_, hknown, (h.tracks.idle hidle).2, h.tracks.files⟩

/-- **A download is exact**: while a faithful device answers, in whatever order
things happen, the files are those of the sets among the records accepted so
far, which are the first ones of the device. When the loop has ended, they are
those of all sets that the device held when it answered that nothing follows,
and it held no open set then. -/
theorem download_exact (hstored : Journal seqOldest stored) {es : List LinkEvent}
    (hes : Always (linkStep p sopepId) (Faithful seqOldest) (linkStart seqOldest stored) es) :
    let l := run (linkStep p sopepId) (linkStart seqOldest stored) es
    l.loop.files = (sections isStart isEnd
        (l.stored.take (l.loop.seqCounter + 1 - seqOldest).toNat)).flatMap
          (datasetFiles p sopepId) ∧
      (l.loop.readingComplete = true → ∃ pre m post, es = pre ++ .answer m :: post ∧ NoData m ∧
        let held := (run (linkStep p sopepId) (linkStart seqOldest stored) pre).stored
        openSection isStart isEnd held = none ∧
          l.loop.files = (sections isStart isEnd held).flatMap (datasetFiles p sopepId)) := by
  obtain ⟨k, h⟩ := synced_run hstored hes
  refine ⟨h.exact.1, fun hdone => ?_⟩
  obtain ⟨held, ⟨pre, m, post, hsplit, hnone, rfl⟩, hclosed, hfiles⟩ := h.exact.2 hdone
  exact ⟨pre, m, post, hsplit, hnone, hclosed, hfiles⟩

/-- The answer of a device that has nothing to send. -/
def noData : DataMap := ⟨[(.string "rsp", .string "read-data")], by decide⟩

/-- A download that begins before the End set is stored, with an event of the
device and the request that it leads to. -/
def sampleDownload : List LinkEvent :=
  [.answer startSet, .deliver, .unrelated newDataEvent, .answer pressure, .deliver, .delayedRequest,
    .answer rawPressure, .answer rawPressure, .deliver, .deliver, .answer noData, .store endSet,
    .deliver, .delayedRequest, .answer endSet, .deliver, .answer noData, .deliver]

/-- The link after that download. -/
def sampleLink : Link :=
  run (linkStep samplePlatform "SOPEP0000000001") (linkStart 5 [startSet, pressure, rawPressure])
    sampleDownload

lemma journal_sample : Journal 5 [startSet, pressure, rawPressure] := by decide +kernel

lemma faithful_sample : Always (linkStep samplePlatform "SOPEP0000000001") (Faithful 5)
    (linkStart 5 [startSet, pressure, rawPressure]) sampleDownload := by
  decide +kernel

theorem download_exact_sample : sampleLink.loop.readingComplete = true ∧
    sampleLink.loop.files = (sections isStart isEnd
      (sampleLink.stored.take (sampleLink.loop.seqCounter + 1 - 5).toNat)).flatMap
        (datasetFiles samplePlatform "SOPEP0000000001") :=
  ⟨by decide +kernel, (download_exact journal_sample faithful_sample).1⟩

/-! ### The end of a download -/

/-- A transfer: an answer, a delivery or a delayed request that there is
something for. -/
def Transfer (seqOldest : ℤ) (l : Link) (e : LinkEvent) : Prop :=
  Faithful seqOldest l e ∧
    match e with
    | .answer _ => l.requests ≠ []
    | .deliver => l.responses ≠ []
    | .delayedRequest => l.loop.delayed ≠ 0
    | _ => False

/-- The records of the device that have not been accepted. -/
def Link.remaining (seqOldest : ℤ) (l : Link) : ℕ :=
  (seqOldest - 1 + l.stored.length - l.loop.seqCounter).toNat

/-- What a response may still lead to: an empty one, as long as records remain,
to a delayed request, its request and its response. -/
def weight (remaining : ℕ) (m : DataMap) : ℕ := if NoData m ∧ remaining ≠ 0 then 4 else 1

/-- The transfers that are left, at most. -/
def Link.work (seqOldest : ℤ) (l : Link) : ℕ :=
  2 * l.remaining seqOldest + 2 * l.requests.length +
    (l.responses.map (weight (l.remaining seqOldest))).sum + 3 * l.loop.delayed

lemma weight_pos (n : ℕ) (m : DataMap) : 1 ≤ weight n m := by
  rw [weight]
  split_ifs <;> omega

lemma weight_mono {n n' : ℕ} (h : n ≤ n') (m : DataMap) : weight n m ≤ weight n' m := by
  rw [weight]
  split_ifs with hn
  · rw [weight, if_pos ⟨hn.1, by omega⟩]
  · exact weight_pos n' m

lemma Synced.remaining (h : Synced p sopepId seqOldest Known k l) :
    l.remaining seqOldest = l.stored.length - k := by
  have hle := h.le
  rw [Link.remaining, h.counter]
  omega

/-- While a set is open and the records of the device leave none open, some
remain. -/
lemma Synced.lt_of_open (h : Synced p sopepId seqOldest Known k l)
    (hclosed : openSection isStart isEnd l.stored = none) (hset : l.loop.startSetFound = true) :
    k < l.stored.length := by
  by_contra hge
  obtain ⟨-, pre, first, inner, -, hopen⟩ := h.tracks.reading hset
  rw [List.take_of_length_le (by omega), hclosed] at hopen
  exact absurd hopen (by simp)

/-- **A transfer ends the loop or leaves less to do.** -/
lemma Synced.transfer (h : Synced p sopepId seqOldest Known k l)
    (hclosed : openSection isStart isEnd l.stored = none)
    (hread : l.loop.readingComplete = false) {e : LinkEvent} (he : Transfer seqOldest l e) :
    (linkStep p sopepId l e).loop.readingComplete = true ∨
      (linkStep p sopepId l e).work seqOldest < l.work seqOldest := by
  obtain ⟨hfaithful, he⟩ := he
  have hremaining := h.remaining
  cases e with
  | store record => exact he.elim
  | unrelated m => exact he.elim
  | answer m =>
      right
      obtain ⟨seq, requests, hrequests⟩ := List.exists_cons_of_ne_nil he
      have hany : Synced p sopepId seqOldest (fun _ => True) k l := h.mono fun _ _ => trivial
      have hnone := hany.answer hrequests (hfaithful seq (by rw [hrequests]; rfl)) fun _ => trivial
      have hweight : weight (l.remaining seqOldest) m = 1 := by
        rw [weight, if_neg]
        rintro ⟨hm, hne⟩
        have hlen := hnone.2 hm
        omega
      rw [linkStep, Link.work, Link.work, hrequests]
      change 2 * l.remaining seqOldest + 2 * requests.length +
        ((l.responses ++ [m]).map (weight (l.remaining seqOldest))).sum + 3 * l.loop.delayed < _
      rw [List.map_append, List.sum_append, List.map_singleton, List.sum_singleton, hweight,
        List.length_cons]
      omega
  | deliver =>
      obtain ⟨m, rest, hrest⟩ := List.exists_cons_of_ne_nil he
      have hmem : m ∈ l.responses := by
        rw [hrest]
        exact List.mem_cons_self
      have hpos := weight_pos (l.remaining seqOldest) m
      have hwork : l.work seqOldest = 2 * l.remaining seqOldest + 2 * l.requests.length +
          (weight (l.remaining seqOldest) m + (rest.map (weight (l.remaining seqOldest))).sum) +
          3 * l.loop.delayed := by
        rw [Link.work, hrest, List.map_cons, List.sum_cons]
      rcases h.responses m hmem with hnone | ⟨j, hj, hm⟩
      · have hsub : l.loop.streamSubscriptionReadData = true := by
          rw [h.subscribed, hread]
          rfl
        rw [linkStep_deliver hrest, sentBy, step_other h.tracks.mounted hsub hnone.isRecord]
        by_cases hset : l.loop.startSetFound = true
        · right
          have hlt := h.lt_of_open hclosed hset
          have hweight : weight (l.remaining seqOldest) m = 4 :=
            if_pos ⟨hnone, by omega⟩
          rw [if_pos hset, List.drop_length, List.append_nil, hwork, hweight]
          change 2 * l.remaining seqOldest + 2 * l.requests.length +
            (rest.map (weight (l.remaining seqOldest))).sum + 3 * (l.loop.delayed + 1) < _
          omega
        · left
          rw [if_neg hset]
      · right
        rcases Nat.lt_succ_iff_lt_or_eq.mp hj with hj | rfl
        · obtain ⟨hstep, -⟩ := h.deliver_old (p := p) hrest hj hm
          rw [hstep, hwork]
          change 2 * l.remaining seqOldest + 2 * l.requests.length +
            (rest.map (weight (l.remaining seqOldest))).sum + 3 * l.loop.delayed < _
          omega
        · obtain ⟨hsynced, hrequests, hdelayed⟩ := h.deliver_next hrest hread hm
          have hlt := (List.getElem?_eq_some_iff.mp hm).1
          have hleft := hsynced.remaining
          have hstored : (linkStep p sopepId l .deliver).stored = l.stored := by
            rw [linkStep_deliver hrest]
          have hresponses : (linkStep p sopepId l .deliver).responses = rest := by
            rw [linkStep_deliver hrest]
          have hsum : (rest.map (weight ((linkStep p sopepId l .deliver).remaining seqOldest))).sum ≤
              (rest.map (weight (l.remaining seqOldest))).sum := by
            refine List.sum_le_sum fun r _ => weight_mono ?_ r
            rw [hleft, hstored, hremaining]
            omega
          rw [hstored] at hleft
          rw [hwork, Link.work, hrequests, hresponses, hdelayed, List.length_append,
            List.length_singleton]
          omega
  | delayedRequest =>
      right
      have hdelayed : l.loop.delayed ≠ 0 := he
      rw [linkStep, Link.react, sentBy, ReadData.step, if_neg hdelayed, List.drop_left, Link.work, Link.work]
      change 2 * l.remaining seqOldest + 2 * (l.requests ++ [l.loop.seqCounter]).length +
        (l.responses.map (weight (l.remaining seqOldest))).sum + 3 * (l.loop.delayed - 1) < _
      rw [List.length_append, List.length_singleton]
      omega

/-- Until the loop has ended there is a transfer to make. -/
lemma Synced.exists_transfer (h : Synced p sopepId seqOldest Known k l)
    (hread : l.loop.readingComplete = false) : ∃ e, Transfer seqOldest l e := by
  rcases h.live hread with hdelayed | hcurrent | ⟨m, hm, -⟩
  · exact ⟨.delayedRequest, trivial, hdelayed.ne'⟩
  · have hne : l.requests ≠ [] := List.ne_nil_of_mem hcurrent
    obtain ⟨seq, requests, hrequests⟩ := List.exists_cons_of_ne_nil hne
    have hanswer : ∃ m, Answer seqOldest l.stored seq m := by
      simp only [Answer]
      cases l.stored[(seq + 1 - seqOldest).toNat]? with
      | none => exact ⟨noData, rfl, rfl⟩
      | some record => exact ⟨record, rfl⟩
    obtain ⟨m, hm⟩ := hanswer
    refine ⟨.answer m, fun seq' hseq => ?_, hne⟩
    rw [hrequests, List.head?_cons, Option.mem_some_iff] at hseq
    exact hseq ▸ hm
  · exact ⟨.deliver, trivial, List.ne_nil_of_mem hm⟩

/-- A transfer stores nothing. -/
lemma Transfer.stored_eq {e : LinkEvent} (he : Transfer seqOldest l e) :
    (linkStep p sopepId l e).stored = l.stored := by
  cases e with
  | store record => exact he.2.elim
  | unrelated m => exact he.2.elim
  | answer m =>
      rw [linkStep]
      split <;> rfl
  | deliver =>
      rw [linkStep]
      split <;> rfl
  | delayedRequest => rfl

/-- What the state of a link keeps through transfers. -/
def Draining (p : Platform) (sopepId : String) (seqOldest : ℤ) (held : List DataMap) (l : Link) :
    Prop :=
  l.stored = held ∧ ∃ k, Synced p sopepId seqOldest (fun _ => True) k l

lemma Draining.step {held : List DataMap} (h : Draining p sopepId seqOldest held l) {e : LinkEvent}
    (he : Transfer seqOldest l e) : Draining p sopepId seqOldest held (linkStep p sopepId l e) := by
  obtain ⟨hstored, k, hsynced⟩ := h
  exact ⟨he.stored_eq.trans hstored, hsynced.step he.1 (fun _ _ => trivial) fun _ _ _ => trivial⟩

/-- The end is kept. -/
lemma Synced.stays_complete (h : Synced p sopepId seqOldest Known k l)
    (hdone : l.loop.readingComplete = true) (e : LinkEvent) :
    (linkStep p sopepId l e).loop.readingComplete = true := by
  have hsub : l.loop.streamSubscriptionReadData = false := by
    rw [h.subscribed, hdone]
    rfl
  cases e with
  | store record => exact hdone
  | answer m =>
      rw [linkStep]
      split <;> exact hdone
  | deliver =>
      cases hresponses : l.responses with
      | nil =>
          rw [linkStep, hresponses]
          exact hdone
      | cons m rest =>
          rw [linkStep_deliver hresponses, step_message_unsubscribed hsub]
          exact hdone
  | unrelated m =>
      rw [linkStep, Link.react, step_message_unsubscribed hsub]
      exact hdone
  | delayedRequest =>
      rw [linkStep, Link.react, ReadData.step]
      split_ifs
      · exact hdone
      · exact hdone

/-- **A download ends**: from any state of a run, once the device stores nothing
more and has no set open, the loop ends after a bounded number of transfers,
whatever their order, and until then there is one to make. -/
theorem download_terminates (hstored : Journal seqOldest stored) {es : List LinkEvent}
    (hes : Always (linkStep p sopepId) (Faithful seqOldest) (linkStart seqOldest stored) es)
    (hclosed : openSection isStart isEnd
      (run (linkStep p sopepId) (linkStart seqOldest stored) es).stored = none) :
    ∃ n : ℕ, ∀ ts, Always (linkStep p sopepId) (Transfer seqOldest)
        (run (linkStep p sopepId) (linkStart seqOldest stored) es) ts →
      let l := run (linkStep p sopepId) (linkStart seqOldest stored) (es ++ ts)
      (n ≤ ts.length → l.loop.readingComplete = true) ∧
        (l.loop.readingComplete = false → ∃ e, Transfer seqOldest l e) := by
  obtain ⟨k, hsynced⟩ := synced_run hstored hes
  simp only [run_append]
  generalize run (linkStep p sopepId) (linkStart seqOldest stored) es = l at hclosed hsynced ⊢
  have hstart : Draining p sopepId seqOldest l.stored l :=
    ⟨rfl, k, hsynced.mono fun _ _ => trivial⟩
  refine ⟨l.work seqOldest + 1, fun ts hts => ⟨fun hn => ?_, fun hread => ?_⟩⟩
  · have hreaches := hts.reaches (G := fun l => l.loop.readingComplete = true) hstart
      (fun _ _ h he => h.step he) ?_ ?_ hn
    · exact hreaches
    · rintro t e ⟨-, k, h⟩ - hdone
      exact h.stays_complete hdone e
    · rintro t e ⟨hheld, k, h⟩ he hread
      exact h.transfer (hheld ▸ hclosed) (Bool.eq_false_iff.mpr hread) he
  · have hdrained : Draining p sopepId seqOldest l.stored (run (linkStep p sopepId) l ts) :=
      hts.induction (J := fun ts => Draining p sopepId seqOldest l.stored
        (run (linkStep p sopepId) l ts)) hstart fun ts e h he => by
          rw [run_concat]
          exact h.step he
    obtain ⟨-, k, h⟩ := hdrained
    exact h.exists_transfer hread

/-- From the start, with all records stored. -/
theorem download_terminates_sample :
    ∃ n : ℕ, ∀ ts, Always (linkStep samplePlatform "SOPEP0000000001") (Transfer 5)
        (run (linkStep samplePlatform "SOPEP0000000001")
          (linkStart 5 [startSet, pressure, rawPressure]) (sampleDownload.take 12)) ts →
      let l := run (linkStep samplePlatform "SOPEP0000000001")
        (linkStart 5 [startSet, pressure, rawPressure]) (sampleDownload.take 12 ++ ts)
      (n ≤ ts.length → l.loop.readingComplete = true) ∧
        (l.loop.readingComplete = false → ∃ e, Transfer 5 l e) :=
  download_terminates journal_sample (faithful_sample.of_prefix (List.take_prefix _ _))
    (by decide +kernel)

end SopepApp.ReadData
