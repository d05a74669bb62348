import SopepApp.ReadData.Loop

/-!
The records that `_getDataLoop` accepts, and the data sets that it saves.

* `accepted`: the records a run has accepted, in order;
* `Tracks`: the loop after the accepted records; `Tracks.step`: what one event keeps;
* `accepted_gap_free`: the accepted records are numbered without a gap, every
  request carries the number of the last of them, and the buffer is a stretch
  of them that begins with a Start set;
* `saved_datasets`: the files saved are those of the sets that the accepted
  records complete;
* `typeless_record_unsaved`: the fields of its records alone do not make a set
  savable.
-/

namespace SopepApp.ReadData

open Dart Transition Sections

variable {p : Platform} {sopepId : String} {seqOldest : ℤ} {s : ReadLoop} {acc : List DataMap}

/-- The record that an event makes the loop accept. -/
def taken (s : ReadLoop) : Event → List DataMap
  | .message m => if s.streamSubscriptionReadData = true ∧ Awaited s m then [m] else []
  | .delayedRequest => []

/-- The records accepted in a run. -/
def accepted (p : Platform) (sopepId : String) (seqOldest : ℤ) (es : List Event) : List DataMap :=
  outputs (step p sopepId) taken (start seqOldest) es

/-- The sequence numbers that an event makes the loop send. -/
def sentBy (p : Platform) (sopepId : String) (s : ReadLoop) (e : Event) : List ℤ :=
  (step p sopepId s e).requests.drop s.requests.length

/-- The number is that of the last accepted record, one less than the oldest
before the first. -/
def LastAccepted (seqOldest : ℤ) (acc : List DataMap) (seq : ℤ) : Prop :=
  match acc.getLast? with
  | none => seq = int64 (seqOldest - 1)
  | some record => (record.get "seq").eqInt seq

/-- The records are well-formed, and so are the sets they complete: the raw
bytes of a set are whole floats. -/
structure WellFormedRun (acc : List DataMap) : Prop where
  record : ∀ r ∈ acc, WellFormed r
  raw : ∀ c ∈ sections isStart isEnd acc, 4 ∣ (payload "Raw Pressure" c.inner).length

instance (acc : List DataMap) : Decidable (WellFormedRun acc) :=
  decidable_of_iff
    ((∀ r ∈ acc, WellFormed r) ∧
      ∀ c ∈ sections isStart isEnd acc, 4 ∣ (payload "Raw Pressure" c.inner).length)
    ⟨fun ⟨h1, h2⟩ => ⟨h1, h2⟩, fun ⟨h1, h2⟩ => ⟨h1, h2⟩⟩

/-- **The loop after the accepted records.** -/
structure Tracks (p : Platform) (sopepId : String) (seqOldest : ℤ) (acc : List DataMap)
    (s : ReadLoop) : Prop where
  mounted : s.mounted = true
  counter : s.seqCounter = int64 (seqOldest - 1 + acc.length)
  numbered : ∀ (k : ℕ) (r : DataMap), acc[k]? = some r → (r.get "seq").eqInt (int64 (seqOldest + k))
  suffix : s.pressureDataRaw <:+ acc
  noEnd : ∀ r ∈ s.pressureDataRaw, isEnd r = false
  idle : s.startSetFound = false → s.pressureDataRaw = [] ∧ openSection isStart isEnd acc = none
  reading : s.startSetFound = true → (∃ r rest, s.pressureDataRaw = r :: rest ∧ isStart r = true) ∧
    ∃ pre first inner, s.pressureDataRaw = pre ++ first :: inner ∧
      openSection isStart isEnd acc = some (first, inner)
  files : s.files = (sections isStart isEnd acc).flatMap (datasetFiles p sopepId)

lemma tracks_start : Tracks p sopepId seqOldest [] (start seqOldest) where
  mounted := rfl
  counter := by simp [start]
  numbered := by simp
  suffix := List.suffix_rfl
  noEnd := by simp [start]
  idle _ := ⟨rfl, rfl⟩
  reading h := absurd h (by simp [start])
  files := rfl

/-- The counter and the numbers after one more record. -/
lemma Tracks.numbered_concat (h : Tracks p sopepId seqOldest acc s) {m : DataMap}
    (hm : Awaited s m) :
    int64 (s.seqCounter + 1) = int64 (seqOldest - 1 + (acc ++ [m]).length) ∧
      ∀ (k : ℕ) (r : DataMap), (acc ++ [m])[k]? = some r →
        (r.get "seq").eqInt (int64 (seqOldest + k)) := by
  have hnext : int64 (s.seqCounter + 1) = int64 (seqOldest + acc.length) :=
    calc int64 (s.seqCounter + 1)
        = int64 (int64 (seqOldest - 1 + acc.length) + 1) := by rw [h.counter]
      _ = int64 (seqOldest - 1 + acc.length + 1) := int64_int64_add _ _
      _ = int64 (seqOldest + acc.length) := by
          congr 1
          omega
  refine ⟨?_, fun k r hr => ?_⟩
  · rw [hnext, List.length_append, List.length_singleton]
    congr 1
    push_cast
    omega
  · rcases lt_or_ge k acc.length with hk | hk
    · rw [List.getElem?_append_left hk] at hr
      exact h.numbered k r hr
    · rw [List.getElem?_append_right hk] at hr
      obtain ⟨hk0, rfl⟩ : k - acc.length = 0 ∧ m = r := by
        rw [List.getElem?_singleton] at hr
        split_ifs at hr with h0
        exact ⟨h0, Option.some.inj hr⟩
      obtain rfl : k = acc.length := by omega
      rw [← hnext]
      exact hm.2

/-- One more record at the end of the buffer. -/
lemma Tracks.suffix_concat (h : Tracks p sopepId seqOldest acc s) (m : DataMap) :
    s.pressureDataRaw ++ [m] <:+ acc ++ [m] := by
  obtain ⟨pre, hpre⟩ := h.suffix
  exact ⟨pre, by rw [← List.append_assoc, hpre]⟩

/-- A Start set begins a buffer, or goes on with it. -/
lemma Tracks.opened (h : Tracks p sopepId seqOldest acc s) {m : DataMap} (hm : Awaited s m)
    (hstart : isStart m = true) (text : String) :
    Tracks p sopepId seqOldest (acc ++ [m]) { s with
      currentSesSet := text
      startSetFound := true
      pressureDataRaw := s.pressureDataRaw ++ [m] }.advance := by
  obtain ⟨hcounter, hnumbered⟩ := h.numbered_concat hm
  refine ⟨h.mounted, hcounter, hnumbered, ?_, ?_, ?_, ?_, ?_⟩
  · exact h.suffix_concat m
  · intro r hr
    rcases List.mem_append.mp hr with hr | hr
    · exact h.noEnd r hr
    · rw [List.mem_singleton.mp hr]
      exact isEnd_of_isStart hstart
  · intro hset
    exact absurd hset (by simp [ReadLoop.advance])
  · refine fun _ => ⟨?_, s.pressureDataRaw, m, [], rfl, ?_⟩
    · cases hset : s.startSetFound with
      | true =>
          obtain ⟨r, rest, hbuf, hr⟩ := (h.reading hset).1
          exact ⟨r, rest ++ [m], by simp [ReadLoop.advance, hbuf], hr⟩
      | false =>
          exact ⟨m, [], by simp [ReadLoop.advance, (h.idle hset).1], hstart⟩
    · simp [Sections.advance, hstart]
  · simpa [ReadLoop.advance, closedBy, hstart] using h.files

/-- A record outside a set changes the counter only. -/
lemma Tracks.skipped (h : Tracks p sopepId seqOldest acc s) {m : DataMap} (hm : Awaited s m)
    (hset : s.startSetFound = false) (hstart : isStart m = false) :
    Tracks p sopepId seqOldest (acc ++ [m]) s.advance := by
  obtain ⟨hcounter, hnumbered⟩ := h.numbered_concat hm
  obtain ⟨hbuf, hopen⟩ := h.idle hset
  have hopen' : openSection isStart isEnd (acc ++ [m]) = none := by
    simp [hopen, Sections.advance, hstart]
  have hclosed : sections isStart isEnd (acc ++ [m]) = sections isStart isEnd acc := by
    simp [hopen, closedBy, hstart]
  refine ⟨h.mounted, hcounter, hnumbered, ?_, h.noEnd, fun _ => ⟨hbuf, hopen'⟩, fun hset' => ?_, ?_⟩
  · rw [ReadLoop.advance, hbuf]
    exact List.nil_suffix
  · exact absurd hset' (ne_true_of_eq_false hset)
  · rw [hclosed]
    exact h.files

/-- A record of the open set. -/
lemma Tracks.added (h : Tracks p sopepId seqOldest acc s) {m : DataMap} (hm : Awaited s m)
    (hset : s.startSetFound = true) (hstart : isStart m = false) (hend : isEnd m = false) :
    Tracks p sopepId seqOldest (acc ++ [m])
      { s with pressureDataRaw := s.pressureDataRaw ++ [m] }.advance := by
  obtain ⟨hcounter, hnumbered⟩ := h.numbered_concat hm
  obtain ⟨⟨r, rest, hbuf, hr⟩, pre, first, inner, hsplit, hopen⟩ := h.reading hset
  refine ⟨h.mounted, hcounter, hnumbered, h.suffix_concat m, ?_, fun hset' => ?_, fun _ => ?_, ?_⟩
  · intro r hr
    rcases List.mem_append.mp hr with hr | hr
    · exact h.noEnd r hr
    · rw [List.mem_singleton.mp hr]
      exact hend
  · exact absurd hset' (ne_false_of_eq_true hset)
  · refine ⟨⟨r, rest ++ [m], ?_, hr⟩, pre, first, inner ++ [m], ?_, ?_⟩
    · simp [ReadLoop.advance, hbuf]
    · simp [ReadLoop.advance, hsplit]
    · simp [hopen, Sections.advance, hstart, hend]
  · simpa [ReadLoop.advance, closedBy, hstart, hend] using h.files

/-- An End set: the files of the open set are saved. -/
lemma Tracks.closed (h : Tracks p sopepId seqOldest acc s) {m : DataMap} (hm : Awaited s m)
    (hclose : Closes s m) (hwf : WellFormedRun (acc ++ [m])) :
    ∃ files, (formatData p sopepId (s.pressureDataRaw ++ [m])).run s.files = .ok () files ∧
      Tracks p sopepId seqOldest (acc ++ [m]) { s with
        startSetFound := false
        pressureDataRaw := []
        files := files }.advance := by
  obtain ⟨hopenSet, hend⟩ := hclose
  have hstart := isStart_of_isEnd hend
  obtain ⟨hcounter, hnumbered⟩ := h.numbered_concat hm
  obtain ⟨-, pre, first, inner, hsplit, hopen⟩ := h.reading hopenSet
  obtain ⟨before, hacc, hfirst, hinner⟩ := openSection_eq_some_iff.mp hopen
  -- the section that is closed
  have hsections : sections isStart isEnd (acc ++ [m]) =
      sections isStart isEnd acc ++ [⟨first, inner, m⟩] := by
    simp [hopen, closedBy, hstart, hend]
  have hopen' : openSection isStart isEnd (acc ++ [m]) = none := by
    simp [Sections.advance, hstart, hend]
  have hmem : ∀ r ∈ s.pressureDataRaw, r ∈ acc ++ [m] := fun r hr =>
    List.mem_append_left _ (h.suffix.subset hr)
  have hset : IsSet ⟨first, inner, m⟩ := ⟨hfirst, hinner, hend⟩
  have hsavable : Savable ⟨first, inner, m⟩ := by
    refine ⟨hwf.record first (hmem first (by simp [hsplit])), fun r hr => ?_,
      hwf.record m (by simp), hwf.raw ⟨first, inner, m⟩ (by simp [hsections])⟩
    exact hwf.record r (hmem r (by simp [hsplit, hr]))
  have hpre : ∀ r ∈ pre, isEnd r = false := fun r hr => h.noEnd r (by simp [hsplit, hr])
  have hformat := formatData_section p sopepId hpre hset hsavable s.files
  refine ⟨s.files ++ datasetFiles p sopepId ⟨first, inner, m⟩, ?_, ?_⟩
  · rw [hsplit, List.append_assoc, List.cons_append]
    exact hformat
  refine ⟨h.mounted, hcounter, hnumbered, List.nil_suffix, ?_, fun _ => ⟨rfl, hopen'⟩, ?_, ?_⟩
  · intro r hr
    exact absurd hr (by simp [ReadLoop.advance])
  · intro hset'
    exact absurd hset' (by simp [ReadLoop.advance])
  · rw [hsections, List.flatMap_append, List.flatMap_singleton, ← h.files]
    rfl

/-- An event keeps the invariant, as long as the accepted records are
well-formed. -/
lemma Tracks.step (h : Tracks p sopepId seqOldest acc s) (e : Event)
    (hwf : WellFormedRun (acc ++ taken s e)) :
    Tracks p sopepId seqOldest (acc ++ taken s e) (ReadData.step p sopepId s e) := by
  cases e with
  | message m =>
      cases hsub : s.streamSubscriptionReadData with
      | true =>
          have hreaction := step_message p sopepId m hsub h.mounted
          have htaken : Awaited s m → taken s (.message m) = [m] := fun hm => if_pos ⟨hsub, hm⟩
          have hnone : isRecord m = false → taken s (.message m) = [] := fun hm =>
            if_neg fun hbad => absurd hbad.2.1 (ne_true_of_eq_false hm)
          generalize ReadData.step p sopepId s (.message m) = s' at hreaction
          cases hreaction with
          | ignored _ hseq =>
              rw [taken, if_neg fun hbad => hseq hbad.2, List.append_nil]
              exact h
          | skipped hseq hset hstart =>
              rw [htaken hseq]
              exact h.skipped hseq hset hstart
          | opened hseq hstart text =>
              rw [htaken hseq]
              exact h.opened hseq hstart text
          | added hseq hset hstart hend =>
              rw [htaken hseq]
              exact h.added hseq hset hstart hend
          | closed hseq hclose hformat =>
              rw [htaken hseq] at hwf ⊢
              obtain ⟨files, hrun, htracks⟩ := h.closed hseq hclose hwf
              rw [hrun] at hformat
              obtain rfl := (EStateM.Result.ok.inj hformat).2
              exact htracks
          | failed hseq hclose hformat =>
              rw [htaken hseq] at hwf
              obtain ⟨files, hrun, -⟩ := h.closed hseq hclose hwf
              rw [hrun] at hformat
              exact absurd hformat (by simp)
          | retried hrecord hset =>
              rw [hnone hrecord, List.append_nil]
              exact ⟨h.mounted, h.counter, h.numbered, h.suffix, h.noEnd, h.idle, h.reading, h.files⟩
          | ended hrecord hset =>
              rw [hnone hrecord, List.append_nil]
              exact ⟨h.mounted, h.counter, h.numbered, h.suffix, h.noEnd, h.idle, h.reading, h.files⟩
      | false =>
          rw [taken, if_neg fun hbad => absurd hbad.1 (ne_true_of_eq_false hsub),
            List.append_nil, step_message_unsubscribed hsub]
          exact h
  | delayedRequest =>
      rw [taken, List.append_nil, ReadData.step]
      split_ifs
      · exact h
      · exact ⟨h.mounted, h.counter, h.numbered, h.suffix, h.noEnd, h.idle, h.reading, h.files⟩

/-! ### Whole runs -/

lemma accepted_concat (es : List Event) (e : Event) :
    accepted p sopepId seqOldest (es ++ [e]) = accepted p sopepId seqOldest es ++
      taken (run (ReadData.step p sopepId) (start seqOldest) es) e :=
  outputs_concat _ _ _

lemma accepted_mono {es pre : List Event} (h : pre <+: es) :
    accepted p sopepId seqOldest pre <+: accepted p sopepId seqOldest es := by
  obtain ⟨post, rfl⟩ := h
  rw [accepted, accepted, outputs_append]
  exact List.prefix_append _ _

/-- What holds of the accepted records holds of the first of them. -/
lemma WellFormedRun.of_prefix {acc acc' : List DataMap} (h : WellFormedRun acc')
    (hp : acc <+: acc') : WellFormedRun acc := by
  obtain ⟨post, rfl⟩ := hp
  refine ⟨fun r hr => h.record r (List.mem_append_left _ hr), fun c hc => h.raw c ?_⟩
  obtain ⟨pre, post', rfl, hrest⟩ := mem_sections_iff.mp hc
  exact mem_sections_iff.mpr ⟨pre, post' ++ post, by simp, hrest⟩

/-- The loop tracks its accepted records in every state of a run. -/
theorem tracks_run {es : List Event}
    (hwf : WellFormedRun (accepted p sopepId seqOldest es)) :
    Tracks p sopepId seqOldest (accepted p sopepId seqOldest es)
      (run (ReadData.step p sopepId) (start seqOldest) es) := by
  induction es using List.reverseRecOn with
  | nil => exact tracks_start
  | append_singleton es e ih =>
      have hprev := ih (hwf.of_prefix (accepted_mono (List.prefix_append es [e])))
      rw [accepted_concat] at hwf ⊢
      rw [run_concat]
      exact hprev.step e hwf

/-- The counter is the number of the last accepted record. -/
lemma Tracks.lastAccepted (h : Tracks p sopepId seqOldest acc s) :
    LastAccepted seqOldest acc s.seqCounter := by
  rw [LastAccepted]
  rcases List.eq_nil_or_concat acc with rfl | ⟨acc, r, rfl⟩
  · exact (h.counter).trans (by simp)
  · rw [List.concat_eq_append] at h ⊢
    rw [List.getLast?_append, List.getLast?_singleton, Option.some_or, h.counter,
      List.length_append, List.length_singleton]
    have hseq := h.numbered acc.length r (by simp)
    have hnum : seqOldest - 1 + ((acc.length + 1 : ℕ) : ℤ) = seqOldest + acc.length := by
      push_cast
      omega
    rw [hnum]
    exact hseq

/-- A step sends nothing, or one request that carries the counter. -/
lemma step_requests (p : Platform) (sopepId : String) (hmounted : s.mounted = true) (e : Event) :
    (ReadData.step p sopepId s e).requests = s.requests ∨
      (ReadData.step p sopepId s e).requests =
        s.requests ++ [(ReadData.step p sopepId s e).seqCounter] := by
  cases e with
  | message m =>
      cases hsub : s.streamSubscriptionReadData with
      | true =>
          have hreaction := step_message p sopepId m hsub hmounted
          generalize ReadData.step p sopepId s (.message m) = s' at hreaction
          cases hreaction with
          | ignored => exact Or.inl rfl
          | skipped => exact Or.inr rfl
          | opened => exact Or.inr rfl
          | added => exact Or.inr rfl
          | closed => exact Or.inr rfl
          | failed => exact Or.inl rfl
          | retried => exact Or.inl rfl
          | ended => exact Or.inl rfl
      | false =>
          rw [step_message_unsubscribed hsub]
          exact Or.inl rfl
  | delayedRequest =>
      rw [ReadData.step]
      split_ifs
      · exact Or.inl rfl
      · exact Or.inr rfl

/-- A request carries the counter. -/
lemma mem_sentBy {e : Event} {seq : ℤ} (hmounted : s.mounted = true)
    (h : seq ∈ sentBy p sopepId s e) : seq = (ReadData.step p sopepId s e).seqCounter := by
  rw [sentBy] at h
  rcases step_requests p sopepId hmounted e with heq | heq
  · rw [heq, List.drop_length] at h
    exact absurd h (by simp)
  · rw [heq, List.drop_left] at h
    exact List.mem_singleton.mp h

/-! ### A data set -/

/-- The texts of the numbers and times below, in the time zone UTC. -/
def samplePlatform : Platform where
  doubleText bits := if bits = 0x3FE0000000000000 then "0.5" else "4.0"
  formatDate pattern ms :=
    if pattern = namePattern then "2023_11_14_22_13_20"
    else if ms = 1700000000000 then "Tue Nov 14 22:13:20 2023"
    else "Tue Nov 14 22:14:20 2023"

/-- A record of a type, with its other fields. -/
def sampleRecord (seq : ℤ) (type : String) (fields : List (Value × Value))
    (h : (stringKeys ([(.string "rsp", .string "read-data"), (.string "seq", .int seq),
      (.string "type", .string type)] ++ fields)).Nodup) : DataMap :=
  ⟨_, h⟩

def startSet : DataMap := sampleRecord 5 "Start set"
  [(.string "session", .int 3), (.string "set", .int 1), (.string "timestamp", .int 1700000000)]
  (by decide)

def pressure : DataMap := sampleRecord 6 "Pressure" [(.string "data", .bytes [1, 2, 3])] (by decide)

def rawPressure : DataMap :=
  sampleRecord 7 "Raw Pressure" [(.string "data", .bytes [0, 0, 128, 63])] (by decide)

def endSet : DataMap := sampleRecord 8 "End set"
  [(.string "timestamp", .int 1700000060), (.string "n_samples", .int 120),
    (.string "peak_error", .double 0x3FE0000000000000),
    (.string "rms_error", .double 0x3FE0000000000000),
    (.string "compression_ratio", .double 0x4010000000000000)] (by decide)

/-- A set whose reading is disturbed by an event, a repeated response and the
request that the event leads to. -/
def sampleRun : List Event :=
  [.message startSet, .message newDataEvent, .message pressure, .message pressure, .delayedRequest,
    .message rawPressure, .message endSet]

/-! ### The records and the files of a run -/

/-- **The loop accepts records gap-free and once**: over any messages whose
accepted records are well-formed, the accepted records are numbered from
`seqOldest` on; every request carries the number of the last of them; and
between messages a Start set has been found exactly when the buffer is not
empty, and then the buffer is a stretch of the accepted records that begins
with a Start set and contains no End set. -/
theorem accepted_gap_free {es : List Event}
    (hwf : WellFormedRun (accepted p sopepId seqOldest es)) :
    (∀ (k : ℕ) (r : DataMap), (accepted p sopepId seqOldest es)[k]? = some r →
      (r.get "seq").eqInt (int64 (seqOldest + k))) ∧
    (∀ seq ∈ (start seqOldest).requests, LastAccepted seqOldest [] seq) ∧
    (∀ pre e, pre ++ [e] <+: es →
      ∀ seq ∈ sentBy p sopepId (run (ReadData.step p sopepId) (start seqOldest) pre) e,
        LastAccepted seqOldest (accepted p sopepId seqOldest (pre ++ [e])) seq) ∧
    ∀ pre, pre <+: es →
      let s := run (ReadData.step p sopepId) (start seqOldest) pre
      (s.startSetFound = true ↔ s.pressureDataRaw ≠ []) ∧
      (s.pressureDataRaw ≠ [] →
        s.pressureDataRaw <:+ accepted p sopepId seqOldest pre ∧
        (∃ r rest, s.pressureDataRaw = r :: rest ∧ isStart r = true) ∧
        ∀ r ∈ s.pressureDataRaw, isEnd r = false) := by
  have htracks : ∀ pre, pre <+: es → Tracks p sopepId seqOldest (accepted p sopepId seqOldest pre)
      (run (ReadData.step p sopepId) (start seqOldest) pre) := fun pre hpre =>
    tracks_run (hwf.of_prefix (accepted_mono hpre))
  refine ⟨(htracks es List.prefix_rfl).numbered, ?_, fun pre e hpre seq hseq => ?_,
    fun pre hpre => ?_⟩
  · intro seq hseq
    exact List.mem_singleton.mp hseq
  · have hbefore := htracks pre ((List.prefix_append pre [e]).trans hpre)
    have hafter := (htracks (pre ++ [e]) hpre).lastAccepted
    rw [run_concat] at hafter
    rw [mem_sentBy hbefore.mounted hseq]
    exact hafter
  · have h := htracks pre hpre
    dsimp only
    cases hset : (run (ReadData.step p sopepId) (start seqOldest) pre).startSetFound with
    | true =>
        obtain ⟨⟨r, rest, hbuf, hr⟩, -⟩ := h.reading hset
        refine ⟨iff_of_true rfl ?_, fun _ => ⟨h.suffix, ⟨r, rest, hbuf, hr⟩, h.noEnd⟩⟩
        rw [hbuf]
        exact List.cons_ne_nil r rest
    | false =>
        have hbuf := (h.idle hset).1
        exact ⟨iff_of_false Bool.false_ne_true (not_not.mpr hbuf), fun hne => absurd hbuf hne⟩

/-- Four records, one of them received twice. -/
theorem accepted_gap_free_sample :
    accepted samplePlatform "SOPEP0000000001" 5 sampleRun =
      [startSet, pressure, rawPressure, endSet] ∧
    ∀ (k : ℕ) (r : DataMap),
      (accepted samplePlatform "SOPEP0000000001" 5 sampleRun)[k]? = some r →
      (r.get "seq").eqInt (int64 (5 + k)) :=
  ⟨by decide +kernel, (accepted_gap_free (by decide +kernel)).1⟩

/-- **The saved data sets are the completed sets**: the files saved in a run
are, in order, those of the sections of the accepted records, which are the
stretches from a Start set to an End set with neither between. -/
theorem saved_datasets {es : List Event}
    (hwf : WellFormedRun (accepted p sopepId seqOldest es)) :
    (run (ReadData.step p sopepId) (start seqOldest) es).files =
      (sections isStart isEnd (accepted p sopepId seqOldest es)).flatMap
        (datasetFiles p sopepId) ∧
    ∀ c, c ∈ sections isStart isEnd (accepted p sopepId seqOldest es) ↔
      ∃ pre post, accepted p sopepId seqOldest es = pre ++ c.first :: (c.inner ++ c.last :: post) ∧
        isStart c.first = true ∧ (∀ r ∈ c.inner, isStart r = false ∧ isEnd r = false) ∧
        isStart c.last = false ∧ isEnd c.last = true :=
  ⟨(tracks_run hwf).files, fun _ => mem_sections_iff⟩

/-- The files of one set. -/
theorem saved_datasets_sample :
    (run (ReadData.step samplePlatform "SOPEP0000000001") (start 5) sampleRun).files =
      (sections isStart isEnd (accepted samplePlatform "SOPEP0000000001" 5 sampleRun)).flatMap
        (datasetFiles samplePlatform "SOPEP0000000001") :=
  (saved_datasets (by decide +kernel)).1

/-- The fields that a record carries by its type, and no more: a record may have
no type, and a time stamp is any int. -/
structure CarriesFields (record : DataMap) : Prop where
  start_set : isStart record = true → record.get "session" ≠ .null ∧ record.get "set" ≠ .null ∧
    (record.get "timestamp").asInt.toOption.isSome
  end_set : isEnd record = true → (record.get "timestamp").asInt.toOption.isSome ∧
    record.get "n_samples" ≠ .null ∧ record.get "peak_error" ≠ .null ∧
    record.get "rms_error" ≠ .null ∧ record.get "compression_ratio" ≠ .null
  data : record.get "type" = .string "Pressure" ∨ record.get "type" = .string "Raw Pressure" →
    (record.get "data").asBytes.toOption.isSome

instance (record : DataMap) : Decidable (CarriesFields record) :=
  decidable_of_iff
    ((isStart record = true → record.get "session" ≠ .null ∧ record.get "set" ≠ .null ∧
        (record.get "timestamp").asInt.toOption.isSome) ∧
      (isEnd record = true → (record.get "timestamp").asInt.toOption.isSome ∧
        record.get "n_samples" ≠ .null ∧ record.get "peak_error" ≠ .null ∧
        record.get "rms_error" ≠ .null ∧ record.get "compression_ratio" ≠ .null) ∧
      (record.get "type" = .string "Pressure" ∨ record.get "type" = .string "Raw Pressure" →
        (record.get "data").asBytes.toOption.isSome))
    ⟨fun ⟨h1, h2, h3⟩ => ⟨h1, h2, h3⟩, fun ⟨h1, h2, h3⟩ => ⟨h1, h2, h3⟩⟩

/-- A `read-data` response with a number and nothing else. -/
def typeless : DataMap :=
  ⟨[(.string "rsp", .string "read-data"), (.string "seq", .int 6)], by decide⟩

/-- An End set with its number and time stamp. -/
def endSetAt (seq timestamp : ℤ) : DataMap := sampleRecord seq "End set"
  [(.string "timestamp", .int timestamp), (.string "n_samples", .int 120),
    (.string "peak_error", .double 0x3FE0000000000000),
    (.string "rms_error", .double 0x3FE0000000000000),
    (.string "compression_ratio", .double 0x4010000000000000)]
  (show ["rsp", "seq", "type", "timestamp", "n_samples", "peak_error", "rms_error",
    "compression_ratio"].Nodup by decide)

/-- Neither a set with a typeless record nor one whose time stamp `DateTime`
does not take is saved, although every accepted record carries its fields. -/
theorem typeless_record_unsaved :
    (¬ ∀ (p : Platform) (sopepId : String) (seqOldest : ℤ) (es : List Event),
      (∀ r ∈ accepted p sopepId seqOldest es, CarriesFields r) →
      (∀ c ∈ sections isStart isEnd (accepted p sopepId seqOldest es),
        4 ∣ (payload "Raw Pressure" c.inner).length) →
      (run (ReadData.step p sopepId) (start seqOldest) es).files =
        (sections isStart isEnd (accepted p sopepId seqOldest es)).flatMap
          (datasetFiles p sopepId)) ∧
    ¬ ∀ (p : Platform) (sopepId : String) (seqOldest : ℤ) (es : List Event),
      (∀ r ∈ accepted p sopepId seqOldest es, CarriesFields r ∧ r.get "type" ≠ .null) →
      (∀ c ∈ sections isStart isEnd (accepted p sopepId seqOldest es),
        4 ∣ (payload "Raw Pressure" c.inner).length) →
      (run (ReadData.step p sopepId) (start seqOldest) es).files =
        (sections isStart isEnd (accepted p sopepId seqOldest es)).flatMap
          (datasetFiles p sopepId) := by
  refine ⟨fun h => ?_, fun h => ?_⟩
  · have hsame := h samplePlatform "SOPEP0000000001" 5
      [.message startSet, .message typeless, .message (endSetAt 7 1700000060)]
      (by decide +kernel) (by decide +kernel)
    exact absurd hsame (by decide +kernel)
  · -- ten thousand milliard seconds are past the last day of `DateTime`
    have hsame := h samplePlatform "SOPEP0000000001" 5
      [.message startSet, .message (endSetAt 6 10000000000000)]
      (by decide +kernel) (by decide +kernel)
    exact absurd hsame (by decide +kernel)

example :
    (run (ReadData.step samplePlatform "SOPEP0000000001") (start 5) sampleRun).files.drop 1 =
      [.binary "datasets/SOPEP0000000001_SES3_SET1_2023_11_14_22_13_20" [1, 2, 3],
        .doublesCsv "datasets/SOPEP0000000001_SES3_SET1_2023_11_14_22_13_20" [0x3F800000]] := by
  decide +kernel

end SopepApp.ReadData
