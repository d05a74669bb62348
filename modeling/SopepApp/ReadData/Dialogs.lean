import SopepApp.Framing.Hex
import SopepApp.ReadData.Loop

/-!
The read-data dialogs that are opened and closed one after the other,
`_SopepReadDataDialogState` of `sopep_readdata_dialog.dart`.

* `intParse`: `int.parse`;
* `ReadDialog`: the fields of a dialog with the loop it has started, and
  `subscribeListener`, the listener of `subscribeCharacteristic`;
* `step`: a dialog is opened, started, closed; a message reaches every live
  listener, those of the loops of closed dialogs included; a delayed request
  fires;
* `cancelled_stays_iff`: whatever comes next a closed dialog sends and saves
  nothing, and at most one loop is active, exactly in the runs in which each
  dialog is closed only without an active loop; `quiet_run` is the first half of
  it for such a run, `cancelled_read_goes_on` a run in which a dialog is closed
  while reading.
-/

namespace SopepApp.ReadData.Dialogs

open Dart Transition

/-! ### `int.parse` -/

/-- The value of digits in a base up to sixteen. -/
def digitsValue (base : ℕ) (digits : List Char) : Option ℕ :=
  if digits = [] then none
  else digits.foldlM (fun n c => do
    let d ← Hex.digit? c
    if d < base then some (n * base + d) else none) 0

/-- A blank for `int.parse` and `String.trim`: white space of Unicode, or the
byte order mark. -/
def isBlank (c : Char) : Bool :=
  (0x09 ≤ c.toNat ∧ c.toNat ≤ 0x0D) ∨ (0x2000 ≤ c.toNat ∧ c.toNat ≤ 0x200A) ∨
    c.toNat ∈ [0x20, 0x85, 0xA0, 0x1680, 0x2028, 0x2029, 0x202F, 0x205F, 0x3000, 0xFEFF]

/-- The text without the blanks at its ends. -/
def trim (cs : List Char) : List Char :=
  ((cs.dropWhile isBlank).reverse.dropWhile isBlank).reverse

/-- `int.parse(source)`: decimal digits that fit 64 bits, or up to 64 bits in
hexadecimal after `0x`, with an optional sign. -/
def intParse (source : String) : Except Error ℤ :=
  let (sign, digits) : ℤ × List Char :=
    match trim source.toList with
    | '-' :: cs => (-1, cs)
    | '+' :: cs => (1, cs)
    | cs => (1, cs)
  let hexadecimal : Option (List Char) :=
    match digits with
    | '0' :: 'x' :: cs => some cs
    | '0' :: 'X' :: cs => some cs
    | _ => none
  match hexadecimal with
  | some cs =>
    match digitsValue 16 cs with
    | some n => if n < 2 ^ 64 then .ok (int64 (sign * n)) else .error .formatException
    | none => .error .formatException
  | none =>
    match digitsValue 10 digits with
    | some n =>
      if -2 ^ 63 ≤ sign * n ∧ sign * n < 2 ^ 63 then .ok (sign * n) else .error .formatException
    | none => .error .formatException

example : intParse "\u00a0-12\t" = .ok (-12) := by decide +kernel

/-! ### One dialog -/

/-- The fields of a dialog. Those that the loop assigns are in the loop, once it
has been started. -/
structure ReadDialog where
  /-- it is on the screen, and its own listener is live -/
  mounted : Bool := true
  readingInProgress : Bool := false
  readingComplete : Bool := false
  completeMessage : String := ""
  seqDataOldest : ℤ := -1
  loop : Option ReadLoop := none
  /-- how often Start has sent `getData(null)` -/
  starts : ℕ := 0
  deriving DecidableEq

/-- The listener of `subscribeCharacteristic`. -/
def subscribeListener (p : Platform) (dataMap : DataMap) : Effect ReadDialog Unit := do
  if ¬ (← get).readingInProgress then
    if dataMap.get "rsp" = .string "read-data" then
      modify fun d => { d with readingInProgress := true }
      if dataMap.get "seq" ≠ .null then
        let seqDataOldest ← Effect.lift (intParse ((dataMap.get "seq").toText p))
        modify fun d => { d with
          seqDataOldest := seqDataOldest
          loop := some (start seqDataOldest) }
      else
        modify fun d => { d with
          completeMessage := "No new data available"
          readingComplete := true }

/-- A message on the stream of responses. A loop that it starts does not receive
it. -/
def receive (p : Platform) (sopepId : String) (dataMap : DataMap) (d : ReadDialog) : ReadDialog :=
  let d' := if d.mounted then (subscribeListener p dataMap).finalState d else d
  match d.loop with
  | some loop => { d' with loop := some (ReadData.step p sopepId loop (.message dataMap)) }
  | none => d'

/-- The button Start, shown until the reading is in progress. -/
def startPressed (d : ReadDialog) : ReadDialog :=
  if d.mounted = true ∧ d.readingInProgress = false then { d with starts := d.starts + 1 } else d

/-- `dispose`: the listener of the dialog is cancelled, and no other. -/
def dispose (d : ReadDialog) : ReadDialog :=
  if d.mounted then
    { d with
      mounted := false
      loop := d.loop.map fun loop => { loop with mounted := false } }
  else d

/-- A delayed closure of the loop fires. -/
def fireDelayed (p : Platform) (sopepId : String) (d : ReadDialog) : ReadDialog :=
  { d with loop := d.loop.map fun loop => ReadData.step p sopepId loop .delayedRequest }

/-! ### The dialogs -/

/-- What happens to the dialogs. -/
inductive Event where
  /-- the button of the tab opens a dialog, which covers it -/
  | openDialog
  | startPressed
  | message (dataMap : DataMap)
  /-- a delayed closure of the dialog `i` fires -/
  | delayedRequest (i : ℕ)
  /-- Close, Cancel or the back button -/
  | close

/-- What an event does to the dialog `i`. -/
def react (p : Platform) (sopepId : String) (i : ℕ) (d : ReadDialog) : Event → ReadDialog
  | .openDialog => d
  | .startPressed => Dialogs.startPressed d
  | .message dataMap => receive p sopepId dataMap d
  | .delayedRequest k => if k = i then fireDelayed p sopepId d else d
  | .close => dispose d

/-- One event. The dialogs are kept in the order of their opening. -/
def step (p : Platform) (sopepId : String) (ds : List ReadDialog) (e : Event) :
    List ReadDialog :=
  let ds' := ds.mapIdx fun i d => react p sopepId i d e
  match e with
  | .openDialog => if ∀ d ∈ ds, d.mounted = false then ds' ++ [{}] else ds'
  | _ => ds'

/-! ### Active loops -/

/-- The loop of the dialog may still act: it is subscribed, or a delayed request
is to fire. -/
def Active (d : ReadDialog) : Prop :=
  ∃ loop, d.loop = some loop ∧ (loop.streamSubscriptionReadData = true ∨ loop.delayed ≠ 0)

/-- The loop of a closed dialog sends no request and saves no file at the
event. -/
def Quiet (p : Platform) (sopepId : String) (ds : List ReadDialog) (e : Event) : Prop :=
  ∀ (i : ℕ) (d d' : ReadDialog), ds[i]? = some d → d.mounted = false →
    (step p sopepId ds e)[i]? = some d' →
    d'.loop.map ReadLoop.requests = d.loop.map ReadLoop.requests ∧
      d'.loop.map ReadLoop.files = d.loop.map ReadLoop.files

/-- At most one loop is active. -/
def OneActive (ds : List ReadDialog) : Prop :=
  ∀ (i j : ℕ) (d d' : ReadDialog), ds[i]? = some d → ds[j]? = some d' → Active d → Active d' → i = j

/-- **A cancelled read stays cancelled**: whatever comes next no closed dialog
sends or saves, and at most one loop is active. -/
def CancelledStays (p : Platform) (sopepId : String) (ds : List ReadDialog) : Prop :=
  (∀ e, Quiet p sopepId ds e) ∧ OneActive ds

/-- A dialog is closed only without an active loop. -/
def SoundStep (ds : List ReadDialog) (e : Event) : Prop :=
  e = .close → ∀ d ∈ ds, d.mounted = true → ¬ Active d

/-- No closed dialog has an active loop. -/
def Settled (ds : List ReadDialog) : Prop := ∀ d ∈ ds, d.mounted = false → ¬ Active d

/-- Only the dialog opened last may be on the screen. -/
def OnTop (ds : List ReadDialog) : Prop :=
  ∀ (i : ℕ) (d : ReadDialog), ds[i]? = some d → d.mounted = true → i + 1 = ds.length

variable {p : Platform} {sopepId : String} {ds : List ReadDialog} {d : ReadDialog}

/-- The fields that only opening and closing change. -/
lemma subscribeListener_mounted (m : DataMap) (d : ReadDialog) :
    ((subscribeListener p m).finalState d).mounted = d.mounted := by
  rw [subscribeListener, Effect.finalState_get_bind]
  split_ifs
  · rfl
  · rw [Effect.finalState_modify_bind]
    cases intParse ((m.get "seq").toText p) with
    | ok seq => rfl
    | error e => rfl
  · rfl
  · rfl

lemma react_mounted (i : ℕ) (d : ReadDialog) {e : Event} (he : e ≠ .close) :
    (react p sopepId i d e).mounted = d.mounted := by
  cases e with
  | openDialog => rfl
  | startPressed =>
      rw [react, Dialogs.startPressed]
      split_ifs
      · rfl
      · rfl
  | message m =>
      rw [react, receive]
      cases d.loop with
      | none =>
          dsimp only
          split_ifs
          · exact subscribeListener_mounted m d
          · rfl
      | some loop =>
          dsimp only
          split_ifs
          · exact subscribeListener_mounted m d
          · rfl
  | delayedRequest k =>
      rw [react]
      split_ifs
      · rfl
      · rfl
  | close => exact absurd rfl he

/-- A closed dialog without an active loop does nothing. -/
lemma react_settled (hclosed : d.mounted = false) (hidle : ¬ Active d) (i : ℕ) (e : Event) :
    react p sopepId i d e = d := by
  have hloop : ∀ loop, d.loop = some loop →
      loop.streamSubscriptionReadData = false ∧ loop.delayed = 0 := by
    intro loop hl
    refine ⟨?_, ?_⟩
    · by_contra hsub
      exact hidle ⟨loop, hl, Or.inl (by simpa using hsub)⟩
    · by_contra hdelayed
      exact hidle ⟨loop, hl, Or.inr hdelayed⟩
  cases e with
  | openDialog => rfl
  | startPressed =>
      rw [react, Dialogs.startPressed, if_neg fun h => absurd h.1 (ne_true_of_eq_false hclosed)]
  | message m =>
      rw [react, receive, hclosed]
      cases hl : d.loop with
      | none => rfl
      | some loop =>
          dsimp only
          rw [step_message_unsubscribed (hloop loop hl).1, if_neg Bool.false_ne_true, ← hl]
  | delayedRequest k =>
      rw [react, fireDelayed]
      split_ifs
      · cases hl : d.loop with
        | none => rw [Option.map_none, ← hl]
        | some loop =>
            rw [Option.map_some, ReadData.step, if_pos (hloop loop hl).2, ← hl]
      · rfl
  | close => rw [react, dispose, if_neg (ne_true_of_eq_false hclosed)]

/-! ### Runs of the dialogs -/

variable (p sopepId) in
/-- A dialog after an event. -/
lemma getElem?_step {i : ℕ} (hd : ds[i]? = some d) (e : Event) :
    (step p sopepId ds e)[i]? = some (react p sopepId i d e) := by
  have hlt : i < ds.length := (List.getElem?_eq_some_iff.mp hd).1
  have hmap : (ds.mapIdx fun i d => react p sopepId i d e)[i]? = some (react p sopepId i d e) := by
    rw [List.getElem?_mapIdx, hd, Option.map_some]
  cases e with
  | openDialog =>
      rw [step]
      split_ifs
      · rw [List.getElem?_append_left (by rw [List.length_mapIdx]; exact hlt), hmap]
      · exact hmap
  | _ => exact hmap

/-- The dialogs after an event are those before it and, where none was on the
screen, one that is opened. -/
lemma mem_step {d' : ReadDialog} {e : Event} (h : d' ∈ step p sopepId ds e) :
    (∃ i d, ds[i]? = some d ∧ d' = react p sopepId i d e) ∨ d' = {} := by
  have hmap : d' ∈ (ds.mapIdx fun i d => react p sopepId i d e) →
      ∃ i d, ds[i]? = some d ∧ d' = react p sopepId i d e := by
    intro hmem
    obtain ⟨i, hi, heq⟩ := List.mem_mapIdx.mp hmem
    exact ⟨i, ds[i], List.getElem?_eq_getElem hi, heq.symm⟩
  cases e with
  | openDialog =>
      rw [step] at h
      split_ifs at h
      · rcases List.mem_append.mp h with hold | hnew
        · exact Or.inl (hmap hold)
        · exact Or.inr (List.mem_singleton.mp hnew)
      · exact Or.inl (hmap h)
  | _ => exact Or.inl (hmap h)

lemma dispose_mounted (d : ReadDialog) : (dispose d).mounted = false := by
  rw [dispose]
  split_ifs with h
  · rfl
  · simpa using h

/-- Every event keeps the open dialog on top. -/
lemma onTop_step (h : OnTop ds) (e : Event) : OnTop (step p sopepId ds e) := by
  have hmap : OnTop (ds.mapIdx fun i d => react p sopepId i d e) := by
    intro i d' hd' hmounted
    rw [List.getElem?_mapIdx] at hd'
    obtain ⟨d, hd, rfl⟩ := Option.map_eq_some_iff.mp hd'
    rw [List.length_mapIdx]
    refine h i d hd ?_
    by_cases he : e = .close
    · subst he
      rw [react, dispose_mounted] at hmounted
      exact absurd hmounted Bool.false_ne_true
    · rw [react_mounted i d he] at hmounted
      exact hmounted
  cases e with
  | openDialog =>
      rw [step]
      split_ifs with hclosed
      · intro i d' hd' hmounted
        rw [List.length_append, List.length_singleton, List.length_mapIdx]
        rcases lt_or_ge i ds.length with hlt | hge
        · rw [List.getElem?_append_left (by rw [List.length_mapIdx]; exact hlt),
            List.getElem?_mapIdx, List.getElem?_eq_getElem hlt] at hd'
          obtain rfl := Option.some_inj.mp hd'
          exact absurd hmounted (ne_true_of_eq_false (hclosed _ (List.getElem_mem hlt)))
        · have hlt := (List.getElem?_eq_some_iff.mp hd').1
          rw [List.length_append, List.length_singleton, List.length_mapIdx] at hlt
          omega
      · exact hmap
  | _ => exact hmap

/-- `dispose` leaves an active loop active. -/
lemma active_dispose (d : ReadDialog) : Active (dispose d) ↔ Active d := by
  rw [dispose]
  split_ifs
  · cases hl : d.loop with
    | none => simp [Active, hl]
    | some loop => simp [Active, hl]
  · rfl

/-- A step leaves no active loop behind exactly when it is sound. -/
lemma settled_step_iff (h : Settled ds) (e : Event) :
    Settled (step p sopepId ds e) ↔ SoundStep ds e := by
  by_cases he : e = .close
  · subst he
    refine ⟨fun hsettled _ d hd _ => ?_, fun hsound d' hd' _ => ?_⟩
    · obtain ⟨i, hi⟩ := List.mem_iff_getElem?.mp hd
      have hstep := getElem?_step p sopepId hi .close
      have hidle := hsettled _ (List.mem_of_getElem? hstep) (dispose_mounted d)
      rwa [react, active_dispose] at hidle
    · rcases mem_step hd' with ⟨i, d, hd, rfl⟩ | rfl
      · rw [react, active_dispose]
        by_cases hmounted : d.mounted = true
        · exact hsound rfl d (List.mem_of_getElem? hd) hmounted
        · exact h d (List.mem_of_getElem? hd) (by simpa using hmounted)
      · simp [Active]
  · refine iff_of_true (fun d' hd' hclosed => ?_) fun hclose => absurd hclose he
    rcases mem_step hd' with ⟨i, d, hd, rfl⟩ | rfl
    · rw [react_mounted i d he] at hclosed
      have hidle := h d (List.mem_of_getElem? hd) hclosed
      rwa [react_settled hclosed hidle]
    · simp [Active]

/-- A record with this sequence number that neither opens nor closes a set. -/
def record (seq : ℤ) : DataMap :=
  ⟨[(.string "rsp", .string "read-data"), (.string "seq", .int seq)], by simp [stringKeys]⟩

/-- A loop that is subscribed answers the record it waits for. -/
lemma step_record {s : ReadLoop} (hsub : s.streamSubscriptionReadData = true) :
    (ReadData.step p sopepId s (.message (record (int64 (s.seqCounter + 1))))).requests =
      s.requests ++ [int64 (s.seqCounter + 1)] := by
  have hseq : (record (int64 (s.seqCounter + 1))).get "seq" = .int (int64 (s.seqCounter + 1)) := rfl
  have hrecord : isRecord (record (int64 (s.seqCounter + 1))) = true := rfl
  have hstart : isStart (record (int64 (s.seqCounter + 1))) = false := rfl
  have hend : isEnd (record (int64 (s.seqCounter + 1))) = false := rfl
  have heq : (Value.int (int64 (s.seqCounter + 1))).eqInt (int64 (s.seqCounter + 1)) := rfl
  rw [ReadData.step, if_pos hsub, getDataLoopListener, if_pos hrecord, Effect.finalState_get_bind,
    hseq, if_pos heq, hstart, hend]
  by_cases hset : s.startSetFound = true
  · simp [hset, getData]
  · simp [hset, getData]

/-- An active loop of a closed dialog sends a request at some next event. -/
lemma settled_of_quiet (h : ∀ e, Quiet p sopepId ds e) : Settled ds := by
  rintro d hd hclosed ⟨loop, hl, hact⟩
  obtain ⟨i, hi⟩ := List.mem_iff_getElem?.mp hd
  rcases hact with hsub | hdelayed
  · have hquiet := (h (.message (record (int64 (loop.seqCounter + 1)))) i d _ hi hclosed
      (getElem?_step p sopepId hi _)).1
    rw [react, receive, hl] at hquiet
    dsimp only at hquiet
    rw [Option.map_some, Option.map_some, step_record hsub, Option.some_inj] at hquiet
    simp at hquiet
  · have hquiet := (h (.delayedRequest i) i d _ hi hclosed (getElem?_step p sopepId hi _)).1
    rw [react, if_pos rfl, fireDelayed, hl] at hquiet
    dsimp only at hquiet
    rw [Option.map_some, Option.map_some, Option.map_some, ReadData.step, if_neg hdelayed,
      Option.some_inj] at hquiet
    simp at hquiet

/-- No closed dialog has an active loop if and only if a cancelled read stays
cancelled. -/
lemma cancelledStays_iff (h : OnTop ds) : CancelledStays p sopepId ds ↔ Settled ds := by
  refine ⟨fun hstays => settled_of_quiet hstays.1, fun hsettled => ⟨?_, ?_⟩⟩
  · intro e i d d' hd hclosed hd'
    rw [getElem?_step p sopepId hd,
      react_settled hclosed (hsettled d (List.mem_of_getElem? hd) hclosed), Option.some_inj] at hd'
    rw [hd']
    exact ⟨rfl, rfl⟩
  · intro i j d d' hd hd' hactive hactive'
    have hmounted : ∀ {k : ℕ} {x : ReadDialog}, ds[k]? = some x → Active x → x.mounted = true := by
      intro k x hx hact
      by_contra hclosed
      exact hsettled x (List.mem_of_getElem? hx) (by simpa using hclosed) hact
    have hi := h i d hd (hmounted hd hactive)
    have hj := h j d' hd' (hmounted hd' hactive')
    omega

/-- The runs in which no closed dialog has an active loop. -/
lemma settled_run_iff (p : Platform) (sopepId : String) (es : List Event) :
    Throughout (step p sopepId) Settled [] es ↔ Always (step p sopepId) SoundStep [] es :=
  throughout_iff_always (I := fun _ => True) trivial
    (fun _ hd => absurd hd List.not_mem_nil) (fun _ _ _ => trivial)
    fun _ e _ h => settled_step_iff h e

/-- The newest dialog is on top in every run. -/
lemma onTop_run (p : Platform) (sopepId : String) (es : List Event) :
    Throughout (step p sopepId) OnTop [] es :=
  Throughout.of_invariant (fun i d hd => absurd hd (by simp)) fun _ e h => onTop_step h e

/-- **A cancelled read stays cancelled** exactly in the runs in which a dialog is
closed only when its loop has not been started, or has ended with no delayed
request to fire. -/
theorem cancelled_stays_iff (p : Platform) (sopepId : String) (es : List Event) :
    Throughout (step p sopepId) (CancelledStays p sopepId) [] es ↔
      Always (step p sopepId) SoundStep [] es := by
  calc Throughout (step p sopepId) (CancelledStays p sopepId) [] es
      ↔ Throughout (step p sopepId) Settled [] es :=
        forall_congr' fun pre => forall_congr' fun hpre =>
          cancelledStays_iff (onTop_run p sopepId es pre hpre)
    _ ↔ Always (step p sopepId) SoundStep [] es := settled_run_iff p sopepId es

/-- In such a run no closed dialog sends or saves anything. -/
theorem quiet_run {p : Platform} {sopepId : String} {es : List Event}
    (h : Always (step p sopepId) SoundStep [] es) :
    Always (step p sopepId) (Quiet p sopepId) [] es := by
  have hsettled := (settled_run_iff p sopepId es).mpr h
  rintro pre e post rfl
  have hpre : pre <+: pre ++ e :: post := List.prefix_append _ _
  exact ((cancelledStays_iff (onTop_run p sopepId _ pre hpre)).mpr (hsettled pre hpre)).1 e

/-- A read that is cancelled before its first record: the loop answers the
record all the same. -/
theorem cancelled_read_goes_on :
    ¬ ∀ (p : Platform) (sopepId : String) (es : List Event),
      Throughout (step p sopepId) (CancelledStays p sopepId) [] es := by
  intro h
  have hlast := (h ⟨fun _ => "", fun _ _ => ""⟩ ""
    [.openDialog, .startPressed, .message (record 5), .close]).last
  have hquiet := (hlast.1 (.message (record 5)) 0 _ _ rfl rfl rfl).1
  revert hquiet
  decide +kernel

end SopepApp.ReadData.Dialogs
