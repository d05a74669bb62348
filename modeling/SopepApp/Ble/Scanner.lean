import SopepApp.Dart.Effect
import SopepApp.Framing.Packets
import SopepApp.Transition.Past

/-!
The device scanner, `BleScanner` of `ble_scanner.dart`.

* `Uint8List`, `memEquals`: byte lists as views of buffers, and the comparison
  by words of eight bytes;
* `Scanner`: the fields, the scan subscriptions created and the calls of
  `stopScan` that are suspended;
* `step`: the two calls, the continuation of a suspended `stopScan`, a device
  found by a live scan;
* `scan_state_iff`: the state pushed last and the stored subscription agree with
  the live scans in every state in which no `stopScan` is suspended, exactly in
  the runs in which no `stopScan` has gone on while a newer scan was live;
  `restarted_scan_lost` is such a run.
-/

namespace SopepApp.Scan

open Dart Transition Packets

/-! ### Devices -/

/-- A `Uint8List`: a view of a buffer. -/
structure Uint8List where
  buffer : List UInt8
  offsetInBytes : ℕ
  lengthInBytes : ℕ
  inBounds : offsetInBytes + lengthInBytes ≤ buffer.length
  deriving DecidableEq

/-- The bytes of the view. -/
def Uint8List.toList (bytes : Uint8List) : List UInt8 :=
  (bytes.buffer.drop bytes.offsetInBytes).take bytes.lengthInBytes

/-- `buffer.asUint64List(0, numWords)`, each word by its eight bytes. -/
def Uint8List.asUint64List (bytes : Uint8List) (numWords : ℕ) : List (List UInt8) :=
  pieces 8 numWords bytes.buffer

/-- `memEquals`: the words are those of the buffers, the remaining bytes those of
the lists. Lists that are identical have equal words and bytes. -/
def memEquals (bytes0 bytes1 : Uint8List) : Bool :=
  if bytes0.lengthInBytes ≠ bytes1.lengthInBytes then false
  else
    let numWords := bytes0.lengthInBytes / 8
    bytes0.asUint64List numWords == bytes1.asUint64List numWords &&
      bytes0.toList.drop (8 * numWords) == bytes1.toList.drop (8 * numWords)

/-- The fields of a `DiscoveredDevice` that the app reads. -/
structure DiscoveredDevice where
  id : String
  name : String
  serviceUuids : List String
  manufacturerData : Uint8List
  rssi : ℤ
  deriving DecidableEq

/-- `Uuid.parse(SOPEP_SERVICE_UUID)`. -/
def sopepServiceUuid : String := "9d0716f9-a4e0-44a8-a17e-5b3b3a176100"

/-! ### The scanner -/

/-- The fields of `BleScanner`, the scans it has started and the calls that wait. -/
structure Scanner where
  devices : List DiscoveredDevice := []
  /-- `_subscription`, by the number of the scan -/
  subscription : Option ℕ := none
  /-- how many scans have been started -/
  scans : ℕ := 0
  live : List ℕ := []
  /-- `scanIsInProgress` of the states pushed; `discoveredDevices` is the list
  `_devices` itself in each of them -/
  pushed : List Bool := []
  /-- how many calls of `stopScan` are suspended at their `await` -/
  stopping : ℕ := 0
  deriving DecidableEq

/-- `_pushState`. -/
def pushState : Effect Scanner Unit :=
  modify fun s => { s with pushed := s.pushed ++ [s.subscription.isSome] }

/-- `_subscription?.cancel()`. -/
def cancelSubscription : Effect Scanner Unit :=
  modify fun s => { s with live := s.live.filter fun n => some n ≠ s.subscription }

/-- `startScan`. -/
def startScan : Effect Scanner Unit := do
  modify fun s => { s with devices := [] }
  cancelSubscription
  modify fun s => { s with
    subscription := some s.scans
    scans := s.scans + 1
    live := s.live ++ [s.scans] }
  pushState

/-- The callback of a scan. -/
def onDevice (device : DiscoveredDevice) : Effect Scanner Unit := do
  if sopepServiceUuid ∈ device.serviceUuids then
    modify fun s => { s with
      devices :=
        match s.devices.findIdx? fun d => memEquals d.manufacturerData device.manufacturerData with
        | some knownDeviceIndex => s.devices.set knownDeviceIndex device
        | none => s.devices ++ [device] }
    pushState

/-- `stopScan`, up to its `await`. -/
def stopScan : Effect Scanner Unit := do
  cancelSubscription
  modify fun s => { s with stopping := s.stopping + 1 }

/-- `stopScan` after its `await`. -/
def stopScanResumed : Effect Scanner Unit := do
  modify fun s => { s with stopping := s.stopping - 1, subscription := none }
  pushState

/-- What happens to the scanner. -/
inductive Event where
  | startScan
  | stopScan
  /-- a suspended `stopScan` goes on -/
  | stopScanResumed
  /-- a scan finds a device -/
  | device (n : ℕ) (device : DiscoveredDevice)

/-- One event. A cancelled scan reports no device. -/
def step (s : Scanner) : Event → Scanner
  | .startScan => startScan.finalState s
  | .stopScan => stopScan.finalState s
  | .stopScanResumed => if 0 < s.stopping then stopScanResumed.finalState s else s
  | .device n device => if n ∈ s.live then (onDevice device).finalState s else s

/-! ### Scans and the stored subscription -/

/-- In a state without a suspended `stopScan` at most one scan is live, one is
stored exactly if there is one, and the state pushed last says so. -/
def Accurate (s : Scanner) : Prop :=
  s.stopping = 0 → s.live.length ≤ 1 ∧ (s.subscription.isSome ↔ s.live ≠ []) ∧
    ∀ scanIsInProgress ∈ s.pushed.getLast?, scanIsInProgress = true ↔ s.live ≠ []

/-- The step is not the continuation of a `stopScan` while the stored scan is
live: that one has been started since and would be forgotten. -/
def KeepsScan (s : Scanner) : Event → Prop
  | .stopScanResumed => 0 < s.stopping → ∀ n ∈ s.subscription, n ∉ s.live
  | _ => True

/-- A scan is live that the scanner has forgotten. -/
def Orphaned (s : Scanner) : Prop := ∃ n ∈ s.live, s.subscription ≠ some n

/-- What holds of the fields in every run. -/
structure Inv (s : Scanner) : Prop where
  nodup : s.live.Nodup
  lt_of_live : ∀ n ∈ s.live, n < s.scans
  lt_of_stored : ∀ n ∈ s.subscription, n < s.scans
  pushed : ∀ b ∈ s.pushed.getLast?, b = s.subscription.isSome
  /-- a stored subscription that has been cancelled will be cleared -/
  stored_live : s.stopping = 0 → ∀ n ∈ s.subscription, n ∈ s.live

variable {s : Scanner}

lemma step_startScan (s : Scanner) : step s .startScan = { s with
    devices := []
    subscription := some s.scans
    scans := s.scans + 1
    live := (s.live.filter fun n => some n ≠ s.subscription) ++ [s.scans]
    pushed := s.pushed ++ [true] } := rfl

lemma step_stopScan (s : Scanner) : step s .stopScan = { s with
    live := s.live.filter fun n => some n ≠ s.subscription
    stopping := s.stopping + 1 } := rfl

lemma step_stopScanResumed (hs : 0 < s.stopping) : step s .stopScanResumed = { s with
    subscription := none
    pushed := s.pushed ++ [false]
    stopping := s.stopping - 1 } := if_pos hs

/-- A device changes the devices and pushes the state once more. -/
lemma step_device (s : Scanner) (n : ℕ) (device : DiscoveredDevice) :
    step s (.device n device) = s ∨ ∃ devices, step s (.device n device) =
      { s with devices := devices, pushed := s.pushed ++ [s.subscription.isSome] } := by
  by_cases hn : n ∈ s.live
  · by_cases hu : sopepServiceUuid ∈ device.serviceUuids
    · exact Or.inr ⟨_, by rw [step, if_pos hn, onDevice, if_pos hu]; rfl⟩
    · exact Or.inl (by rw [step, if_pos hn, onDevice, if_neg hu]; rfl)
  · exact Or.inl (if_neg hn)

/-- The scans that survive a `cancel` of the stored one. -/
lemma mem_cancelled {n : ℕ} :
    n ∈ s.live.filter (fun n => some n ≠ s.subscription) ↔
      n ∈ s.live ∧ s.subscription ≠ some n := by
  rw [List.mem_filter, decide_eq_true_eq, ne_comm]

lemma inv_step (h : Inv s) (e : Event) : Inv (step s e) := by
  cases e with
  | startScan =>
      rw [step_startScan]
      refine ⟨?_, ?_, ?_, ?_, ?_⟩
      · refine List.Nodup.append (h.nodup.filter _) (List.nodup_singleton _) ?_
        rw [List.disjoint_singleton]
        exact fun hmem => absurd (h.lt_of_live _ (mem_cancelled.mp hmem).1) (lt_irrefl _)
      · intro n hn
        rcases List.mem_append.mp hn with hold | hnew
        · exact Nat.lt_succ_of_lt (h.lt_of_live n (mem_cancelled.mp hold).1)
        · rw [List.mem_singleton.mp hnew]
          exact Nat.lt_succ_self _
      · rintro n ⟨rfl⟩
        exact Nat.lt_succ_self _
      · simp
      · rintro - n ⟨rfl⟩
        exact List.mem_append_right _ (List.mem_singleton_self _)
  | stopScan =>
      rw [step_stopScan]
      refine ⟨h.nodup.filter _, ?_, h.lt_of_stored, h.pushed, ?_⟩
      · exact fun n hn => h.lt_of_live n (mem_cancelled.mp hn).1
      · exact fun hzero => absurd hzero (Nat.succ_ne_zero _)
  | stopScanResumed =>
      by_cases hs : 0 < s.stopping
      · rw [step_stopScanResumed hs]
        exact ⟨h.nodup, h.lt_of_live, by simp, by simp, by simp⟩
      · rw [step, if_neg hs]
        exact h
  | device n device =>
      rcases step_device s n device with hsame | ⟨devices, hpush⟩
      · rw [hsame]
        exact h
      · rw [hpush]
        exact ⟨h.nodup, h.lt_of_live, h.lt_of_stored, by simp, h.stored_live⟩

/-- **A scan is forgotten** by the continuation of a `stopScan` while it is
stored, and then for good. -/
lemma not_orphaned_step_iff (h : Inv s) (e : Event) :
    ¬ Orphaned (step s e) ↔ ¬ Orphaned s ∧ KeepsScan s e := by
  cases e with
  | startScan =>
      rw [step_startScan, and_iff_left (show KeepsScan s .startScan from trivial), not_iff_not]
      refine ⟨fun ⟨n, hn, hne⟩ => ?_, fun ⟨n, hn, hne⟩ => ?_⟩
      · rcases List.mem_append.mp hn with hold | hnew
        · exact ⟨n, mem_cancelled.mp hold⟩
        · exact absurd (congrArg some (List.mem_singleton.mp hnew).symm) hne
      · refine ⟨n, List.mem_append_left _ (mem_cancelled.mpr ⟨hn, hne⟩), ?_⟩
        rw [Ne, Option.some_inj]
        exact (h.lt_of_live n hn).ne'
  | stopScan =>
      rw [step_stopScan, and_iff_left (show KeepsScan s .stopScan from trivial), not_iff_not]
      refine ⟨fun ⟨n, hn, hne⟩ => ⟨n, (mem_cancelled.mp hn).1, hne⟩, fun ⟨n, hn, hne⟩ => ?_⟩
      exact ⟨n, mem_cancelled.mpr ⟨hn, hne⟩, hne⟩
  | stopScanResumed =>
      by_cases hs : 0 < s.stopping
      · rw [step_stopScanResumed hs, KeepsScan]
        refine ⟨fun hnone => ⟨fun ⟨n, hn, hne⟩ => hnone ⟨n, hn, Option.some_ne_none n ∘ Eq.symm⟩,
          fun _ n hstored hn => hnone ⟨n, hn, Option.some_ne_none n ∘ Eq.symm⟩⟩, ?_⟩
        rintro ⟨hnone, hkeep⟩ ⟨n, hn, -⟩
        by_cases hstored : s.subscription = some n
        · exact hkeep hs n hstored hn
        · exact hnone ⟨n, hn, hstored⟩
      · rw [step, if_neg hs, KeepsScan]
        exact (and_iff_left fun hpos => absurd hpos hs).symm
  | device n device =>
      rw [and_iff_left (show KeepsScan s (.device n device) from trivial)]
      rcases step_device s n device with hsame | ⟨devices, hpush⟩
      · rw [hsame]
      · rw [hpush]
        rfl

/-- Scans that are all the stored one are at most one. -/
lemma length_le_one_of_nodup {α : Type} {l : List α} (hnodup : l.Nodup) {a : α}
    (h : ∀ b ∈ l, b = a) : l.length ≤ 1 := by
  rw [List.eq_replicate_of_mem h] at hnodup ⊢
  rw [List.length_replicate]
  exact List.nodup_replicate.mp hnodup

/-- The state is accurate if no scan has been forgotten, and only then. -/
lemma accurate_iff (h : Inv s) : Accurate s ↔ (s.stopping = 0 → ¬ Orphaned s) := by
  refine imp_congr_right fun hzero => ⟨?_, fun hnone => ?_⟩
  · rintro ⟨hlen, hstored, -⟩ ⟨n, hn, hne⟩
    obtain ⟨m, hm⟩ := Option.isSome_iff_exists.mp (hstored.mpr (List.ne_nil_of_mem hn))
    -- the stored scan is live as well, and another one
    have hlive := h.stored_live hzero m hm
    obtain ⟨a, ha⟩ := List.length_eq_one_iff.mp (le_antisymm hlen (List.length_pos_of_mem hn))
    rw [ha, List.mem_singleton] at hn hlive
    exact hne (by rw [hm, hlive, hn])
  · have hall : ∀ n ∈ s.live, s.subscription = some n := by
      intro n hn
      by_contra hne
      exact hnone ⟨n, hn, hne⟩
    have hiff : s.subscription.isSome ↔ s.live ≠ [] := by
      refine ⟨fun hsome => ?_, fun hne => ?_⟩
      · obtain ⟨m, hm⟩ := Option.isSome_iff_exists.mp hsome
        exact List.ne_nil_of_mem (h.stored_live hzero m hm)
      · obtain ⟨n, hn⟩ := List.exists_mem_of_ne_nil _ hne
        rw [hall n hn]
        rfl
    refine ⟨?_, hiff, fun b hb => ?_⟩
    · cases hsub : s.subscription with
      | none =>
          have hnil : s.live = [] := List.eq_nil_iff_forall_not_mem.mpr fun n hn => by
            have hn' := (hall n hn).symm.trans hsub
            exact absurd hn' (Option.some_ne_none n)
          rw [hnil]
          exact Nat.zero_le _
      | some m =>
          refine length_le_one_of_nodup h.nodup (a := m) fun n hn => ?_
          exact Option.some_inj.mp ((hall n hn).symm.trans hsub)
    · rw [h.pushed b hb, ← hiff]

lemma inv_init : Inv {} := by
  refine ⟨List.nodup_nil, ?_, ?_, ?_, ?_⟩ <;> simp

/-- **The scanner's state matches the live scans** in every state of a run in
which no `stopScan` is suspended exactly when, up to each such state, no
`stopScan` has gone on while a scan started after its call was stored and
live. -/
theorem scan_state_iff (es : List Event) :
    Throughout step Accurate {} es ↔
      ∀ pre, pre <+: es → (run step {} pre).stopping = 0 → Always step KeepsScan {} pre := by
  refine forall_congr' fun pre => imp_congr_right fun _ => ?_
  have hinv : Inv (run step {} pre) :=
    (Throughout.of_invariant inv_init fun _ e h => inv_step h e).last
  have hkeep : ¬ Orphaned (run step {} pre) ↔ Always step KeepsScan {} pre :=
    iff_always (K := fun s => ¬ Orphaned s) inv_init (fun ⟨n, hn, _⟩ => absurd hn List.not_mem_nil)
      (fun _ e h => inv_step h e) fun _ e h => not_orphaned_step_iff h e
  rw [accurate_iff hinv, hkeep]

/-- A scan that is stopped and started again before `stopScan` goes on: it stays
live, and the scanner does not know it. -/
theorem restarted_scan_lost : ¬ ∀ es : List Event, Throughout step Accurate {} es := by
  intro h
  have hlast := (h [.startScan, .stopScan, .startScan, .stopScanResumed]).last rfl
  exact absurd (hlast.2.1.mpr (List.cons_ne_nil _ _)) Bool.false_ne_true

end SopepApp.Scan
