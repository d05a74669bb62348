import SopepApp.Ble.OnePacket
import SopepApp.Ui.TrafficTest

/-!
The byte counter of the traffic test against the packets that are written.

* `airBytes`: the bytes of a message in packets, a header with each;
* `airBytes_eq_mtu_iff`: they are the MTU exactly if the message fills one
  packet;
* `airEchoes`: the bytes of the echoes of a step, at the MTU of that moment;
* `tx_bytes_exact_iff`: the counter of a test with one MTU is the number of bytes
  written since its Start exactly at the MTU of 247, for which the length of the
  echo is chosen.
-/

namespace SopepApp.TrafficTab

open Dart Transition Connect Packets

variable {pkg : Packages} {float : UInt64 → List UInt8} {s : Tab}

/-- The bytes of a message on the air: its packets, each with its header. -/
def airBytes (pkg : Packages) (mtu : ℤ) (m : DataMap) : ℤ :=
  ((packetsOf pkg mtu m).map fun packet => (packet.length : ℤ) + bleAttHeaderBytes).sum

/-- **One packet of the size of the MTU**: the bytes on the air are the MTU exactly
if the message fills one packet. -/
lemma airBytes_eq_mtu_iff {m : DataMap} {encoded : List UInt8}
    (henc : encoder pkg m = .ok encoded) (hne : encoded ≠ []) {mtu : ℤ}
    (hmtu : bleAttHeaderBytes < mtu) :
    airBytes pkg mtu m = mtu ↔ mtu = encoded.length + bleAttHeaderBytes := by
  obtain ⟨packets, last, hrun, hcut⟩ := writePackets_run henc hne hmtu
  have hpackets : packetsOf pkg mtu m = packets ++ [last] :=
    Effect.finalState_of_ok (Effect.run_catchException_of_ok hrun)
  have hsum : ∀ ps : List (List UInt8),
      (ps.map fun packet => (packet.length : ℤ) + bleAttHeaderBytes).sum =
        ps.flatten.length + bleAttHeaderBytes * ps.length := by
    intro ps
    induction ps with
    | nil => simp
    | cons p ps ih =>
        rw [List.map_cons, List.sum_cons, ih, List.flatten_cons, List.length_append,
          List.length_cons]
        push_cast
        ring
  have hair : airBytes pkg mtu m =
      encoded.length + bleAttHeaderBytes * (packets.length + 1) := by
    calc airBytes pkg mtu m
        = (packets ++ [last]).flatten.length + bleAttHeaderBytes * (packets ++ [last]).length := by
          rw [airBytes, hpackets, hsum]
      _ = encoded.length + bleAttHeaderBytes * (packets.length + 1) := by
          rw [hcut.flatten, List.length_append, List.length_singleton]
          push_cast
          ring
  have hlast := List.length_pos_of_ne_nil hcut.last_ne_nil
  have hle := hcut.last_le
  have hflatten := congrArg List.length hcut.flatten
  rw [List.flatten_append, List.flatten_singleton, List.length_append] at hflatten
  rw [hair]
  rw [bleAttHeaderBytes] at hmtu hle hcut ⊢
  cases packets with
  | nil =>
      rw [List.length_nil]
      push_cast
      constructor <;> intro h <;> omega
  | cons p packets =>
      have hp := hcut.length_eq p List.mem_cons_self
      rw [List.flatten_cons, List.length_append] at hflatten
      rw [List.length_cons]
      push_cast
      constructor <;> intro h <;> omega

/-- Every command of the tab is an echo of 215 bytes. -/
lemma echoes_eq (s : Tab) (e : Event) :
    ∃ targets : List String, echoes s e = targets.map fun target => (target, echoCommand 215) := by
  have hreaction := step_reaction s e
  have hnone : (step s e).writes = s.writes →
      ∃ targets : List String, echoes s e = targets.map fun target => (target, echoCommand 215) :=
    fun h => ⟨[], echoes_of_eq (h.trans (List.append_nil _).symm)⟩
  have hone : ∀ target, (step s e).writes = s.writes ++ [(target, echoCommand 215)] →
      ∃ targets : List String, echoes s e = targets.map fun target => (target, echoCommand 215) :=
    fun target h => ⟨[target], echoes_of_eq h⟩
  generalize step s e = s' at hreaction hnone hone
  cases hreaction with
  | @start h hflag target hc => exact hone target rfl
  | @tick n hn hflag target hc => exact hone target rfl
  | @answer h hflag target hc m dataMapBytes => exact hone target rfl
  | _ => exact hnone rfl

/-- The bytes that the echoes of a step put on the air, cut at the MTU of the
moment. -/
def airEchoes (pkg : Packages) (w : Rig) : RigEvent → List ℤ
  | .tab e => (echoes w.tab e).map fun write => airBytes pkg w.mtu write.2
  | .mtu _ => []

/-- The bytes written in a run that keeps its MTU: each command by those of the
echo. -/
lemma sum_airEchoes {mtu : ℤ} {es : List RigEvent} : ∀ {w : Rig}, w.mtu = mtu →
    (∀ mtu', .mtu mtu' ∈ es → mtu' = mtu) →
    (outputs rigStep (airEchoes pkg) w es).sum =
      airBytes pkg mtu (echoCommand 215) *
        (outputs step echoes w.tab (tabEvents es)).length := by
  induction es with
  | nil => simp [tabEvents]
  | cons e es ih =>
      intro w hmtu hkept
      have hrest : ∀ mtu', .mtu mtu' ∈ es → mtu' = mtu := fun mtu' hmem =>
        hkept mtu' (List.mem_cons_of_mem e hmem)
      cases e with
      | mtu mtu' =>
          have hsame : mtu' = mtu := hkept mtu' List.mem_cons_self
          exact ih (w := { w with mtu := mtu' }) hsame hrest
      | tab e =>
          have hlater := ih (w := { w with tab := step w.tab e }) hmtu hrest
          obtain ⟨targets, htargets⟩ := echoes_eq w.tab e
          have hfirst : (airEchoes pkg w (.tab e)).sum =
              airBytes pkg mtu (echoCommand 215) * (echoes w.tab e).length := by
            rw [airEchoes, htargets, List.map_map, List.length_map, hmtu]
            change (targets.map fun _ => airBytes pkg mtu (echoCommand 215)).sum = _
            rw [List.map_const', List.sum_replicate, nsmul_eq_mul, mul_comm]
          have hevents : tabEvents (.tab e :: es) = e :: tabEvents es := rfl
          calc (outputs rigStep (airEchoes pkg) w (.tab e :: es)).sum
              = airBytes pkg mtu (echoCommand 215) * (echoes w.tab e).length +
                  airBytes pkg mtu (echoCommand 215) *
                    (outputs step echoes (step w.tab e) (tabEvents es)).length := by
                rw [outputs, List.sum_append, hfirst, rigStep, hlater]
            _ = airBytes pkg mtu (echoCommand 215) *
                  (outputs step echoes w.tab (tabEvents (.tab e :: es))).length := by
                rw [hevents, outputs, List.length_append]
                push_cast
                ring

/-- The echo of 215 bytes is 244 bytes long. -/
lemma length_echo (hhex : StandardHex pkg) (hcobs : StandardCobs pkg)
    (hcbor : StandardCbor pkg float) :
    ∃ encoded, encoder pkg (echoCommand 215) = .ok encoded ∧ encoded.length = 244 := by
  obtain ⟨data, m, hcall, hdata, hentries⟩ := sendEchoTest_eq 215 ""
  obtain rfl : echoCommand 215 = m := by
    have hpair := Option.some.inj (Except.ok.inj ((sendEchoTest_some 215 "").symm.trans hcall))
    exact (Prod.ext_iff.mp hpair).2
  have hplain : (echoCommand 215).Plain := by
    refine ⟨by rw [hentries]; exact (by decide : 2 < 2 ^ 64), ?_⟩
    rw [hentries]
    simp only [List.forall_mem_cons]
    refine ⟨⟨by decide, by decide⟩, ⟨by decide, ?_⟩, by simp⟩
    change data.length < 2 ^ 64
    omega
  have hlen := length_cbor_echo hcbor hplain hentries
  rw [hdata, Cbor.length_head, if_neg (by decide), if_pos (by decide)] at hlen
  obtain ⟨encoded, henc, hbytes⟩ := length_encoder hhex hcobs (m := echoCommand 215) (by omega)
  exact ⟨encoded, henc, by omega⟩

/-- **The transmitted bytes of a test**: if its first echo is sent, and the MTU is above
the header and stays the one that the tab has read, then the counter is the number of
bytes written since Start, headers included, exactly if the MTU is 247. -/
theorem tx_bytes_exact_iff {w : Rig} (hhex : StandardHex pkg) (hcobs : StandardCobs pkg)
    (hcbor : StandardCbor pkg float) (hen : w.tab.enabled) (hflag : w.tab.startTestFlag = false)
    (hc : w.tab.characteristic.isSome) (hmtu : bleAttHeaderBytes < w.mtu)
    (hsize : w.tab.totalTxPacketSize = w.mtu) (es : List RigEvent)
    (hkept : ∀ mtu, .mtu mtu ∈ es → mtu = w.mtu)
    (htest : Always step Running (step w.tab .press) (tabEvents es)) :
    (run rigStep w (.tab .press :: es)).tab.totalTxBytes =
        (outputs rigStep (airEchoes pkg) w (.tab .press :: es)).sum ↔
      w.mtu = mtuSizeMax := by
  have hevents : tabEvents (.tab .press :: es) = .press :: tabEvents es := rfl
  have hcounter : (run rigStep w (.tab .press :: es)).tab.totalTxBytes =
      w.mtu * (outputs step echoes w.tab (.press :: tabEvents es)).length := by
    rw [tab_run, hevents, txBytes_run hen hflag htest, hsize]
  have hair : (outputs rigStep (airEchoes pkg) w (.tab .press :: es)).sum =
      airBytes pkg w.mtu (echoCommand 215) *
        (outputs step echoes w.tab (tabEvents (.tab .press :: es))).length :=
    sum_airEchoes rfl (by simpa using hkept)
  obtain ⟨encoded, henc, hlen⟩ := length_echo hhex hcobs hcbor
  have hone := airBytes_eq_mtu_iff henc (List.ne_nil_of_length_pos (by omega)) hmtu
  calc (run rigStep w (.tab .press :: es)).tab.totalTxBytes =
          (outputs rigStep (airEchoes pkg) w (.tab .press :: es)).sum
      ↔ airBytes pkg w.mtu (echoCommand 215) = w.mtu := by
        rw [hcounter, hair, hevents,
          mul_left_inj' (length_echoes_ne_zero hen hflag hc (tabEvents es)), eq_comm]
    _ ↔ w.mtu = encoded.length + bleAttHeaderBytes := hone
    _ ↔ w.mtu = mtuSizeMax := by
        rw [hlen, bleAttHeaderBytes, mtuSizeMax]
        norm_num

/-- A test of one response and one tick, at the largest MTU. -/
theorem tx_bytes_exact_sample :
    (run rigStep (openRig 247) (.tab .press :: sampleTest)).tab.totalTxBytes =
        (outputs rigStep (airEchoes cborPackages) (openRig 247) (.tab .press :: sampleTest)).sum ↔
      (openRig 247).mtu = mtuSizeMax :=
  tx_bytes_exact_iff (standardHex_reference _ _) (standardCobs_reference _ _)
    standardCbor_reference (by decide) rfl rfl (by decide) rfl sampleTest
    (by simp [sampleTest]) sampleTest_running

end SopepApp.TrafficTab
