import SopepApp.Ble.Commands
import SopepApp.Ble.Write
import SopepApp.Codec.Cbor

/-!
Commands that fit into one packet.

* `packetsOf_of_le`: a message no longer than a packet is written as one;
* `Value.cborSize`, `length_cbor_le`: a bound on the CBOR of a message;
* `call_length_le`: a command without data takes at most 225 bytes of CBOR;
* `commands_in_flight`: so at an MTU of 235 and above, such commands are all
  received, whichever are in flight at once;
* `echo_full_packet`: the command of an echo test with the data that the
  constants leave room for fills one packet, as long as its length is written
  in two bytes.
-/

namespace SopepApp

open Dart Delimited Packets

variable {pkg : Packages} {float : UInt64 → List UInt8}

/-- `MTU_SIZE_MAX` of `constants.dart`. -/
def mtuSizeMax : ℤ := 247

/-- `BLE_CMD_ECHO_BYTES` of `constants.dart`. -/
def bleCmdEchoBytes : ℤ := 29

/-! ### Messages of one packet -/

/-- **A message no longer than a packet** is written as one. -/
lemma packetsOf_of_le {m : DataMap} {encoded : List UInt8} (henc : encoder pkg m = .ok encoded)
    (hne : encoded ≠ []) {mtu : ℤ} (hmtu : bleAttHeaderBytes < mtu)
    (hle : (encoded.length : ℤ) ≤ mtu - bleAttHeaderBytes) : packetsOf pkg mtu m = [encoded] := by
  obtain ⟨packets, last, hrun, hcut⟩ := writePackets_run henc hne hmtu
  have hpackets : packetsOf pkg mtu m = packets ++ [last] :=
    Effect.finalState_of_ok (Effect.run_catchException_of_ok hrun)
  have hflatten := hcut.flatten
  cases packets with
  | nil =>
      rw [List.nil_append, List.flatten_singleton] at hflatten
      rw [hpackets, List.nil_append, hflatten]
  | cons p packets =>
      -- a full packet and a last one are more than a packet
      have hp := hcut.length_eq p List.mem_cons_self
      have hlast := List.length_pos_of_ne_nil hcut.last_ne_nil
      have hlen := congrArg List.length hflatten
      rw [List.cons_append, List.flatten_cons, List.flatten_append, List.flatten_singleton,
        List.length_append, List.length_append] at hlen
      omega

/-! ### The length of a message -/

/-- A bound on the bytes of a string with its head. -/
def stringSize (n : ℕ) : ℕ := if n < 24 then n + 1 else n + 9

/-- A bound on the bytes of a scalar. -/
def Value.cborSize : Value → ℕ
  | .null => 1
  | .bool _ => 1
  | .int _ => 9
  | .double _ => 9
  | .string s => stringSize (utf8 s).length
  | .bytes bs => stringSize bs.length
  | .other _ => 0

lemma length_string_le (major : ℕ) (bs : List UInt8) :
    (Cbor.head major bs.length ++ bs).length ≤ stringSize bs.length := by
  rw [List.length_append, Cbor.length_head, stringSize]
  split_ifs <;> omega

lemma length_item_le (hfloat : ∀ bits, (float bits).length ≤ 9) {v : Value} {item : Cbor.Item}
    (h : v.item = some item) : (Cbor.encode float item).length ≤ v.cborSize := by
  cases v with
  | null =>
      obtain rfl := Option.some.inj h
      exact le_rfl
  | bool b =>
      obtain rfl := Option.some.inj h
      cases b <;> exact le_rfl
  | int n =>
      obtain rfl := Option.some.inj h
      split_ifs
      · exact Cbor.length_head_le 0 _
      · exact Cbor.length_head_le 1 _
  | double bits =>
      obtain rfl := Option.some.inj h
      exact hfloat bits
  | string s =>
      obtain rfl := Option.some.inj h
      exact length_string_le 3 (utf8 s)
  | bytes bs =>
      obtain rfl := Option.some.inj h
      exact length_string_le 2 bs
  | other text => exact absurd h (by simp [Value.item])

/-- **A bound on the CBOR of a message** of less than 24 entries. -/
lemma length_cbor_le (hcbor : StandardCbor pkg float) {m : DataMap} (hm : m.Plain)
    (hlen : m.entries.length < 24) : (pkg.cborEncode m).length ≤
      1 + (m.entries.map fun e => e.1.cborSize + e.2.cborSize).sum := by
  have hhead : (Cbor.head 5 m.items.length).length = 1 := by
    rw [Cbor.length_head, hm.items.2.1, if_pos hlen]
  rw [hcbor.encode m hm, Cbor.length_encodeMap, hhead, DataMap.items]
  refine Nat.add_le_add_left ?_ 1
  have hentry := hm.entry
  generalize m.entries = entries at hentry ⊢
  induction entries with
  | nil => exact le_rfl
  | cons e entries ih =>
      have hrest := ih fun e' he' => hentry e' (List.mem_cons_of_mem e he')
      obtain ⟨hkey, hvalue⟩ := hentry e List.mem_cons_self
      obtain ⟨key, hkey, -⟩ := hkey.item
      obtain ⟨value, hvalue, -⟩ := hvalue.item
      have hkeysize := length_item_le hcbor.length_float_le hkey
      have hvaluesize := length_item_le hcbor.length_float_le hvalue
      rw [List.filterMap_cons_some (b := (key, value)) (by rw [hkey, hvalue]; rfl), List.map_cons,
        List.map_cons, List.sum_cons, List.sum_cons]
      exact Nat.add_le_add (Nat.add_le_add hkeysize hvaluesize) hrest

/-! ### Commands without data -/

namespace Commands

/-- The command carries no data of the user's length. -/
def Command.NoData : Command → Prop
  | .sendEchoTest _ => False
  | .sendFwData _ => False
  | _ => True

/-- The size of the arguments of a command. -/
def argsSize (args : List (String × Value)) : ℕ :=
  (args.map fun a => (Value.string a.1).cborSize + a.2.cborSize).sum

lemma size_cborCmd (name : String) (args : List (String × Value))
    (h : ("cmd" :: args.map Prod.fst).Nodup) :
    ((cborCmd name args h).entries.map fun e => e.1.cborSize + e.2.cborSize).sum =
      4 + (Value.string name).cborSize + argsSize args := by
  have hcmd : (Value.string "cmd").cborSize = 4 := by decide
  rw [cborCmd, List.map_cons, List.sum_cons, hcmd, List.map_map, argsSize]
  rfl

/-- The entries of `eraseFlash` are no larger than all its areas with a
format. -/
lemma argsSize_assigned_le {entries : List (String × Option Value)}
    (h : ∀ e ∈ entries, ∀ v ∈ e.2, v.cborSize ≤ 7) :
    argsSize (assigned entries) ≤ (entries.map fun e => (Value.string e.1).cborSize + 7).sum := by
  induction entries with
  | nil => exact le_rfl
  | cons e entries ih =>
      have hrest := ih fun e' he' => h e' (List.mem_cons_of_mem e he')
      rw [List.map_cons, List.sum_cons]
      cases he : e.2 with
      | none =>
          rw [assigned, List.filterMap_cons_none (by rw [he]; rfl)]
          exact hrest.trans (Nat.le_add_left _ _)
      | some v =>
          have hv := h e List.mem_cons_self v he
          rw [assigned, List.filterMap_cons_some (by rw [he]; rfl), argsSize, List.map_cons,
            List.sum_cons]
          exact Nat.add_le_add (Nat.add_le_add_left hv _) hrest

lemma eraseValue_size {selected : Bool} {format : Option Bool} {value : Option Value}
    (h : eraseValue selected format = .ok value) : ∀ v ∈ value, v.cborSize ≤ 7 := by
  rintro v hv
  obtain rfl := Option.mem_def.mp hv
  cases selected with
  | false => exact absurd h (by simp [eraseValue, pure, Except.pure])
  | true =>
      cases format with
      | none => exact absurd h (by simp [eraseValue, bind, Except.bind])
      | some b =>
          simp only [eraseValue, if_true, nonNull_some, bind, Except.bind, pure, Except.pure,
            Except.ok.injEq, Option.some.injEq] at h
          rw [← h]
          cases b <;> decide

/-- The message is small: few entries, and short ones. -/
def Small (m : DataMap) : Prop :=
  m.entries.length < 24 ∧ (m.entries.map fun e => e.1.cborSize + e.2.cborSize).sum ≤ 224

lemma small_cborCmd {name : String} {args : List (String × Value)}
    (h : ("cmd" :: args.map Prod.fst).Nodup) (hlen : args.length < 23)
    (hsize : (Value.string name).cborSize + argsSize args ≤ 220) : Small (cborCmd name args h) := by
  refine ⟨?_, ?_⟩
  · rw [cborCmd, List.length_cons, List.length_map]
    omega
  · rw [size_cborCmd]
    omega

/-- What a command without data writes is a command map of that size. -/
lemma writeCborCmd_small {data m : DataMap} {target t : String}
    (h : writeCborCmd data (some target) = .ok (some (t, m))) (hdata : Small data) : Small m := by
  obtain ⟨-, rfl⟩ := Prod.ext_iff.mp (Option.some.inj (Except.ok.inj h))
  exact hdata

/-- The last statement of `eraseFlash`. -/
lemma erase_small {data prioData diagData config pairing : Option Value} {target t : String}
    {m : DataMap}
    (hnodup : ("cmd" :: (assigned [("data", data), ("prio-data", prioData), ("diag-data", diagData),
      ("configuration", config), ("pairing", pairing)]).map Prod.fst).Nodup)
    (hsize : ∀ value ∈ [data, prioData, diagData, config, pairing], ∀ v ∈ value, v.cborSize ≤ 7)
    (h : writeCborCmd (cborCmd "erase" (assigned [("data", data), ("prio-data", prioData),
      ("diag-data", diagData), ("configuration", config), ("pairing", pairing)]) hnodup)
      (some target) = .ok (some (t, m))) : Small m := by
  refine writeCborCmd_small h (small_cborCmd hnodup ?_ ?_)
  · exact lt_of_le_of_lt (List.length_filterMap_le _ _) (by decide : 5 < 23)
  · have hsizes : ∀ e ∈ [("data", data), ("prio-data", prioData), ("diag-data", diagData),
        ("configuration", config), ("pairing", pairing)], ∀ v ∈ e.2, v.cborSize ≤ 7 := by
      simpa using hsize
    have hle := argsSize_assigned_le hsizes
    have hname : (Value.string "erase").cborSize = 6 := by decide
    have htotal : (List.map (fun e : String × Option Value => (Value.string e.1).cborSize + 7)
        [("data", data), ("prio-data", prioData), ("diag-data", diagData),
          ("configuration", config), ("pairing", pairing)]).sum = 82 := rfl
    omega

lemma eraseFlash_small {s : Selection} {target t : String} {m : DataMap}
    (h : eraseFlash s (some target) = .ok (some (t, m))) : Small m := by
  rw [eraseFlash] at h
  obtain ⟨data, hdata, h⟩ := bind_eq_ok.mp h
  obtain ⟨prioData, hprio, h⟩ := bind_eq_ok.mp h
  obtain ⟨diagData, hdiag, h⟩ := bind_eq_ok.mp h
  have hbool : ∀ b : Bool, ∀ v ∈ (if b then some (Value.bool true) else none), v.cborSize ≤ 7 := by
    intro b v hv
    cases b with
    | false => exact absurd hv (by simp)
    | true =>
        obtain rfl := Option.some.inj (Option.mem_def.mp hv)
        decide
  have hsize : ∀ value ∈ [data, prioData, diagData,
      if s.config then some (.bool true) else none, if s.pairing then some (.bool true) else none],
      ∀ v ∈ value, v.cborSize ≤ 7 := by
    simp only [List.forall_mem_cons]
    exact ⟨eraseValue_size hdata, eraseValue_size hprio, eraseValue_size hdiag, hbool s.config,
      hbool s.pairing, by simp⟩
  dsimp only at h
  by_cases hne : assigned [("data", data), ("prio-data", prioData), ("diag-data", diagData),
      ("configuration", if s.config then some (.bool true) else none),
      ("pairing", if s.pairing then some (.bool true) else none)] = []
  · rw [if_neg (not_not.mpr hne)] at h
    exact absurd h (by simp [pure, Except.pure])
  · rw [if_pos hne] at h
    exact erase_small _ hsize h

/-- **A command without data is small.** -/
lemma call_small {now : ℤ} {c : Command} (hc : c.NoData) {target t : String} {m : DataMap}
    (h : c.call now (some target) = .ok (some (t, m))) : Small m := by
  cases c with
  | eraseFlash selection => exact eraseFlash_small h
  | sendEchoTest bytes => exact hc.elim
  | sendFwData data => exact hc.elim
  | getData seq =>
      cases seq with
      | none => exact writeCborCmd_small h (small_cborCmd _ (by decide) (by decide))
      | some n =>
          exact writeCborCmd_small h (small_cborCmd _ (by decide : 1 < 23) (by decide : 10 + 13 ≤ 220))
  | getPriorityData seq =>
      exact writeCborCmd_small h (small_cborCmd _ (by decide : 1 < 23) (by decide : 15 + 13 ≤ 220))
  | setConfigure c =>
      exact writeCborCmd_small h (small_cborCmd _ (by decide : 8 < 23) (by decide : 10 + 210 ≤ 220))
  | setTime epochTimeSeconds =>
      exact writeCborCmd_small h (small_cborCmd _ (by decide : 1 < 23) (by decide : 9 + 19 ≤ 220))
  | scheduleFwUpdate time =>
      exact writeCborCmd_small h (small_cborCmd _ (by decide : 1 < 23) (by decide : 12 + 19 ≤ 220))
  | _ => exact writeCborCmd_small h (small_cborCmd _ (by decide) (by decide))

end Commands

/-! ### Commands in flight at once -/

/-- A small message is one packet of 235 bytes less the header. -/
lemma packetsOf_small (hhex : StandardHex pkg) (hcobs : StandardCobs pkg)
    (hcbor : StandardCbor pkg float) {m : DataMap} (hm : m.Plain) (hsmall : Commands.Small m)
    {mtu : ℤ} (hmtu : 235 ≤ mtu) : packetsOf pkg mtu m = [frame 0 (body pkg m)] := by
  have hlen := length_cbor_le hcbor hm hsmall.1
  have hsize := hsmall.2
  obtain ⟨encoded, henc, hbytes⟩ := length_encoder hhex hcobs (m := m) (by omega)
  have hframe := encoder_eq hhex hcobs.inverse m
  rw [henc, Except.ok.injEq] at hframe
  rw [← hframe]
  refine packetsOf_of_le henc ?_ ?_ ?_
  · exact List.ne_nil_of_length_pos (by omega)
  · rw [bleAttHeaderBytes]
    omega
  · rw [bleAttHeaderBytes]
    omega

/-- **Commands without data never mix**: at an MTU of 235 and above, commands of
any kind but echo tests and firmware blocks may be called while others are in
flight; whatever the order in which their packets are written, the device
receives the map of each command exactly once, in that order. -/
theorem commands_in_flight (hhex : StandardHex pkg) (hcobs : StandardCobs pkg)
    (hcbor : StandardCbor pkg float) {mtu : ℤ} (hmtu : 235 ≤ mtu)
    {sent : List (Commands.Command × DataMap)}
    (hsent : ∀ e ∈ sent, e.1.NoData ∧ e.2.Plain ∧
      ∃ now target, e.1.call now (some target) = .ok (some (target, e.2)))
    {w : List (ℕ × List UInt8)}
    (hw : Interleaving (sent.map fun e => packetsOf pkg mtu e.2) w) :
    delivered (feed pkg [] (w.map Prod.snd)).1 =
        (w.map Prod.fst).filterMap (fun i => (sent.map Prod.snd)[i]?) ∧
      (delivered (feed pkg [] (w.map Prod.snd)).1).Perm (sent.map Prod.snd) := by
  have hone : ∀ e ∈ sent, packetsOf pkg mtu e.2 = [frame 0 (body pkg e.2)] := by
    intro e he
    obtain ⟨hdata, hplain, now, target, hcall⟩ := hsent e he
    exact packetsOf_small hhex hcobs hcbor hplain (Commands.call_small hdata hcall) hmtu
  have hperm := hw.perm_range (by
    intro c hc
    obtain ⟨e, he, rfl⟩ := List.mem_map.mp hc
    rw [hone e he]
    rfl)
  -- every item of `w` is the packets of its call
  have hitems : ∀ u : List (ℕ × List UInt8), (∀ x ∈ u, x ∈ w) → u.map Prod.snd =
      ((u.map Prod.fst).filterMap fun i => (sent.map Prod.snd)[i]?).flatMap (packetsOf pkg mtu) := by
    intro u hu
    induction u with
    | nil => rfl
    | cons x u ih =>
        have hx := hu x List.mem_cons_self
        have hlt := hw.index_lt x hx
        rw [List.length_map] at hlt
        have hitem : x.2 ∈ packetsOf pkg mtu sent[x.1].2 := by
          have hcall := hw.items x.1 (by rwa [List.length_map])
          rw [List.getElem_map] at hcall
          rw [← hcall]
          exact List.mem_map_of_mem (List.mem_filter.mpr ⟨hx, decide_eq_true rfl⟩)
        rw [hone _ (List.getElem_mem hlt), List.mem_singleton] at hitem
        rw [List.map_cons, List.map_cons, ih fun y hy => hu y (List.mem_cons_of_mem x hy),
          List.filterMap_cons_some (b := sent[x.1].2) (by simp [hlt]), List.flatMap_cons,
          hone _ (List.getElem_mem hlt), hitem]
        rfl
  have hinverse : ∀ m ∈ (w.map Prod.fst).filterMap (fun i => (sent.map Prod.snd)[i]?),
      CborInverse pkg m := by
    intro m hm
    obtain ⟨i, -, hi⟩ := List.mem_filterMap.mp hm
    obtain ⟨e, he, rfl⟩ := List.mem_map.mp (List.mem_of_getElem? hi)
    exact hcbor.inverse e.2 (hsent e he).2.1
  have hdelivered : delivered (feed pkg [] (w.map Prod.snd)).1 =
      (w.map Prod.fst).filterMap fun i => (sent.map Prod.snd)[i]? := by
    rw [hitems w fun x hx => hx]
    exact (feed_order hhex hcobs.inverse (by rw [bleAttHeaderBytes]; omega) hinverse).1
  refine ⟨hdelivered, ?_⟩
  rw [hdelivered]
  have horder := hperm.filterMap fun i => (sent.map Prod.snd)[i]?
  rw [List.length_map] at horder
  refine horder.trans (List.Perm.of_eq ?_)
  have hrange := filterMap_range (sent.map Prod.snd)
  rwa [List.length_map] at hrange

/-- Two commands, the second of which writes first. -/
def swapped : List (ℕ × List UInt8) :=
  (packetsOf cborPackages 247 readPrioDataCommand).map (Prod.mk 1) ++
    (packetsOf cborPackages 247 deviceInfoCommand).map (Prod.mk 0)

lemma plain_commands : ∀ m ∈ [deviceInfoCommand, readPrioDataCommand], m.Plain := by
  have hentries : ∀ m ∈ [deviceInfoCommand, readPrioDataCommand],
      m.entries.length < 2 ^ 64 ∧ ∀ e ∈ m.entries, e.1.Plain ∧ e.2.Plain := by decide +kernel
  exact fun m hm => ⟨(hentries m hm).1, (hentries m hm).2⟩

theorem commands_in_flight_sample :
    delivered (feed cborPackages [] (swapped.map Prod.snd)).1 =
        (swapped.map Prod.fst).filterMap
          (fun i => ([(Commands.Command.getDeviceInfo, deviceInfoCommand),
            (.getOldestPriorityData, readPrioDataCommand)].map Prod.snd)[i]?) ∧
      (delivered (feed cborPackages [] (swapped.map Prod.snd)).1).Perm
        ([(Commands.Command.getDeviceInfo, deviceInfoCommand),
          (.getOldestPriorityData, readPrioDataCommand)].map Prod.snd) := by
  have hmtu : (235 : ℤ) ≤ 247 := by decide
  refine commands_in_flight (standardHex_reference _ _) (standardCobs_reference _ _)
    standardCbor_reference hmtu ?_ ?_
  · simp only [List.forall_mem_cons]
    exact ⟨⟨trivial, plain_commands _ (by simp), 0, "A", rfl⟩,
      ⟨trivial, plain_commands _ (by simp), 0, "A", rfl⟩, by simp⟩
  · exact interleaving_iff.mpr (by decide +kernel)

/-! ### The echo test -/

/-- The command of an echo test with `n` bytes of data. -/
lemma sendEchoTest_eq (n : ℕ) (target : String) : ∃ (data : List UInt8) (m : DataMap),
    Commands.sendEchoTest n (some target) = .ok (some (target, m)) ∧ data.length = n ∧
      m.entries = [(.string "cmd", .string "echo-test"), (.string "data", .bytes data)] := by
  have hfill : ∀ k : ℕ, (Commands.fillEcho^[k] ([], 0)).1.length = k := by
    intro k
    induction k with
    | zero => rfl
    | succ k ih =>
        rw [Function.iterate_succ_apply', Commands.fillEcho, List.length_append, ih]
        rfl
  exact ⟨_, _, rfl, hfill _, rfl⟩

/-- **The length of an echo command**: the four words and the heads, and the
data. -/
lemma length_cbor_echo (hcbor : StandardCbor pkg float) {data : List UInt8} {m : DataMap}
    (hm : m.Plain)
    (hentries : m.entries = [(.string "cmd", .string "echo-test"), (.string "data", .bytes data)]) :
    (pkg.cborEncode m).length = 20 + (Cbor.head 2 data.length).length + data.length := by
  have hitems : m.items = [(.text (utf8 "cmd"), .text (utf8 "echo-test")),
      (.text (utf8 "data"), .bytes data)] := by
    rw [DataMap.items, hentries]
    rfl
  have hcmd : (Cbor.encode float (.text (utf8 "cmd"))).length = 4 := by
    simp only [Cbor.encode]
    decide
  have hecho : (Cbor.encode float (.text (utf8 "echo-test"))).length = 10 := by
    simp only [Cbor.encode]
    decide
  have hdata : (Cbor.encode float (.text (utf8 "data"))).length = 5 := by
    simp only [Cbor.encode]
    decide
  have hbytes : (Cbor.encode float (.bytes data)).length =
      (Cbor.head 2 data.length).length + data.length := by
    rw [Cbor.encode, List.length_append]
  have hmap : (Cbor.head 5 2).length = 1 := by decide
  rw [hcbor.encode m hm, Cbor.length_encodeMap, hitems]
  simp only [List.map_cons, List.map_nil, List.sum_cons, List.sum_nil, List.length_cons,
    List.length_nil, hcmd, hecho, hdata, hbytes]
  rw [hmap]
  omega

/-- **The room of an echo test**: with as many bytes of data as the constants
leave at an MTU, the command is one packet, which the device reads as that
command; the packet is full exactly if the MTU is at least 56, so that the
length of the data takes two bytes, as the constant has it. -/
theorem echo_full_packet (hhex : StandardHex pkg) (hcobs : StandardCobs pkg)
    (hcbor : StandardCbor pkg float) {mtu : ℤ}
    (hlow : bleCmdEchoBytes + bleAttHeaderBytes ≤ mtu) (hhigh : mtu ≤ mtuSizeMax)
    (target : String) :
    ∃ m packet, Commands.sendEchoTest (mtu - bleCmdEchoBytes - bleAttHeaderBytes) (some target) =
        .ok (some (target, m)) ∧
      packetsOf pkg mtu m = [packet] ∧ feed pkg [] [packet] = ([.ok (some m)], []) ∧
      ((packet.length : ℤ) = mtu - bleAttHeaderBytes ↔ 56 ≤ mtu) := by
  rw [bleCmdEchoBytes, bleAttHeaderBytes] at hlow
  rw [mtuSizeMax] at hhigh
  obtain ⟨n, hn⟩ : ∃ n : ℕ, mtu - bleCmdEchoBytes - bleAttHeaderBytes = n :=
    ⟨_, (Int.toNat_of_nonneg (by rw [bleCmdEchoBytes, bleAttHeaderBytes]; omega)).symm⟩
  have hnmtu : mtu = n + 32 := by
    rw [bleCmdEchoBytes, bleAttHeaderBytes] at hn
    omega
  obtain ⟨data, m, hcall, hdata, hentries⟩ := sendEchoTest_eq n target
  have hplain : m.Plain := by
    refine ⟨by rw [hentries]; exact (by decide : 2 < 2 ^ 64), ?_⟩
    rw [hentries]
    simp only [List.forall_mem_cons]
    refine ⟨⟨by decide, by decide⟩, ⟨by decide, ?_⟩, by simp⟩
    change data.length < 2 ^ 64
    omega
  have hlen := length_cbor_echo hcbor hplain hentries
  rw [hdata, Cbor.length_head] at hlen
  have hsmall : (pkg.cborEncode m).length ≤ 250 := by
    split_ifs at hlen <;> omega
  obtain ⟨encoded, henc, hbytes⟩ := length_encoder hhex hcobs hsmall
  have hframe := encoder_eq hhex hcobs.inverse m
  rw [henc, Except.ok.injEq] at hframe
  have hone : packetsOf pkg mtu m = [encoded] := by
    refine packetsOf_of_le henc (List.ne_nil_of_length_pos (by omega)) ?_ ?_
    · rw [bleAttHeaderBytes]
      omega
    · rw [bleAttHeaderBytes]
      split_ifs at hlen <;> omega
  refine ⟨m, encoded, by rw [hn]; exact hcall, hone, ?_, ?_⟩
  · have hcut : Cut (frame 0 (body pkg m)) encoded.length [] encoded := by
      refine ⟨?_, by simp, List.ne_nil_of_length_pos (by omega), le_rfl⟩
      rw [List.nil_append, List.flatten_singleton, hframe]
    exact feed_packets hhex hcobs.inverse (hcbor.inverse m hplain) hcut
  · rw [bleAttHeaderBytes]
    split_ifs at hlen <;> omega

/-- The largest MTU the app asks for, and its 215 bytes of data. -/
theorem echo_full_packet_sample :
    ∃ m packet, Commands.sendEchoTest (mtuSizeMax - bleCmdEchoBytes - bleAttHeaderBytes)
        (some "A") = .ok (some ("A", m)) ∧
      packetsOf cborPackages mtuSizeMax m = [packet] ∧
      feed cborPackages [] [packet] = ([.ok (some m)], []) ∧
      ((packet.length : ℤ) = mtuSizeMax - bleAttHeaderBytes ↔ 56 ≤ mtuSizeMax) :=
  echo_full_packet (standardHex_reference _ _) (standardCobs_reference _ _)
    standardCbor_reference (by decide) le_rfl "A"

end SopepApp
