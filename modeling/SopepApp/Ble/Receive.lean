import SopepApp.Codec.Stream
import SopepApp.Ble.Subscription

/-!
The receive path of `BleSopepInteractor`, of
`lib/src/ble/ble_sopep_interactor.dart`: the notification callback between the
codec and the stream of responses.

* `notification`: the callback on one chunk; a throw of the codec leaves the
  chunk uncounted, one of an empty map leaves it counted;
* `enableNotification`, `disableNotification`: neither touches the stack, the
  map or the count;
* `Pending`, `accept`, `delivers`: the receive path as bytes pending and
  messages delivered; `pending_notification`: the callback refines it;
* `eq_clean_iff`: the pending bytes that no chunks tell from none are none;
* `isolated_iff`: a connection delivers what it would deliver as the first one
  exactly when the one before it left no byte on the stack and none counted.
-/

namespace SopepApp.Receive

open Dart Delimited Transition Connect

/-! ### The notification callback -/

/-- `BleSopepResponseData`. -/
structure ResponseData where
  rspTextTimestamp : String := ""
  rspText : String := ""
  eventNewDataTextTimestamp : String := ""
  eventNewDataText : String := ""
  eventDevStatusTextTimestamp : String := ""
  eventDevStatusText : String := ""
  dataMap : Option DataMap := none
  dataMapBytes : ℕ := 0

/-- The map of a response and its count of bytes. -/
def ResponseData.delivery (r : ResponseData) : Option DataMap × ℕ := (r.dataMap, r.dataMapBytes)

/-- The fields of the receive path: the notification part of the interactor,
the stack `_dataRaw` of its codec, and the responses added to its stream. -/
structure Receiver where
  sopepId : String := ""
  link : Link := ⟨none, none, 0, []⟩
  dataRaw : List UInt8 := []
  dataMap : Option DataMap := none
  dataMapBytes : ℕ := 0
  sopepResponse : ResponseData := {}
  responses : List ResponseData := []

variable (p : Platform) (pkg : Packages)

/-- The loop `forEach((key, value) { text += '$key: $value\n'; })`. -/
def panelText (m : DataMap) : String :=
  m.entries.foldl (fun text e => text ++ (e.1.toText p ++ ": " ++ e.2.toText p ++ "\n")) ""

/-- `dataMap.keys.first`. -/
def firstKey (m : DataMap) : Except Error Value :=
  match m.entries with
  | [] => .error .stateError
  | e :: _ => .ok e.1

/-- The text panels of the response for a decoded map, at the time `now`. -/
def showPanels (now : ℤ) (m : DataMap) (r : ResponseData) : Except Error ResponseData := do
  if (← firstKey m) = .string "rsp" then
    return { r with rspTextTimestamp := p.formatDate "kk:mm:ss" now, rspText := panelText p m }
  else if (← firstKey m) = .string "event" then
    if m.get "event" = .string "new-data" then
      return { r with
        eventNewDataTextTimestamp := p.formatDate "kk:mm:ss" now
        eventNewDataText := panelText p m }
    else if m.get "event" = .string "device-status" then
      return { r with
        eventDevStatusTextTimestamp := p.formatDate "kk:mm:ss" now
        eventDevStatusText := panelText p m }
    else return r
  else return r

/-- The callback on the notification `data`. -/
def notification (now : ℤ) (data : List UInt8) : Effect Receiver Unit := do
  let dataMap ← Effect.onField Receiver.dataRaw (fun raw s => { s with dataRaw := raw })
    (decoder pkg data)
  modify fun s => { s with dataMap := dataMap, dataMapBytes := s.dataMapBytes + data.length }
  match dataMap with
  | none => pure ()
  | some m => do
    let r ← Effect.lift (showPanels p now m (← get).sopepResponse)
    modify fun s => { s with
      sopepResponse := { r with dataMap := some m, dataMapBytes := s.dataMapBytes } }
    modify fun s => { s with responses := s.responses ++ [s.sopepResponse] }
    modify fun s => { s with dataMap := none, dataMapBytes := 0 }

/-! ### The interactor over its connections -/

/-- `enableNotification`. -/
def enableNotification (deviceId sopepId : String) (s : Receiver) : Receiver :=
  { s with sopepId := sopepId, link := s.link.on deviceId }

/-- `disableNotification`. -/
def disableNotification (s : Receiver) : Receiver :=
  { s with sopepId := "", link := s.link.off }

/-- What happens to the receive path. -/
inductive Event where
  /-- the device notifies `data`, at the time `now` -/
  | data (now : ℤ) (data : List UInt8)
  | enableNotification (deviceId sopepId : String)
  | disableNotification

/-- An event; a notification reaches the callback of every live
subscription. -/
def step (s : Receiver) : Event → Receiver
  | .data now data =>
    s.link.liveNotifications.foldl (fun s _ => (notification p pkg now data).finalState s) s
  | .enableNotification deviceId sopepId => enableNotification deviceId sopepId s
  | .disableNotification => disableNotification s

/-- The responses added to the stream in a step. -/
def added (s : Receiver) (e : Event) : List ResponseData :=
  (step p pkg s e).responses.drop s.responses.length

/-- A chunk with the time at which it arrives. -/
abbrev Chunk := ℤ × List UInt8

/-- The chunk as an event. -/
def Chunk.event (c : Chunk) : Event := .data c.1 c.2

/-- The arguments of a call of `enableNotification`. -/
structure Target where
  deviceId : String
  sopepId : String

/-- The call. -/
def Target.event (t : Target) : Event := .enableNotification t.deviceId t.sopepId

/-- The receive path when the connection to `t` that received the chunks `h` is
about to be closed. -/
def atDisconnect (t : Target) (h : List Chunk) : Receiver :=
  run (step p pkg) {} (t.event :: h.map Chunk.event)

/-- The responses delivered while the chunks `c` are processed on a connection to
`t'`, after a connection to `t` that received the chunks `h`: the map of each
and its count of bytes. -/
def deliveredAfter (t t' : Target) (h c : List Chunk) : List (Option DataMap × ℕ) :=
  (outputs (step p pkg) (added p pkg)
    (run (step p pkg) (atDisconnect p pkg t h) [.disableNotification, t'.event])
    (c.map Chunk.event)).map ResponseData.delivery

/-! ### Pending bytes and deliveries -/

/-- What the receive path keeps between two chunks: the bytes of the stack, and
the number of bytes counted for the next response. -/
structure Pending where
  raw : List UInt8
  counted : ℕ

/-- Nothing on the stack, and nothing counted. -/
def Pending.clean : Pending := ⟨[], 0⟩

/-- The pending bytes after a chunk. -/
def accept (q : Pending) (data : List UInt8) : Pending :=
  match (decoder pkg data).run q.raw with
  | .error _ raw => ⟨raw, q.counted⟩
  | .ok none raw => ⟨raw, q.counted + data.length⟩
  | .ok (some m) raw => if m.entries = [] then ⟨raw, q.counted + data.length⟩ else ⟨raw, 0⟩

/-- The message delivered at a chunk, if there is one, and its count of
bytes. -/
def delivers (q : Pending) (data : List UInt8) : List (Option DataMap × ℕ) :=
  match (decoder pkg data).run q.raw with
  | .ok (some m) _ => if m.entries = [] then [] else [(some m, q.counted + data.length)]
  | _ => []

/-- The bytes pending in the receive path. -/
def Receiver.pending (s : Receiver) : Pending := ⟨s.dataRaw, s.dataMapBytes⟩

/-! ### The callback refines the pending bytes -/

variable {p pkg}

/-- The panels throw on an empty map and on no other. -/
lemma showPanels_eq (now : ℤ) (m : DataMap) (r : ResponseData) :
    if m.entries = [] then showPanels p now m r = .error .stateError
    else ∃ r', showPanels p now m r = .ok r' := by
  cases hm : m.entries with
  | nil =>
      have hfirst : firstKey m = .error .stateError := by rw [firstKey, hm]
      rw [if_pos rfl, showPanels, hfirst]
      rfl
  | cons e es =>
      have hfirst : firstKey m = .ok e.1 := by rw [firstKey, hm]
      rw [if_neg (List.cons_ne_nil _ _), showPanels, hfirst]
      simp only [bind, Except.bind, pure, Except.pure]
      split_ifs <;> exact ⟨_, rfl⟩

/-- **The callback refines `accept`**: it leaves the pending bytes that `accept`
leaves, adds the responses that `delivers` names, and keeps the
subscription. -/
theorem pending_notification (s : Receiver) (now : ℤ) (data : List UInt8) :
    let s' := (notification p pkg now data).finalState s
    s'.pending = accept pkg s.pending data ∧ s'.link = s.link ∧
      ∃ rs, s'.responses = s.responses ++ rs ∧
        rs.map ResponseData.delivery = delivers pkg s.pending data := by
  intro s'
  rw [accept, delivers, show s.pending.raw = s.dataRaw from rfl]
  cases hdec : (decoder pkg data).run s.dataRaw with
  | error e raw =>
      have hs' : s' = { s with dataRaw := raw } :=
        Effect.finalState_bind_of_error (Effect.run_onField_of_error hdec)
      rw [hs']
      exact ⟨rfl, rfl, [], (List.append_nil _).symm, rfl⟩
  | ok r raw =>
      have hs' : s' = _ := Effect.finalState_bind_of_ok (Effect.run_onField_of_ok hdec)
      rw [Effect.finalState_modify_bind] at hs'
      cases r with
      | none =>
          rw [hs']
          exact ⟨rfl, rfl, [], (List.append_nil _).symm, rfl⟩
      | some m =>
          have hpanels := showPanels_eq (p := p) now m s.sopepResponse
          dsimp only at hs' ⊢
          rw [Effect.finalState_get_bind] at hs'
          split_ifs at hpanels ⊢ with hm
          · rw [hpanels, Effect.finalState_lift_error_bind] at hs'
            rw [hs']
            exact ⟨rfl, rfl, [], (List.append_nil _).symm, rfl⟩
          · obtain ⟨r', hr'⟩ := hpanels
            rw [hr', Effect.finalState_lift_ok_bind] at hs'
            rw [hs']
            exact ⟨rfl, rfl, [_], rfl, rfl⟩

/-- One live subscription: a chunk is processed once. -/
lemma step_data {s : Receiver} {n : ℕ} (hlive : s.link.liveNotifications = [n]) (c : Chunk) :
    step p pkg s c.event = (notification p pkg c.1 c.2).finalState s := by
  rw [Chunk.event, step, hlive]
  rfl

/-- **The receive path over the chunks of a connection**: the pending bytes at
its start give those at its end and all that is delivered. -/
theorem connection_run (cs : List Chunk) : ∀ {s : Receiver} {n : ℕ},
    s.link.liveNotifications = [n] →
    (run (step p pkg) s (cs.map Chunk.event)).pending =
        run (accept pkg) s.pending (cs.map Prod.snd) ∧
      (run (step p pkg) s (cs.map Chunk.event)).link = s.link ∧
      (outputs (step p pkg) (added p pkg) s (cs.map Chunk.event)).map ResponseData.delivery =
        outputs (accept pkg) (delivers pkg) s.pending (cs.map Prod.snd) := by
  induction cs with
  | nil =>
      intro s n _
      exact ⟨rfl, rfl, rfl⟩
  | cons c cs ih =>
      intro s n hlive
      obtain ⟨hpending, hlink, rs, hrs, hdelivery⟩ := pending_notification (p := p) s c.1 c.2
      have hstep : step p pkg s c.event = _ := step_data hlive c
      rw [← hstep] at hpending hlink hrs
      obtain ⟨ihpending, ihlink, ihout⟩ := ih (hlink ▸ hlive)
      have hadded : added p pkg s c.event = rs := by rw [added, hrs, List.drop_left]
      rw [List.map_cons, List.map_cons, run_cons, run_cons, outputs, outputs, List.map_append,
        hadded, hdelivery, ihpending, ihlink, ihout, hpending, hlink]
      exact ⟨rfl, rfl, rfl⟩

/-! ### Telling pending bytes from none -/

/-- A chunk that ends at a delimiter gives the pending bytes and its own to
`decode`. -/
lemma decoder_delim (raw : List UInt8) {s : List UInt8} (hs : (0 : UInt8) ∉ s) :
    (decoder pkg (s ++ [0])).run raw = (decoder pkg [0]).run (raw ++ s) := by
  rw [decoder, decoder]
  induction s generalizing raw with
  | nil => rw [List.nil_append, List.append_nil]
  | cons b s ih =>
      have hb : b ≠ 0 := fun h => hs (by simp [h])
      rw [List.cons_append, decoderLoop_of_ne hb, ih _ fun h => hs (List.mem_cons_of_mem b h),
        List.append_assoc, List.singleton_append]

/-- A delimiter clears a stack that is not stuck. -/
lemma accept_delim (hhex : StandardHex pkg) (hcobs : StandardCobs pkg) {q : Pending}
    {s : List UInt8} (hs : (0 : UInt8) ∉ s) (hok : ¬ Stuck pkg (q.raw ++ s)) :
    (accept pkg q (s ++ [0])).raw = [] := by
  rw [accept, decoder_delim _ hs, decoder]
  by_cases hraw : q.raw ++ s = []
  · rw [hraw, decoderLoop_zero_nil]
    rfl
  · obtain ⟨r, hr⟩ := (decodes_of_not_stuck hhex hcobs hok).resolve_left hraw
    rw [decoderLoop_zero_ok hraw hr, decoderLoop]
    cases r with
    | none => rfl
    | some m =>
        change (if m.entries = [] then _ else _ : Pending).raw = []
        split_ifs <;> rfl

/-- A chunk on which the codec throws delivers nothing and is not counted. -/
lemma accept_of_error {q : Pending} {data raw : List UInt8} {e : Error}
    (h : (decoder pkg data).run q.raw = .error e raw) :
    accept pkg q data = ⟨raw, q.counted⟩ ∧ delivers pkg q data = [] := by
  rw [accept, delivers, h]
  exact ⟨rfl, rfl⟩

/-- A message as one chunk is delivered unless the stack is stuck. -/
lemma delivers_frame (hhex : StandardHex pkg) (hcobs : StandardCobs pkg) {m : DataMap}
    (hm : CborInverse pkg m) (hne : m.entries ≠ []) {q : Pending} (hok : ¬ Stuck pkg q.raw) :
    delivers pkg q (frame 0 (body pkg m)) =
      [(some m, q.counted + (frame 0 (body pkg m)).length)] := by
  rw [delivers, decoder_frame hhex hcobs.inverse hm (decodes_of_not_stuck hhex hcobs hok)]
  exact if_neg hne

/-- The bytes `s`, a delimiter, and then a message: nothing is delivered exactly
when the pending bytes with `s` after them are stuck. -/
lemma outputs_probe (hhex : StandardHex pkg) (hcobs : StandardCobs pkg) {m : DataMap}
    (hm : CborInverse pkg m) (hne : m.entries ≠ []) (q : Pending) {s : List UInt8}
    (hs : (0 : UInt8) ∉ s) :
    outputs (accept pkg) (delivers pkg) q [s ++ [0], frame 0 (body pkg m)] = [] ↔
      Stuck pkg (q.raw ++ s) := by
  rw [outputs, outputs, outputs_nil, List.append_nil]
  refine ⟨fun hnone => ?_, fun hstuck => ?_⟩
  · by_contra hok
    have hclear : ¬ Stuck pkg (accept pkg q (s ++ [0])).raw := by
      rw [accept_delim hhex hcobs hs hok]
      exact fun hstuck => hstuck.1 rfl
    rw [delivers_frame hhex hcobs hm hne hclear] at hnone
    exact List.cons_ne_nil _ _ (List.append_eq_nil_iff.mp hnone).2
  · obtain ⟨e, he⟩ := decoder_stuck hhex hcobs hstuck []
    rw [← decoder_delim q.raw hs] at he
    obtain ⟨haccept, hnone⟩ := accept_of_error he
    obtain ⟨e', he'⟩ := decoder_stuck hhex hcobs hstuck (body pkg m ++ [0])
    have hnone' := (accept_of_error (q := ⟨q.raw ++ s, q.counted⟩) he').2
    rw [haccept, hnone, frame, hnone', List.append_nil]

/-- **Pending bytes show**: what no chunks tell from nothing pending is nothing
pending. -/
theorem eq_clean_iff (hhex : StandardHex pkg) (hcobs : StandardCobs pkg) {m : DataMap}
    (hm : CborInverse pkg m) (hne : m.entries ≠ []) (q : Pending) :
    (∀ chunks, outputs (accept pkg) (delivers pkg) q chunks =
      outputs (accept pkg) (delivers pkg) .clean chunks) ↔ q = .clean := by
  refine ⟨fun h => ?_, fun h chunks => by rw [h]⟩
  have hempty : ¬ Stuck pkg [] := fun hstuck => hstuck.1 rfl
  have hsame : ∀ s, (0 : UInt8) ∉ s → (Stuck pkg (q.raw ++ s) ↔ Stuck pkg s) := by
    intro s hs
    rw [← outputs_probe hhex hcobs hm hne q hs, h]
    exact outputs_probe hhex hcobs hm hne .clean hs
  have hraw : q.raw = [] := by
    by_contra hraw
    have hok : ¬ Stuck pkg q.raw := by
      have hnil := hsame [] List.not_mem_nil
      rw [List.append_nil] at hnil
      exact fun hstuck => hempty (hnil.mp hstuck)
    obtain ⟨s, hs, hstuck, hnot⟩ := exists_probe hraw hok
    exact hnot ((hsame s hs).mpr hstuck)
  have hcounted : q.counted = 0 := by
    have hframe : delivers pkg q (frame 0 (body pkg m)) =
        delivers pkg .clean (frame 0 (body pkg m)) := by
      simpa only [outputs, List.append_nil] using h [frame 0 (body pkg m)]
    rw [delivers_frame hhex hcobs hm hne (hraw ▸ hempty),
      delivers_frame hhex hcobs hm hne (q := .clean) hempty] at hframe
    simpa [Pending.clean] using hframe
  obtain ⟨raw, counted⟩ := q
  rw [Pending.clean, Pending.mk.injEq]
  exact ⟨hraw, hcounted⟩

/-! ### Two connections -/

/-- A first connection has one live subscription. -/
lemma atDisconnect_link (t : Target) (h : List Chunk) :
    (atDisconnect p pkg t h).link = (Link.mk none none 0 []).on t.deviceId :=
  (connection_run h (s := step p pkg {} t.event) (n := 0) rfl).2.1

/-- What a second connection delivers, from the bytes the first one leaves. -/
lemma deliveredAfter_eq (t t' : Target) (h c : List Chunk) :
    deliveredAfter p pkg t t' h c =
      outputs (accept pkg) (delivers pkg) (atDisconnect p pkg t h).pending (c.map Prod.snd) := by
  have hlive : (run (step p pkg) (atDisconnect p pkg t h)
      [.disableNotification, t'.event]).link.liveNotifications = [1] := by
    change ((atDisconnect p pkg t h).link.off.on t'.deviceId).liveNotifications = [1]
    rw [atDisconnect_link]
    rfl
  exact (connection_run c hlive).2.2

/-- **Isolation of connections**: after a connection that received the chunks
`h`, every sequence of chunks gives the responses it would give after a
connection without chunks, exactly when at its end no byte was on the stack of
the codec and no byte was counted for the next response. -/
theorem isolated_iff (hhex : StandardHex pkg) (hcobs : StandardCobs pkg) {m : DataMap}
    (hm : CborInverse pkg m) (hne : m.entries ≠ []) (t t' : Target) (h : List Chunk) :
    (∀ c, deliveredAfter p pkg t t' h c = deliveredAfter p pkg t t' [] c) ↔
      (atDisconnect p pkg t h).dataRaw = [] ∧ (atDisconnect p pkg t h).dataMapBytes = 0 := by
  have hclean : (atDisconnect p pkg t []).pending = .clean := rfl
  have hpending : (atDisconnect p pkg t h).pending = .clean ↔
      (atDisconnect p pkg t h).dataRaw = [] ∧ (atDisconnect p pkg t h).dataMapBytes = 0 := by
    rw [Receiver.pending, Pending.clean, Pending.mk.injEq]
  rw [← hpending, ← eq_clean_iff hhex hcobs hm hne]
  refine ⟨fun hc chunks => ?_, fun hc c => ?_⟩
  · have hsame := hc (chunks.map fun data => (0, data))
    rw [deliveredAfter_eq, deliveredAfter_eq, hclean, List.map_map] at hsame
    simpa [Function.comp_def] using hsame
  · rw [deliveredAfter_eq, deliveredAfter_eq, hclean, hc]

/-- A clock stopped at midnight. -/
def midnight : Platform where
  doubleText _ := "0.0"
  formatDate _ _ := "24:00:00"

/-- After a connection that received a whole message. -/
theorem isolated_sample :
    (∀ c, deliveredAfter midnight samplePackages ⟨"A", "1"⟩ ⟨"B", "2"⟩ [(0, fwBlockFrame)] c =
        deliveredAfter midnight samplePackages ⟨"A", "1"⟩ ⟨"B", "2"⟩ [] c) ↔
      (atDisconnect midnight samplePackages ⟨"A", "1"⟩ [(0, fwBlockFrame)]).dataRaw = [] ∧
        (atDisconnect midnight samplePackages ⟨"A", "1"⟩ [(0, fwBlockFrame)]).dataMapBytes = 0 :=
  isolated_iff (standardHex_reference _ _) (standardCobs_reference _ _) (m := fwBlockResponse)
    (cborInverse_sample (by simp)) (List.cons_ne_nil _ _) _ _ _

/-- A frame cut off by the disconnect: the first response of the next connection
counts its bytes. -/
theorem cut_frame_counted :
    ¬ ∀ (p : Platform) (pkg : Packages), StandardHex pkg → StandardCobs pkg →
      ∀ (t t' : Target) (h c : List Chunk),
        deliveredAfter p pkg t t' h c = deliveredAfter p pkg t t' [] c := by
  intro hall
  have hsame := hall midnight samplePackages (standardHex_reference _ _)
    (standardCobs_reference _ _) ⟨"A", "1"⟩ ⟨"A", "1"⟩ [(0, fwBlockFrame.take 5)]
    [(1, fwBlockFrame)]
  have hcut : deliveredAfter midnight samplePackages ⟨"A", "1"⟩ ⟨"A", "1"⟩
      [(0, fwBlockFrame.take 5)] [(1, fwBlockFrame)] = [(some fwBlockResponse, 26)] := by
    decide +kernel
  have hwhole : deliveredAfter midnight samplePackages ⟨"A", "1"⟩ ⟨"A", "1"⟩
      [] [(1, fwBlockFrame)] = [(some fwBlockResponse, 21)] := by
    decide +kernel
  rw [hcut, hwhole] at hsame
  simp at hsame

end SopepApp.Receive
