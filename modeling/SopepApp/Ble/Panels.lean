import SopepApp.Ble.Receive

/-!
The text panels of a response, `enableNotification` of
`ble_sopep_interactor.dart`: a message is classified by its first key, and by
its dialogs by what it holds.

* `DataMap.panel?`: the panel a message belongs to by what it holds, which does
  not depend on the order of its entries (`panel?_of_perm`);
* `DataMap.FirstKeyTells`: there is a first key, and it is the one of that panel;
* `classified_iff`: a message is delivered once, with the panel it belongs to
  and no other brought up to date, exactly if its first key tells the panel.
-/

namespace SopepApp

/-- A text panel of the response. -/
inductive Panel where
  | rsp
  | newData
  | deviceStatus
  deriving DecidableEq

/-- The key by which the messages of a panel are known. -/
def Panel.key : Panel → String
  | .rsp => "rsp"
  | .newData => "event"
  | .deviceStatus => "event"

namespace DataMap

/-- The panel of an event. -/
def eventPanel? (m : DataMap) : Option Panel :=
  if m.get "event" = .string "new-data" then some .newData
  else if m.get "event" = .string "device-status" then some .deviceStatus
  else none

/-- The panel a message belongs to, by what it holds. -/
def panel? (m : DataMap) : Option Panel :=
  if m.containsKey "rsp" then some .rsp else m.eventPanel?

/-- The panel that is written for a message with the first key `first`. -/
def writtenPanel? (m : DataMap) (first : Value) : Option Panel :=
  if first = .string "rsp" then some .rsp
  else if first = .string "event" then m.eventPanel?
  else none

variable {m m' : DataMap} {e : Value × Value} {rest : List (Value × Value)}

lemma key_of_mem_eventPanel? {panel : Panel} (h : panel ∈ m.eventPanel?) :
    panel.key = "event" := by
  cases panel with
  | rsp =>
      rw [eventPanel?] at h
      split_ifs at h <;> simp at h
  | newData => rfl
  | deviceStatus => rfl

/-- A panel is written under its own key only. -/
lemma key_of_mem_writtenPanel? {first : Value} {panel : Panel} (h : panel ∈ m.writtenPanel? first) :
    first = .string panel.key := by
  rw [writtenPanel?] at h
  split_ifs at h with hrsp hevent
  · obtain rfl := Option.some.inj h
    exact hrsp
  · rw [hevent, key_of_mem_eventPanel? h]
  · simp at h

/-- **The panel written is the one of the message** exactly if the first key is
the key of that panel, if there is one. -/
lemma writtenPanel?_eq_iff (hm : m.entries = e :: rest) :
    m.writtenPanel? e.1 = m.panel? ↔ ∀ panel ∈ m.panel?, e.1 = .string panel.key := by
  constructor
  · intro h panel hpanel
    exact key_of_mem_writtenPanel? (h ▸ hpanel)
  · intro h
    rw [writtenPanel?]
    by_cases hrsp : m.containsKey "rsp"
    · rw [panel?, if_pos hrsp] at h ⊢
      exact if_pos (h .rsp rfl)
    · have hne : e.1 ≠ .string "rsp" := fun heq => hrsp ⟨e, hm ▸ List.mem_cons_self, heq⟩
      rw [panel?, if_neg hrsp] at h ⊢
      rw [if_neg hne]
      split_ifs with hevent
      · rfl
      · -- the panel of an event would have told its key
        refine (Option.eq_none_iff_forall_not_mem.mpr fun panel hpanel => hevent ?_).symm
        rw [h panel hpanel, key_of_mem_eventPanel? hpanel]

/-- No string key is there twice, so that an entry is found under its key. -/
lemma find?_of_mem {entries : List (Value × Value)} (hnodup : (stringKeys entries).Nodup)
    {key : String} {v : Value} (h : (.string key, v) ∈ entries) :
    entries.find? (fun e => e.1 = .string key) = some (.string key, v) := by
  induction entries with
  | nil => simp at h
  | cons e entries ih =>
      rcases List.mem_cons.mp h with rfl | h
      · exact List.find?_cons_of_pos (decide_eq_true rfl)
      · have hmem : key ∈ stringKeys entries := List.mem_filterMap.mpr ⟨_, h, rfl⟩
        have hne : e.1 ≠ .string key := by
          intro heq
          rw [stringKeys, List.filterMap_cons_some (b := key) (by rw [heq]), List.nodup_cons]
            at hnodup
          exact hnodup.1 hmem
        rw [List.find?_cons_of_neg (by simpa using hne)]
        exact ih (hnodup.sublist ((List.sublist_cons_self e entries).filterMap _)) h

lemma get_of_mem {key : String} {v : Value} (h : (.string key, v) ∈ m.entries) :
    m.get key = v := by
  rw [get, find?_of_mem m.nodup h]

lemma get_of_not_containsKey {key : String} (h : ¬ m.containsKey key) : m.get key = .null := by
  have hnone : m.entries.find? (fun e => e.1 = .string key) = none := by
    rw [List.find?_eq_none]
    exact fun e he heq => h ⟨e, he, of_decide_eq_true heq⟩
  rw [get, hnone]

/-- **The panel of a message does not depend on the order of its entries.** -/
theorem panel?_of_perm (h : m.entries.Perm m'.entries) : m.panel? = m'.panel? := by
  have hcontains : ∀ key, m.containsKey key ↔ m'.containsKey key := fun key =>
    exists_congr fun e => and_congr_left fun _ => h.mem_iff
  have hget : m.get "event" = m'.get "event" := by
    by_cases hevent : m.containsKey "event"
    · obtain ⟨⟨_, v⟩, hmem, rfl⟩ := hevent
      rw [get_of_mem hmem, get_of_mem (h.mem_iff.mp hmem)]
    · rw [get_of_not_containsKey hevent, get_of_not_containsKey ((hcontains _).not.mp hevent)]
  rw [panel?, panel?, eventPanel?, eventPanel?, hget]
  simp only [hcontains]

/-- There is a first key, and it is the one of the panel, if there is one. -/
def FirstKeyTells (m : DataMap) : Prop :=
  ∃ e rest, m.entries = e :: rest ∧ ∀ panel ∈ m.panel?, e.1 = .string panel.key

end DataMap

end SopepApp

namespace SopepApp.Receive

open Dart Transition

/-- A panel, if there is one, shows a text. -/
def ResponseData.show (r : ResponseData) (panel? : Option Panel) (timestamp text : String) :
    ResponseData :=
  match panel? with
  | some .rsp => { r with rspTextTimestamp := timestamp, rspText := text }
  | some .newData => { r with eventNewDataTextTimestamp := timestamp, eventNewDataText := text }
  | some .deviceStatus => { r with
      eventDevStatusTextTimestamp := timestamp
      eventDevStatusText := text }
  | none => r

/-- What the panels show. -/
def ResponseData.panels (r : ResponseData) : List String :=
  [r.rspText, r.eventNewDataText, r.eventDevStatusText]

/-- On empty panels a text tells which of them shows it. -/
lemma panels_show_injective (timestamp : String) {text : String} (htext : text ≠ "") :
    Function.Injective fun q => (ResponseData.show {} q timestamp text).panels := by
  rintro (_ | _ | _ | _) (_ | _ | _ | _) h <;>
    simp_all [ResponseData.show, ResponseData.panels]

variable (p : Platform) (pkg : Packages)

/-- The receive path after the message `m` of a chunk of `n` bytes has been
delivered once: the panel the message belongs to shows it, the count of bytes
begins anew, and the bytes `raw` are left on the stack. -/
def delivery (now : ℤ) (n : ℕ) (m : DataMap) (raw : List UInt8) (s : Receiver) : Receiver :=
  let r := { s.sopepResponse.show m.panel? (p.formatDate "kk:mm:ss" now) (panelText p m) with
    dataMap := some m, dataMapBytes := s.dataMapBytes + n }
  { s with
    dataRaw := raw
    dataMap := none
    dataMapBytes := 0
    sopepResponse := r
    responses := s.responses ++ [r] }

/-! ### The classification -/

variable {p pkg} {m : DataMap} {e : Value × Value} {rest : List (Value × Value)}

lemma showPanels_cons (hm : m.entries = e :: rest) (now : ℤ) (r : ResponseData) :
    showPanels p now m r =
      .ok (r.show (m.writtenPanel? e.1) (p.formatDate "kk:mm:ss" now) (panelText p m)) := by
  have hfirst : firstKey m = .ok e.1 := by rw [firstKey, hm]
  rw [showPanels, hfirst, DataMap.writtenPanel?, DataMap.eventPanel?]
  simp only [bind, Except.bind, pure, Except.pure]
  split_ifs <;> rfl

/-- The text of a message with an entry is not empty. -/
lemma panelText_ne_empty (hm : m.entries = e :: rest) : panelText p m ≠ "" := by
  have hgrow : ∀ (es : List (Value × Value)) (text : String), text.length ≤ (es.foldl
      (fun text e => text ++ (e.1.toText p ++ ": " ++ e.2.toText p ++ "\n")) text).length := by
    intro es
    induction es with
    | nil => exact fun text => le_rfl
    | cons e es ih =>
        intro text
        refine le_trans ?_ (ih _)
        rw [String.length_append]
        exact Nat.le_add_right _ _
  intro h
  have hlen := hgrow rest ("" ++ (e.1.toText p ++ ": " ++ e.2.toText p ++ "\n"))
  rw [panelText, hm, List.foldl_cons] at h
  rw [h] at hlen
  simp only [String.length_append] at hlen
  have hnewline : ("\n" : String).length = 1 := rfl
  have hempty : ("" : String).length = 0 := rfl
  omega

/-- The callback on a chunk that completes a message. -/
lemma notification_run {raw raw' data : List UInt8}
    (hdec : (decoder pkg data).run raw = .ok (some m) raw') (now : ℤ) {s : Receiver}
    (hs : s.dataRaw = raw) :
    (notification p pkg now data).run s =
      match showPanels p now m s.sopepResponse with
      | .error err => .error err { s with
          dataRaw := raw', dataMap := some m, dataMapBytes := s.dataMapBytes + data.length }
      | .ok r =>
        let r := { r with dataMap := some m, dataMapBytes := s.dataMapBytes + data.length }
        .ok () { s with
          dataRaw := raw', dataMap := none, dataMapBytes := 0
          sopepResponse := r, responses := s.responses ++ [r] } := by
  rw [← hs] at hdec
  rw [notification, Effect.run_bind_of_ok (Effect.run_onField_of_ok hdec)]
  cases hpanels : showPanels p now m s.sopepResponse with
  | error err =>
      simp only [EStateM.run_bind, EStateM.run_modify, EStateM.run_get, hpanels,
        Effect.run_lift_error]
  | ok r =>
      simp only [EStateM.run_bind, EStateM.run_modify, EStateM.run_get, hpanels,
        Effect.run_lift_ok]

/-- With empty panels, the panel written is seen. -/
lemma writtenPanel?_of_delivery {raw raw' data : List UInt8}
    (hdec : (decoder pkg data).run raw = .ok (some m) raw') (hm : m.entries = e :: rest) {now : ℤ}
    (h : (notification p pkg now data).run { dataRaw := raw } =
      .ok () (delivery p now data.length m raw' { dataRaw := raw })) :
    m.writtenPanel? e.1 = m.panel? := by
  rw [notification_run hdec now rfl, showPanels_cons hm] at h
  have hpanels := congrArg (fun s => s.sopepResponse.panels) (EStateM.Result.ok.inj h).2
  exact panels_show_injective _ (panelText_ne_empty hm) hpanels

/-- **A message has the effect that its contents call for**, from every state:
it is delivered once, its bytes are no longer counted, and the panel it belongs to
and no other shows it, exactly if its first key tells that panel. -/
theorem classified_iff {raw raw' data : List UInt8}
    (hdec : (decoder pkg data).run raw = .ok (some m) raw') :
    (∀ now s, s.dataRaw = raw →
      (notification p pkg now data).run s = .ok () (delivery p now data.length m raw' s)) ↔
      m.FirstKeyTells := by
  constructor
  · intro h
    have hrun := h 0 { dataRaw := raw } rfl
    cases hm : m.entries with
    | nil =>
        have hfirst : firstKey m = .error .stateError := by rw [firstKey, hm]
        rw [notification_run hdec 0 rfl, showPanels, hfirst] at hrun
        exact absurd hrun (by simp [bind, Except.bind])
    | cons e rest =>
        have hwritten := writtenPanel?_of_delivery hdec hm hrun
        exact ⟨e, rest, hm, (DataMap.writtenPanel?_eq_iff hm).mp hwritten⟩
  · rintro ⟨e, rest, hm, htells⟩ now s hs
    rw [notification_run hdec now hs, showPanels_cons hm,
      (DataMap.writtenPanel?_eq_iff hm).mpr htells]
    rfl

/-- A response whose first key is `rsp`. -/
theorem classified_sample :
    (∀ now s, s.dataRaw = [] →
      (notification midnight samplePackages now fwBlockFrame).run s =
        .ok () (delivery midnight now 21 fwBlockResponse [] s)) ↔
      fwBlockResponse.FirstKeyTells :=
  classified_iff (decoder_encoder (standardHex_reference _ _) (standardCobs_reference _ _).inverse
    (cborInverse_sample (by simp)) encoder_fwBlock)

/-- A response to `read-data` that begins with its number. -/
def numberedResponse : DataMap :=
  ⟨[(.string "seq", .int 7), (.string "rsp", .string "read-data")], by decide⟩

/-- The packages with the CBOR of this response. -/
def numberedPackages : Packages := tablePackages
  [(numberedResponse, [0xA2, 0x63, 0x73, 0x65, 0x71, 0x07, 0x63, 0x72, 0x73, 0x70, 0x69, 0x72,
    0x65, 0x61, 0x64, 0x2D, 0x64, 0x61, 0x74, 0x61])]

lemma cborInverse_numbered : CborInverse numberedPackages numberedResponse := by
  simp only [CborInverse]
  decide +kernel

/-- The response is delivered, and its panel does not show it. -/
theorem numbered_response_not_shown :
    ¬ ∀ (p : Platform) (pkg : Packages), StandardHex pkg → StandardCobs pkg →
      ∀ (raw raw' data : List UInt8) (m : DataMap),
        (decoder pkg data).run raw = .ok (some m) raw' →
        ∀ now s, s.dataRaw = raw →
          (notification p pkg now data).run s = .ok () (delivery p now data.length m raw' s) := by
  intro h
  have hhex : StandardHex numberedPackages := standardHex_reference _ _
  have hcobs : StandardCobs numberedPackages := standardCobs_reference _ _
  have hdec := decoder_encoder hhex hcobs.inverse cborInverse_numbered
    (encoder_eq hhex hcobs.inverse _)
  have hrun := h midnight numberedPackages hhex hcobs [] [] _ numberedResponse hdec 0 {} rfl
  exact absurd (writtenPanel?_of_delivery hdec rfl hrun) (by decide)

end SopepApp.Receive
