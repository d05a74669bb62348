import SopepApp.Codec.Stream

/-!
The listener of the CBOR dialog, `_CborInteractionDialogState` of
`cbor_interaction_dialog.dart`.

* `Dialog`: the bytes received and the text shown, and `listener`, which
  appends a chunk and decodes all the bytes;
* `dataRaw_receive`: the bytes kept are all those received, delimiters included;
* `dialog_disagrees`: after an encoded message, however it is cut, the dialog does
  not show the message that `decoder` has returned.
-/

namespace SopepApp.CborDialog

open Dart

/-- The fields of the dialog that its listener assigns. -/
structure Dialog where
  dataRaw : List UInt8 := []
  rxDataStr : String := ""

variable (pkg : Packages) (cborToPrettyStr : DataMap → Except Error String)

/-- The listener of `subscribeCharacteristic`. -/
def listener (data : List UInt8) : Effect Dialog Unit := do
  modify fun d => { d with dataRaw := d.dataRaw ++ data }
  let dataMap ← Effect.lift (decode pkg (← get).dataRaw)
  match dataMap with
  | some m =>
    let text ← Effect.lift (cborToPrettyStr m)
    modify fun d => { d with rxDataStr := "rxData = " ++ text }
  | none => modify fun d => { d with rxDataStr := "Invalid CBOR data received..." }

/-- The dialog after the chunks of a stream. -/
def receive (d : Dialog) (chunks : List (List UInt8)) : Dialog :=
  chunks.foldl (fun d data => (listener pkg cborToPrettyStr data).finalState d) d

lemma receive_concat (d : Dialog) (chunks : List (List UInt8)) (data : List UInt8) :
    receive pkg cborToPrettyStr d (chunks ++ [data]) =
      (listener pkg cborToPrettyStr data).finalState (receive pkg cborToPrettyStr d chunks) :=
  List.foldl_concat _ _ _ _

/-- The dialog shows the message. -/
def Shows (d : Dialog) (m : DataMap) : Prop :=
  ∃ text, cborToPrettyStr m = .ok text ∧ d.rxDataStr = "rxData = " ++ text

variable {pkg cborToPrettyStr}

/-- Whether the decoding throws or not, the bytes are kept. -/
lemma dataRaw_listener (data : List UInt8) (d : Dialog) :
    ((listener pkg cborToPrettyStr data).finalState d).dataRaw = d.dataRaw ++ data := by
  rw [listener, Effect.finalState_modify_bind, Effect.finalState_get_bind]
  cases decode pkg (d.dataRaw ++ data) with
  | error e => rfl
  | ok dataMap =>
      cases dataMap with
      | none => rfl
      | some m =>
          rw [Effect.finalState_lift_ok_bind]
          dsimp only
          cases cborToPrettyStr m <;> rfl

/-- **The dialog keeps every byte** that it has received. -/
lemma dataRaw_receive (chunks : List (List UInt8)) (d : Dialog) :
    (receive pkg cborToPrettyStr d chunks).dataRaw = d.dataRaw ++ chunks.flatten := by
  induction chunks generalizing d with
  | nil => exact (List.append_nil _).symm
  | cons c chunks ih =>
      rw [receive, List.foldl_cons, ← receive, ih, dataRaw_listener, List.append_assoc,
        List.flatten_cons]

/-- Bytes with a delimiter among them do not decode. -/
lemma decode_eq_none_of_mem (hzero : ReportsZero pkg) {encoded : List UInt8}
    (h : (0 : UInt8) ∈ encoded) : decode pkg encoded = .ok none := by
  have hfailed := hzero (byteData (encoded.length * 2)) encoded h
  rw [decode]
  dsimp only
  rw [hfailed, if_pos (by decide)]
  rfl

/-- A chunk after which a delimiter has been received. -/
lemma rxDataStr_listener (hzero : ReportsZero pkg) {data : List UInt8} {d : Dialog}
    (h : (0 : UInt8) ∈ d.dataRaw ++ data) :
    ((listener pkg cborToPrettyStr data).finalState d).rxDataStr =
      "Invalid CBOR data received..." := by
  rw [listener, Effect.finalState_modify_bind, Effect.finalState_get_bind,
    decode_eq_none_of_mem hzero h]
  rfl

/-- An error text shows no message. -/
lemma not_shows_of_invalid {d : Dialog} (h : d.rxDataStr = "Invalid CBOR data received...")
    (m : DataMap) : ¬ Shows cborToPrettyStr d m := by
  rintro ⟨text, -, htext⟩
  have hfirst := congrArg (fun s => s.toList.head?) (h.symm.trans htext)
  rw [String.toList_append] at hfirst
  exact absurd (Option.some.inj hfirst : 'I' = 'r') (by decide)

/-- The decoder delivers an encoded message once, however it is cut. -/
lemma delivered_encoded (hhex : StandardHex pkg) (hcobs : CobsInverse pkg) {m : DataMap}
    (hm : CborInverse pkg m) {chunks : List (List UInt8)}
    (hcut : chunks.flatten = Delimited.frame 0 (body pkg m)) :
    delivered (feed pkg [] chunks).1 = [m] := by
  have hms : ∀ m' ∈ [m], CborInverse pkg m' := by simpa using hm
  obtain ⟨ls, hls, -, hfeed⟩ := feed_frames hhex hcobs hms (by simpa using hcut)
  have hle : ∀ l ∈ ls, l.length ≤ 1 := by
    intro l hl
    have hlen := (List.sublist_flatten_of_mem hl).length_le
    rwa [hls] at hlen
  rw [hfeed, delivered_map_ok, (Delimited.flatMap_getLast_iff ls).mpr hle, hls]

/-- **The dialog never shows the message** that `decoder` returns for the chunks,
whatever the message is and however its encoding is cut: `decode` is given all the
bytes, and their delimiters with them. -/
theorem dialog_disagrees (hhex : StandardHex pkg) (hcobs : CobsInverse pkg)
    (hzero : ReportsZero pkg) {m : DataMap} (hm : CborInverse pkg m) {encoded : List UInt8}
    (henc : encoder pkg m = .ok encoded) {chunks : List (List UInt8)}
    (hcut : chunks.flatten = encoded) :
    delivered (feed pkg [] chunks).1 = [m] ∧
      ¬ Shows cborToPrettyStr (receive pkg cborToPrettyStr {} chunks) m := by
  rw [encoder_eq hhex hcobs, Except.ok.injEq] at henc
  rw [← henc] at hcut
  refine ⟨delivered_encoded hhex hcobs hm hcut, not_shows_of_invalid ?_ m⟩
  rcases List.eq_nil_or_concat chunks with rfl | ⟨before, last, rfl⟩
  · exact absurd hcut (by simp [Delimited.frame])
  · rw [List.concat_eq_append] at hcut ⊢
    rw [receive_concat]
    refine rxDataStr_listener hzero ?_
    have hall : before.flatten ++ last = Delimited.frame 0 (body pkg m) := by
      rw [← hcut, List.flatten_concat]
    rw [dataRaw_receive, List.nil_append, hall]
    exact List.mem_cons_self

/-- Every message is shown as an empty text. -/
def emptyText (_ : DataMap) : Except Error String := .ok ""

/-- A response in two chunks. -/
theorem dialog_disagrees_sample :
    delivered (feed samplePackages [] [fwBlockFrame.take 9, fwBlockFrame.drop 9]).1 =
        [fwBlockResponse] ∧
      ¬ Shows emptyText (receive samplePackages emptyText {}
        [fwBlockFrame.take 9, fwBlockFrame.drop 9]) fwBlockResponse :=
  dialog_disagrees (standardHex_reference _ _) (standardCobs_reference _ _).inverse
    (standardCobs_reference _ _).reportsZero (cborInverse_sample (by simp)) encoder_fwBlock
    (by decide)

/-- A response in one chunk. -/
theorem dialog_shows_nothing : ¬ ∀ (pkg : Packages)
    (cborToPrettyStr : DataMap → Except Error String) (m : DataMap) (encoded : List UInt8)
    (chunks : List (List UInt8)), StandardHex pkg → StandardCobs pkg → CborInverse pkg m →
    encoder pkg m = .ok encoded → chunks.flatten = encoded →
    ∀ m' ∈ delivered (feed pkg [] chunks).1,
      Shows cborToPrettyStr (receive pkg cborToPrettyStr {} chunks) m' := by
  intro h
  have hshows := h samplePackages emptyText fwBlockResponse fwBlockFrame [fwBlockFrame]
    (standardHex_reference _ _) (standardCobs_reference _ _) (cborInverse_sample (by simp))
    encoder_fwBlock (by simp)
  have hdelivered : fwBlockResponse ∈ delivered (feed samplePackages [] [fwBlockFrame]).1 := by
    decide +kernel
  have hreceived : (0 : UInt8) ∈ ({} : Dialog).dataRaw ++ fwBlockFrame := by decide
  have hzero : ReportsZero samplePackages := (standardCobs_reference _ _).reportsZero
  refine not_shows_of_invalid ?_ _ (hshows _ hdelivered)
  change ((listener samplePackages emptyText fwBlockFrame).finalState {}).rxDataStr = _
  exact rxDataStr_listener hzero hreceived

end SopepApp.CborDialog
