import SopepApp.Dart.Text
import SopepApp.ReadData.Accepted
import SopepApp.ReadData.DatasetText

/-!
The data sets shown by `_DatasetInteractionTabState` of
`dataset_interaction_tab.dart`, against the text files that `_formatData` saves.

* `textFilePath`: the path that `writeTextFile` gives a file;
* `deviceIdOf`, `withoutEstimates`: the two cuts of `_getListOfDatasets`, from
  the path and from the text of a file;
* `device_id_round_trip_iff`: the device id cut from the path is the one in the
  file name, whichever it is, exactly when the fields after it have the width
  that the cut assumes;
* `dataset_text_reads_back`: the text of a set is its eight lines, and the cut
  keeps the first five.
-/

namespace SopepApp.DatasetTab

open Dart Sections ReadData

/-- The path of a file in `writeTextFile` of `file_storage.dart`. -/
def textFilePath (appDirectory fileName : String) : String :=
  appDirectory ++ "/" ++ fileName ++ ".txt"

/-- The device id that `_getListOfDatasets` cuts out of a path. -/
def deviceIdOf (path : String) : Except Error String :=
  substring path (path.length - 49) (path.length - 34)

/-- The text of a file without its error and ratio data, in
`_getListOfDatasets`. -/
def withoutEstimates (tempStr : String) : Except Error String :=
  let ind := indexOf "Estimated peak".toList tempStr.toList
  substring tempStr 0 ind

variable {p : Platform} {sopepId : String} {records : List DataMap}

/-! ### The device id in the path -/

/-- What stands in the path of a text file after the device id. -/
def afterDeviceId (p : Platform) (c : Section DataMap) : String :=
  "_SES" ++ (c.first.get "session").toText p ++ "_SET" ++ (c.first.get "set").toText p ++ "_" ++
    timeText p namePattern c.first ++ ".txt"

lemma textFilePath_datasetName (p : Platform) (appDirectory sopepId : String)
    (c : Section DataMap) :
    textFilePath appDirectory (datasetName p sopepId c) =
      (appDirectory ++ "/datasets/") ++ sopepId ++ afterDeviceId p c := by
  have hname : datasetName p sopepId c = "datasets/" ++ sopepId ++ "_SES" ++
      (c.first.get "session").toText p ++ "_SET" ++ (c.first.get "set").toText p ++ "_" ++
      timeText p namePattern c.first := rfl
  rw [textFilePath, hname, afterDeviceId, ← String.toList_inj]
  simp

lemma afterDeviceId_length (p : Platform) (c : Section DataMap) :
    (afterDeviceId p c).length = ((c.first.get "session").toText p).length +
      ((c.first.get "set").toText p).length + (timeText p namePattern c.first).length + 13 := by
  have hses : "_SES".length = 4 := by decide
  have hset : "_SET".length = 4 := by decide
  have hbar : "_".length = 1 := by decide
  have htxt : ".txt".length = 4 := by decide
  simp only [afterDeviceId, String.length_append, hses, hset, hbar, htxt]
  omega

/-- The text file of a savable set. -/
lemma text_mem_iff {pre : List DataMap} (hpre : ∀ r ∈ pre, isEnd r = false)
    {c : Section DataMap} (hc : IsSet c) (hsavable : Savable c) {name text : String} :
    .text name text ∈ (formatData p sopepId (pre ++ c.first :: (c.inner ++ [c.last]))).finalState []
      ↔ name = datasetName p sopepId c ∧
        text = cborToRegularTextString p (datasetInfo p c) := by
  rw [Effect.finalState_of_ok (formatData_section p sopepId hpre hc hsavable []),
    List.nil_append, datasetFiles]
  split_ifs <;> simp

/-- **The device id round-trips exactly at one width**: whatever the id of 15
characters is, the tab cuts it out of the path of the text file of a set, if and
only if the session, the set and the start time are printed in 21 characters. -/
theorem device_id_round_trip_iff (p : Platform) (appDirectory : String) {pre : List DataMap}
    (hpre : ∀ r ∈ pre, isEnd r = false) {c : Section DataMap} (hc : IsSet c)
    (hsavable : Savable c) :
    (∀ sopepId : String, sopepId.length = 15 → ∀ name text,
      .text name text ∈
        (formatData p sopepId (pre ++ c.first :: (c.inner ++ [c.last]))).finalState [] →
      deviceIdOf (textFilePath appDirectory name) = .ok sopepId) ↔
    ((c.first.get "session").toText p).length + ((c.first.get "set").toText p).length +
      (timeText p namePattern c.first).length = 21 := by
  have hcut : ∀ sopepId, deviceIdOf (textFilePath appDirectory (datasetName p sopepId c)) =
      substring ((appDirectory ++ "/datasets/") ++ sopepId ++ afterDeviceId p c)
        (((appDirectory ++ "/datasets/") ++ sopepId ++ afterDeviceId p c).length - (34 + 15 : ℕ))
        (((appDirectory ++ "/datasets/") ++ sopepId ++ afterDeviceId p c).length - (34 : ℕ)) := by
    intro sopepId
    rw [textFilePath_datasetName]
    rfl
  calc
    _ ↔ ∀ sopepId : String, sopepId.length = 15 →
          deviceIdOf (textFilePath appDirectory (datasetName p sopepId c)) = .ok sopepId := by
        refine forall_congr' fun sopepId => imp_congr_right fun _ => ?_
        constructor
        · exact fun h => h _ _ ((text_mem_iff hpre hc hsavable).mpr ⟨rfl, rfl⟩)
        · intro h name text hmem
          rw [((text_mem_iff hpre hc hsavable).mp hmem).1]
          exact h
    _ ↔ (afterDeviceId p c).length = 34 := by
        simp only [hcut]
        exact substring_fromEnd_iff (by decide)
    _ ↔ _ := by
        rw [afterDeviceId_length]
        omega

/-- A set of one Pressure record, in a session. -/
def setInSession (session : ℤ) : Section DataMap where
  first := sampleRecord 5 "Start set" [(.string "session", .int session), (.string "set", .int 1),
    (.string "timestamp", .int 1700000000)] (by simp [stringKeys])
  inner := [pressure]
  last := endSet

lemma setInSession_isSet (session : ℤ) : IsSet (setInSession session) := by
  refine ⟨?_, ?_, show isEnd endSet = true by decide +kernel⟩
  · simp [setInSession, isStart, DataMap.get, sampleRecord]
  · simp only [setInSession, List.mem_singleton, forall_eq]
    decide +kernel

lemma setInSession_savable (session : ℤ) : Savable (setInSession session) := by
  refine ⟨?_, ?_, show WellFormed endSet by decide +kernel, ?_⟩
  · have htimestamp : HasTimestamp (setInSession session).first :=
      ⟨1700000000, by simp [setInSession, DataMap.get, sampleRecord, Value.asInt, Except.toOption],
        by decide⟩
    refine wellFormed_of_isStart (setInSession_isSet session).first ⟨?_, ?_, htimestamp⟩ <;>
      simp [setInSession, DataMap.get, sampleRecord]
  · simp only [setInSession, List.mem_singleton, forall_eq]
    decide +kernel
  · simp only [setInSession]
    decide +kernel

/-- Session 3: the ids come back. -/
theorem device_id_round_trip_sample :
    (∀ sopepId : String, sopepId.length = 15 → ∀ name text,
      .text name text ∈ (formatData samplePlatform sopepId
        ([] ++ (setInSession 3).first :: ((setInSession 3).inner ++ [(setInSession 3).last]))).finalState
          [] →
      deviceIdOf (textFilePath "/files" name) = .ok sopepId) ↔
    (((setInSession 3).first.get "session").toText samplePlatform).length +
      (((setInSession 3).first.get "set").toText samplePlatform).length +
      (timeText samplePlatform namePattern (setInSession 3).first).length = 21 :=
  device_id_round_trip_iff samplePlatform "/files" (by simp)
    (setInSession_isSet 3) (setInSession_savable 3)

/-- Session 12: the id is cut one character late. -/
theorem session_twelve_shifts_id : ¬ ∀ (p : Platform) (appDirectory sopepId : String)
    (records : List DataMap) (name text : String), sopepId.length = 15 →
    .text name text ∈ (formatData p sopepId records).finalState [] →
    deviceIdOf (textFilePath appDirectory name) = .ok sopepId := by
  intro h
  have hcut := h samplePlatform "/files" "00C0FFEE1234567"
    ([] ++ (setInSession 12).first :: ((setInSession 12).inner ++ [(setInSession 12).last])) _ _
    (by decide)
    ((text_mem_iff (by simp) (setInSession_isSet 12) (setInSession_savable 12)).mpr ⟨rfl, rfl⟩)
  have hshifted : deviceIdOf (textFilePath "/files"
      (datasetName samplePlatform "00C0FFEE1234567" (setInSession 12))) =
      .ok "0C0FFEE1234567_" := by
    decide +kernel
  rw [hshifted] at hcut
  exact absurd hcut (by decide)

/-! ### The text of a set -/

/-- The fields that a set's info is taken from are numbers. -/
structure NumberFields (start stop : DataMap) : Prop where
  session : IsNumber (start.get "session")
  set : IsNumber (start.get "set")
  n_samples : IsNumber (stop.get "n_samples")
  peak_error : IsNumber (stop.get "peak_error")
  rms_error : IsNumber (stop.get "rms_error")
  compression_ratio : IsNumber (stop.get "compression_ratio")

section Text

variable {start stop : DataMap}

lemma plainValue_timeText (hdates : PrintsDates p) (record : DataMap) :
    PlainValue (timeText p textPattern record).toList := by
  rw [timeText]
  cases h : formatTimestamp p textPattern record with
  | error e => exact plainValue_of_forall_ne (by simp)
  | ok text =>
      obtain ⟨seconds, -, -, rfl⟩ := formatTimestamp_eq_ok_iff.mp h
      exact plainValue_date hdates _

/-- The values of the info of a set of numbers are plain. -/
lemma plainValue_datasetInfo (hdoubles : PrintsDoubles p) (hdates : PrintsDates p)
    (h : NumberFields start stop) :
    ∀ e ∈ datasetInfo p ⟨start, [], stop⟩, PlainValue (e.2.toText p).toList := by
  have hnumber := fun {v : Value} => plainValue_of_isNumber (v := v) hdoubles
  simp only [datasetInfo, List.forall_mem_cons]
  exact ⟨hnumber h.session, hnumber h.set, plainValue_timeText hdates start,
    plainValue_timeText hdates stop, hnumber h.n_samples, hnumber h.peak_error,
    hnumber h.rms_error, hnumber h.compression_ratio, by simp⟩

lemma plainEntries_datasetInfo (hdoubles : PrintsDoubles p) (hdates : PrintsDates p)
    (h : NumberFields start stop) : PlainEntries p (datasetInfo p ⟨start, [], stop⟩) := by
  intro e he
  have hkey : e.1 ∈ infoKeys := by
    rw [← datasetInfo_keys p ⟨start, [], stop⟩]
    exact List.mem_map_of_mem he
  exact ⟨plain_infoKey hkey, (plainValue_datasetInfo hdoubles hdates h e he).toPlain⟩

/-- The lines of an info that the tab shows, each with its newline. -/
def shownLines (p : Platform) (info : List (String × Value)) : String :=
  String.join ((info.take 5).map fun e => line p e ++ "\n")

/-- A cut at a marker that follows. -/
lemma withoutEstimates_append {shown rest : String}
    (h : indexOf "Estimated peak".toList (shown ++ rest).toList = shown.length) :
    withoutEstimates (shown ++ rest) = .ok shown := by
  have hcut := substring_append "" shown rest
  rw [String.empty_append, String.length_empty, Nat.cast_zero, zero_add] at hcut
  rw [withoutEstimates, h, hcut]

lemma shownLines_eq (p : Platform) (start stop : DataMap) :
    shownLines p (datasetInfo p ⟨start, [], stop⟩) =
      (line p ("Session", start.get "session") ++ "\n") ++
      (line p ("Set", start.get "set") ++ "\n") ++
      (line p ("Start Time", .string (timeText p textPattern start)) ++ "\n") ++
      (line p ("End Time", .string (timeText p textPattern stop)) ++ "\n") ++
      (line p ("Num Samples", stop.get "n_samples") ++ "\n") := by
  rw [shownLines, datasetInfo, List.take_succ_cons, List.take_succ_cons, List.take_succ_cons,
    List.take_succ_cons, List.take_succ_cons, List.take_zero]
  simp only [List.map_cons, List.map_nil, String.join_cons, String.join_nil, String.append_empty,
    String.append_assoc]

/-- A line without the first letter of the marker. -/
lemma notMem_line {key : String} {v : Value} (hkey : 'E' ∉ key.toList)
    (hv : PlainValue (v.toText p).toList) : 'E' ∉ (line p (key, v) ++ "\n").toList := by
  rw [line, String.toList_append, String.toList_append, String.toList_append]
  exact List.not_mem_append (List.not_mem_append (List.not_mem_append hkey (by decide)) hv.marker)
    (by decide)

/-- **The marker first occurs after the lines shown**: of its first letter there
is one before it, in `End Time`. -/
lemma indexOf_marker (hdoubles : PrintsDoubles p) (hdates : PrintsDates p)
    (h : NumberFields start stop) (rest : List Char) :
    indexOf "Estimated peak".toList
        ((shownLines p (datasetInfo p ⟨start, [], stop⟩)).toList ++
          ("Estimated peak".toList ++ rest)) =
      (shownLines p (datasetInfo p ⟨start, [], stop⟩)).toList.length := by
  have hmarker : "Estimated peak".toList = 'E' :: 's' :: "timated peak".toList := by decide
  have hsession : 'E' ∉ (line p ("Session", start.get "session") ++ "\n").toList :=
    notMem_line (by decide) (plainValue_of_isNumber hdoubles h.session)
  have hset : 'E' ∉ (line p ("Set", start.get "set") ++ "\n").toList :=
    notMem_line (by decide) (plainValue_of_isNumber hdoubles h.set)
  have hstart : 'E' ∉
      (line p ("Start Time", .string (timeText p textPattern start)) ++ "\n").toList :=
    notMem_line (by decide) (plainValue_timeText hdates start)
  have hsamples : 'E' ∉ (line p ("Num Samples", stop.get "n_samples") ++ "\n").toList :=
    notMem_line (by decide) (plainValue_of_isNumber hdoubles h.n_samples)
  have hstop : (line p ("End Time", .string (timeText p textPattern stop)) ++ "\n").toList =
      'E' :: 'n' :: ("d Time=".toList ++ (timeText p textPattern stop).toList ++ ['\n']) := by
    simp [line, Value.toText]
  have hbetween : 'E' ∉ 'n' :: ("d Time=".toList ++ (timeText p textPattern stop).toList ++ ['\n'] ++
      (line p ("Num Samples", stop.get "n_samples") ++ "\n").toList) := by
    refine List.not_mem_cons_of_ne_of_not_mem (by decide) (List.not_mem_append ?_ hsamples)
    exact List.not_mem_append (List.not_mem_append (by decide)
      (plainValue_timeText hdates stop).marker) (by decide)
  have hshown : (shownLines p (datasetInfo p ⟨start, [], stop⟩)).toList =
      ((line p ("Session", start.get "session") ++ "\n").toList ++
        (line p ("Set", start.get "set") ++ "\n").toList ++
        (line p ("Start Time", .string (timeText p textPattern start)) ++ "\n").toList) ++
      'E' :: 'n' :: ("d Time=".toList ++ (timeText p textPattern stop).toList ++ ['\n'] ++
        (line p ("Num Samples", stop.get "n_samples") ++ "\n").toList) := by
    rw [shownLines_eq, String.toList_append, String.toList_append, hstop, String.toList_append,
      String.toList_append, List.append_assoc, List.cons_append, List.cons_append]
  rw [hmarker, hshown]
  exact indexOf_append_cons (List.not_mem_append (List.not_mem_append hsession hset) hstart)
    hbetween (by decide) rest

/-- The text of a set: the lines shown, the marker, and what follows. -/
lemma datasetText_eq (hdoubles : PrintsDoubles p) (hdates : PrintsDates p)
    (h : NumberFields start stop) :
    ∃ rest, cborToRegularTextString p (datasetInfo p ⟨start, [], stop⟩) =
      shownLines p (datasetInfo p ⟨start, [], stop⟩) ++ ("Estimated peak" ++ rest) := by
  have hcut : (datasetInfo p ⟨start, [], stop⟩).map (line p) =
      ((datasetInfo p ⟨start, [], stop⟩).take 5).map (line p) ++
        ((datasetInfo p ⟨start, [], stop⟩).drop 5).map (line p) := by
    rw [← List.map_append, List.take_append_drop]
  -- the sixth line begins with the marker
  have hlast : ((datasetInfo p ⟨start, [], stop⟩).drop 5).map (line p) =
      line p ("Estimated peak reconstructed error", stop.get "peak_error") ::
        ((datasetInfo p ⟨start, [], stop⟩).drop 6).map (line p) := rfl
  have hmore : ((datasetInfo p ⟨start, [], stop⟩).drop 6).map (line p) ≠ [] :=
    List.cons_ne_nil _ _
  have hkey : "Estimated peak reconstructed error" = "Estimated peak" ++ " reconstructed error" := by
    decide
  rw [cborToRegularTextString_eq (plainEntries_datasetInfo hdoubles hdates h), hcut, hlast,
    intercalate_append (List.cons_ne_nil _ _), List.map_map,
    String.intercalate_cons_of_ne_nil hmore, line, hkey, String.append_assoc,
    String.append_assoc, String.append_assoc, String.append_assoc]
  exact ⟨_, rfl⟩

/-- **The text files read back as written**: every text file of a run of
`_formatData` is made from the info of a first record and a last record; if the
fields that the info is taken from are numbers, its lines are the eight entries
of the info in order, the value of each as it is printed, and the tab keeps
exactly the first five. -/
theorem dataset_text_reads_back (hdoubles : PrintsDoubles p) (hdates : PrintsDates p)
    {name text : String} (h : .text name text ∈ (formatData p sopepId records).finalState []) :
    (∃ start ∈ records, ∃ stop ∈ records,
      text = cborToRegularTextString p (datasetInfo p ⟨start, [], stop⟩)) ∧
    ∀ start stop, text = cborToRegularTextString p (datasetInfo p ⟨start, [], stop⟩) →
      NumberFields start stop →
      text.toList.splitOn '\n' =
        (datasetInfo p ⟨start, [], stop⟩).map (fun e => (line p e).toList) ∧
      withoutEstimates text = .ok (shownLines p (datasetInfo p ⟨start, [], stop⟩)) := by
  obtain ⟨start, hstart, stop, hstop, -, htext⟩ := formatData_text h
  refine ⟨⟨start, hstart, stop, hstop, htext⟩, fun start stop htext hnumbers => ⟨?_, ?_⟩⟩
  · rw [htext]
    exact splitOn_lines (plainEntries_datasetInfo hdoubles hdates hnumbers) (List.cons_ne_nil _ _)
  · obtain ⟨rest, hrest⟩ := datasetText_eq hdoubles hdates hnumbers
    rw [htext, hrest]
    refine withoutEstimates_append ?_
    rw [String.toList_append, String.toList_append, indexOf_marker hdoubles hdates hnumbers,
      String.length_toList]

end Text

lemma printsDoubles_sample : PrintsDoubles samplePlatform := by
  intro bits
  simp only [samplePlatform]
  split_ifs <;> simp [NumberCharacter]

lemma printsDates_sample : PrintsDates samplePlatform := by
  intro ms
  have hpattern : textPattern ≠ namePattern := by decide
  simp only [samplePlatform, if_neg hpattern]
  refine ⟨"Tue", by decide, "Nov", by decide, "14", "22", if ms = 1700000000000 then "13" else "14",
    "20", "2023", ?_, by decide, ?_⟩
  · split_ifs <;> decide
  · split_ifs <;> decide

lemma numberFields_sample : NumberFields (setInSession 3).first endSet := by
  refine ⟨?_, ?_, ?_, ?_, ?_, ?_⟩ <;> decide +kernel

/-- The text of a set of session 3. -/
theorem dataset_text_reads_back_sample :
    ((cborToRegularTextString samplePlatform
        (datasetInfo samplePlatform ⟨(setInSession 3).first, [], endSet⟩)).toList.splitOn
          '\n').length = 8 ∧
    withoutEstimates (cborToRegularTextString samplePlatform
        (datasetInfo samplePlatform ⟨(setInSession 3).first, [], endSet⟩)) =
      .ok ("Session=3\nSet=1\nStart Time=Tue Nov 14 22:13:20 2023\n" ++
        "End Time=Tue Nov 14 22:14:20 2023\nNum Samples=120\n") := by
  have hmem : .text (datasetName samplePlatform "00C0FFEE1234567" (setInSession 3))
      (cborToRegularTextString samplePlatform (datasetInfo samplePlatform (setInSession 3))) ∈
      (formatData samplePlatform "00C0FFEE1234567" ([] ++ (setInSession 3).first ::
        ((setInSession 3).inner ++ [(setInSession 3).last]))).finalState [] :=
    (text_mem_iff (by simp) (setInSession_isSet 3) (setInSession_savable 3)).mpr ⟨rfl, rfl⟩
  obtain ⟨hlines, hshown⟩ := (dataset_text_reads_back printsDoubles_sample printsDates_sample
    hmem).2 (setInSession 3).first endSet rfl numberFields_sample
  refine ⟨?_, ?_⟩
  · have hcount := congrArg List.length hlines
    rwa [List.length_map] at hcount
  · refine Eq.trans hshown ?_
    decide +kernel

end SopepApp.DatasetTab
