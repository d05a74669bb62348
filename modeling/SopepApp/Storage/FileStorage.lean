import SopepApp.ReadData.DatasetText
import SopepApp.Storage.Disk
import SopepApp.Ui.DatasetTab

/-!
`FileStorage` of `file_storage.dart`: the writes that the app starts, and the
files of the data sets once they are done.

* `getAppDirectory`, `createDefaultDirectories`: the directory of the app;
* `writeTextFile`, `writeBinaryFile`, `writeDoublesCsvFile`: the write that a
  call starts; nothing awaits its end;
* `startedWrites`: the writes of the files that `_formatData` gives to the
  storage; `unsaved_without_directory`: there are none without a directory;
* `datasetName_eq_iff`: data sets of a device share a name if session, set and
  start time are printed alike;
* `saves_intact_iff`: whatever the order in which the writes proceed, every file
  of every data set ends intact, exactly if any two of them that share a name
  have the same files.
-/

namespace SopepApp.Storage

open Dart Disk ReadData Sections DatasetTab Transition

/-! ### The directory of the app -/

/-- `Platform.isAndroid`, `Platform.isIOS`. -/
inductive OperatingSystem where
  | android
  | iOS
  | other
  deriving DecidableEq

/-- The directories of `path_provider`. -/
structure PathProvider where
  externalStorageDirectory : Option String
  applicationDocumentsDirectory : String

/-- `getAppDirectory`. -/
def getAppDirectory (system : OperatingSystem) (provider : PathProvider) : Option String :=
  match system with
  | .android => provider.externalStorageDirectory
  | .iOS => some provider.applicationDocumentsDirectory
  | .other => none

/-- The field of `FileStorage`, not to be read before it is assigned, and the
directories created. -/
structure Directories where
  appDirectory : Except Error (Option String) := .error .lateInitialization
  created : List String := []

/-- `createDefaultDirectories`; a path that is null is printed as `null`. The
field is assigned once. -/
def createDefaultDirectories (system : OperatingSystem) (provider : PathProvider) :
    Effect Directories Unit := do
  let appDirectory := getAppDirectory system provider
  if (← get).appDirectory ≠ .error .lateInitialization then
    throw .lateInitialization
  modify fun f => { f with appDirectory := .ok appDirectory }
  for name in ["datasets", "logs", "firmware"] do
    modify fun f => { f with created := f.created ++ [appDirectory.getD "null" ++ "/" ++ name] }

/-! ### Writes -/

/-- A write of `File('${_appDirectory?.path}/$fileName.…')`. -/
def writeFile (appDirectory : Except Error (Option String)) (fileName extension : String)
    (bytes : List UInt8) : Except Error (Option (Write String UInt8)) := do
  match ← appDirectory with
  | none => return none
  | some path => return some ⟨path ++ "/" ++ fileName ++ extension, bytes⟩

/-- `writeTextFile`. -/
def writeTextFile (appDirectory : Except Error (Option String)) (fileName text : String) :=
  writeFile appDirectory fileName ".txt" (utf8 text)

/-- `writeBinaryFile`. -/
def writeBinaryFile (appDirectory : Except Error (Option String)) (fileName : String)
    (bytes : List UInt8) :=
  writeFile appDirectory fileName ".bin" bytes

/-- `writeDoublesCsvFile`; `convert` is that of `ListToCsvConverter` on rows of
one double each. -/
def writeDoublesCsvFile (convert : List UInt32 → String)
    (appDirectory : Except Error (Option String)) (fileName : String) (doubles : List UInt32) :=
  writeFile appDirectory fileName ".csv" (utf8 (convert doubles))

/-- The call for a file. -/
def save (convert : List UInt32 → String) (appDirectory : Except Error (Option String)) :
    SavedFile → Except Error (Option (Write String UInt8))
  | .text fileName text => writeTextFile appDirectory fileName text
  | .binary fileName bytes => writeBinaryFile appDirectory fileName bytes
  | .doublesCsv fileName doubles => writeDoublesCsvFile convert appDirectory fileName doubles

/-- The writes that calls start; nothing is done about a call that throws. -/
def startedWrites (convert : List UInt32 → String) (appDirectory : Except Error (Option String))
    (files : List SavedFile) : List (Write String UInt8) :=
  files.filterMap fun file => (save convert appDirectory file).toOption.join

/-- The name of a file and its extension. -/
def nameOf : SavedFile → String × String
  | .text fileName _ => (fileName, ".txt")
  | .binary fileName _ => (fileName, ".bin")
  | .doublesCsv fileName _ => (fileName, ".csv")

/-- The path of a file. -/
def pathOf (appDirectory : String) (file : SavedFile) : String :=
  appDirectory ++ "/" ++ (nameOf file).1 ++ (nameOf file).2

/-- The bytes of a file. -/
def bytesOf (convert : List UInt32 → String) : SavedFile → List UInt8
  | .text _ text => utf8 text
  | .binary _ bytes => bytes
  | .doublesCsv _ doubles => utf8 (convert doubles)

variable {convert : List UInt32 → String} {appDirectory : String} {p : Platform} {sopepId : String}
  {files : List SavedFile}

/-- The write of a file in the directory of the app. -/
def writeOf (convert : List UInt32 → String) (appDirectory : String) (file : SavedFile) :
    Write String UInt8 :=
  ⟨pathOf appDirectory file, bytesOf convert file⟩

/-- In the directory of the app every call starts its write. -/
lemma startedWrites_eq (convert : List UInt32 → String) (appDirectory : String)
    (files : List SavedFile) :
    startedWrites convert (.ok (some appDirectory)) files =
      files.map (writeOf convert appDirectory) := by
  rw [startedWrites, ← List.filterMap_eq_map]
  refine List.filterMap_congr fun file _ => ?_
  cases file <;> rfl

/-- Without a directory none does. -/
lemma startedWrites_eq_nil {appDirectory : Except Error (Option String)}
    (h : ∀ path, appDirectory ≠ .ok (some path)) (files : List SavedFile) :
    startedWrites convert appDirectory files = [] := by
  rw [startedWrites, List.filterMap_eq_nil_iff]
  intro file _
  match appDirectory, h with
  | .error e, _ => cases file <;> rfl
  | .ok none, _ => cases file <;> rfl
  | .ok (some path), h => exact absurd rfl (h path)

/-- The field after the directories have been created. -/
lemma appDirectory_default (system : OperatingSystem) (provider : PathProvider) :
    ((createDefaultDirectories system provider).finalState {}).appDirectory =
      .ok (getAppDirectory system provider) := by
  simp [createDefaultDirectories]

/-- **Without a directory nothing is saved**: before the directories have been
created, and for good on a system that gives the app none, no call starts a
write. -/
theorem unsaved_without_directory {system : OperatingSystem} {provider : PathProvider}
    (files : List SavedFile) :
    startedWrites convert ({} : Directories).appDirectory files = [] ∧
      (getAppDirectory system provider = none →
        startedWrites convert
          ((createDefaultDirectories system provider).finalState {}).appDirectory files = []) := by
  refine ⟨startedWrites_eq_nil (fun path hpath => by cases hpath) files, fun hnone => ?_⟩
  rw [appDirectory_default, hnone]
  exact startedWrites_eq_nil (fun path hpath => by cases hpath) files

/-! ### Names of data sets -/

/-- What a name tells apart: session, set and start time, as they are printed. -/
def label (p : Platform) (c : Section DataMap) : String × String × String :=
  ((c.first.get "session").toText p, (c.first.get "set").toText p, timeText p namePattern c.first)

/-- Two texts without a mark, up to their first mark. -/
lemma append_mark_inj {mark : Char} {xs ys xs' ys' : List Char} (hxs : mark ∉ xs) (hys : mark ∉ ys) :
    xs ++ mark :: xs' = ys ++ mark :: ys' ↔ xs = ys ∧ xs' = ys' := by
  constructor
  · intro h
    have htake := congrArg (List.takeWhile fun c => decide (c ≠ mark)) h
    have hkeep : ∀ zs : List Char, mark ∉ zs → ∀ rest,
        (zs ++ mark :: rest).takeWhile (fun c => decide (c ≠ mark)) = zs := by
      intro zs hzs rest
      rw [List.takeWhile_append_of_pos]
      · simp
      · exact fun c hc => decide_eq_true (ne_of_mem_of_not_mem hc hzs)
    rw [hkeep xs hxs, hkeep ys hys] at htake
    subst htake
    exact ⟨rfl, (List.cons.inj (List.append_cancel_left h)).2⟩
  · rintro ⟨rfl, rfl⟩
    rfl

lemma datasetName_toList (p : Platform) (sopepId : String) (c : Section DataMap) :
    (datasetName p sopepId c).toList = ("datasets/" ++ sopepId ++ "_SES").toList ++
      ((label p c).1.toList ++ '_' :: ("SET".toList ++
        ((label p c).2.1.toList ++ '_' :: (label p c).2.2.toList))) := by
  rw [datasetName, label]
  simp

/-- **Data sets share a name** if their session, their set and their start are
printed alike. -/
lemma datasetName_eq_iff (hdoubles : PrintsDoubles p) {c c' : Section DataMap}
    (hc : IsNumber (c.first.get "session") ∧ IsNumber (c.first.get "set"))
    (hc' : IsNumber (c'.first.get "session") ∧ IsNumber (c'.first.get "set")) :
    datasetName p sopepId c = datasetName p sopepId c' ↔ label p c = label p c' := by
  have hmark : ∀ v : Value, IsNumber v → '_' ∉ (v.toText p).toList := by
    intro v hv hmem
    exact (numberCharacter_of_isNumber hdoubles hv _ hmem).ne (by decide) rfl
  have hses : '_' ∉ (label p c).1.toList ∧ '_' ∉ (label p c').1.toList :=
    ⟨hmark _ hc.1, hmark _ hc'.1⟩
  have hset : '_' ∉ (label p c).2.1.toList ∧ '_' ∉ (label p c').2.1.toList :=
    ⟨hmark _ hc.2, hmark _ hc'.2⟩
  rw [← String.toList_inj, datasetName_toList, datasetName_toList, List.append_cancel_left_eq,
    append_mark_inj hses.1 hses.2, List.append_cancel_left_eq, append_mark_inj hset.1 hset.2,
    String.toList_inj, String.toList_inj, String.toList_inj, Prod.ext_iff, Prod.ext_iff]

/-! ### The files after the writes -/

/-- Paths tell names and extensions apart. -/
lemma pathOf_inj {file file' : SavedFile} :
    pathOf appDirectory file = pathOf appDirectory file' ↔ nameOf file = nameOf file' := by
  have hlength : ∀ file : SavedFile, (nameOf file).2.toList.length = 4 := by
    intro file
    cases file with
    | text fileName text => exact (by decide : ".txt".toList.length = 4)
    | binary fileName bytes => exact (by decide : ".bin".toList.length = 4)
    | doublesCsv fileName doubles => exact (by decide : ".csv".toList.length = 4)
  constructor
  · intro h
    have hlist := congrArg String.toList h
    simp only [pathOf, String.toList_append] at hlist
    obtain ⟨hname, hextension⟩ := List.append_inj' hlist (by rw [hlength, hlength])
    exact Prod.ext (String.toList_inj.mp (List.append_cancel_left hname))
      (String.toList_inj.mp hextension)
  · intro h
    rw [pathOf, pathOf, h]

/-- The names of the files of a set. -/
lemma nameOf_of_mem {c : Section DataMap} {file : SavedFile}
    (h : file ∈ datasetFiles p sopepId c) : (nameOf file).1 = datasetName p sopepId c := by
  rw [datasetFiles] at h
  split_ifs at h
  · simp only [List.append_nil, List.mem_cons, List.not_mem_nil, or_false] at h
    rcases h with rfl | rfl <;> rfl
  · simp only [List.cons_append, List.nil_append, List.mem_cons, List.not_mem_nil, or_false] at h
    rcases h with rfl | rfl | rfl <;> rfl

/-- A file that holds what was saved in it. -/
def Intact (convert : List UInt32 → String) (appDirectory : String) (d : Files String UInt8)
    (file : SavedFile) : Prop :=
  d (pathOf appDirectory file) = some (bytesOf convert file)

/-- The text file of a set, the first of its files. -/
def textOf (p : Platform) (sopepId : String) (c : Section DataMap) : SavedFile :=
  .text (datasetName p sopepId c) (cborToRegularTextString p (datasetInfo p c))

lemma textOf_mem (p : Platform) (sopepId : String) (c : Section DataMap) :
    textOf p sopepId c ∈ datasetFiles p sopepId c := List.mem_cons_self

/-- Two sets put the same contents into the files that they share: the texts, the bytes,
and the numbers if both have some. -/
structure SameFiles (convert : List UInt32 → String) (p : Platform) (c c' : Section DataMap) :
    Prop where
  text : cborToRegularTextString p (datasetInfo p c) = cborToRegularTextString p (datasetInfo p c')
  binary : ReadData.payload "Pressure" c.inner = ReadData.payload "Pressure" c'.inner
  doublesCsv : ReadData.payload "Raw Pressure" c.inner ≠ [] →
    ReadData.payload "Raw Pressure" c'.inner ≠ [] →
    convert (floats (ReadData.payload "Raw Pressure" c.inner)) =
      convert (floats (ReadData.payload "Raw Pressure" c'.inner))

lemma SameFiles.refl (convert : List UInt32 → String) (p : Platform) (c : Section DataMap) :
    SameFiles convert p c c :=
  ⟨rfl, rfl, fun _ _ => rfl⟩

lemma utf8_inj {s s' : String} : utf8 s = utf8 s' ↔ s = s' := by
  refine ⟨fun h => ?_, congrArg utf8⟩
  have hread := ofUtf8_utf8 s
  rw [h, ofUtf8_utf8] at hread
  exact (Option.some.inj hread).symm

/-- The files of a set. -/
lemma mem_datasetFiles {c : Section DataMap} {file : SavedFile} :
    file ∈ datasetFiles p sopepId c ↔ file = textOf p sopepId c ∨
      file = .binary (datasetName p sopepId c) (ReadData.payload "Pressure" c.inner) ∨
      ReadData.payload "Raw Pressure" c.inner ≠ [] ∧
        file = .doublesCsv (datasetName p sopepId c)
          (floats (ReadData.payload "Raw Pressure" c.inner)) := by
  rw [datasetFiles, textOf]
  split_ifs with hraw
  · simp [hraw]
  · simp [hraw]

/-- The files of two sets agree by their extensions. -/
lemma sameFiles_iff {c c' : Section DataMap} :
    (∀ file ∈ datasetFiles p sopepId c, ∀ file' ∈ datasetFiles p sopepId c',
        (nameOf file).2 = (nameOf file').2 → bytesOf convert file = bytesOf convert file') ↔
      SameFiles convert p c c' := by
  constructor
  · intro h
    refine ⟨?_, ?_, fun hraw hraw' => ?_⟩
    · have hsame := h _ (textOf_mem p sopepId c) _ (textOf_mem p sopepId c') rfl
      exact utf8_inj.mp hsame
    · have hmem : ∀ c, .binary (datasetName p sopepId c) (ReadData.payload "Pressure" c.inner) ∈
          datasetFiles p sopepId c := fun c => mem_datasetFiles.mpr (Or.inr (Or.inl rfl))
      exact h _ (hmem c) _ (hmem c') rfl
    · have hmem : ∀ c, ReadData.payload "Raw Pressure" c.inner ≠ [] →
          .doublesCsv (datasetName p sopepId c)
            (floats (ReadData.payload "Raw Pressure" c.inner)) ∈ datasetFiles p sopepId c :=
        fun c hc => mem_datasetFiles.mpr (Or.inr (Or.inr ⟨hc, rfl⟩))
      have hsame := h _ (hmem c hraw) _ (hmem c' hraw') rfl
      exact utf8_inj.mp hsame
  · rintro ⟨htext, hbinary, hcsv⟩ file hfile file' hfile' hextension
    rcases mem_datasetFiles.mp hfile with rfl | rfl | ⟨hraw, rfl⟩ <;>
      rcases mem_datasetFiles.mp hfile' with rfl | rfl | ⟨hraw', rfl⟩
    · exact congrArg utf8 htext
    · exact absurd hextension (by simp [nameOf, textOf])
    · exact absurd hextension (by simp [nameOf, textOf])
    · exact absurd hextension (by simp [nameOf, textOf])
    · exact hbinary
    · exact absurd hextension (by simp [nameOf])
    · exact absurd hextension (by simp [nameOf, textOf])
    · exact absurd hextension (by simp [nameOf])
    · exact congrArg utf8 (hcsv hraw hraw')

/-- The writes of data sets agree exactly if sets of one name have the same files. -/
lemma agree_iff {cs : List (Section DataMap)} :
    (∀ a ∈ (cs.flatMap (datasetFiles p sopepId)).map (writeOf convert appDirectory),
      ∀ b ∈ (cs.flatMap (datasetFiles p sopepId)).map (writeOf convert appDirectory),
        a.path = b.path → a.content = b.content) ↔
      ∀ c ∈ cs, ∀ c' ∈ cs, datasetName p sopepId c = datasetName p sopepId c' →
        SameFiles convert p c c' := by
  simp only [List.forall_mem_map, List.mem_flatMap, forall_exists_index, and_imp]
  constructor
  · intro h c hc c' hc' hname
    have hsame : ∀ file ∈ datasetFiles p sopepId c, ∀ file' ∈ datasetFiles p sopepId c',
        (nameOf file).2 = (nameOf file').2 → bytesOf convert file = bytesOf convert file' := by
      intro file hfile file' hfile' hextension
      refine h file c hc hfile file' c' hc' hfile' (pathOf_inj.mpr (Prod.ext ?_ hextension))
      rw [nameOf_of_mem hfile, nameOf_of_mem hfile', hname]
    exact sameFiles_iff.mp hsame
  · intro h file c hc hfile file' c' hc' hfile' hpath
    have hnames := pathOf_inj.mp hpath
    have hname := congrArg Prod.fst hnames
    rw [nameOf_of_mem hfile, nameOf_of_mem hfile'] at hname
    exact sameFiles_iff.mpr (h c hc c' hc' hname) file hfile file' hfile' (congrArg Prod.snd hnames)

/-- **Saves are intact exactly if shared names hold the same**: in the directory of the
app the files of the data sets of a device are written in whatever order, in pieces and
at the same time; each ends with the content it was given, in every such order, if and
only if any two data sets that agree in session, set and start time, as they are
printed, have the same text, the same bytes and, if both have some, the same numbers. -/
theorem saves_intact_iff (hdoubles : PrintsDoubles p) {system : OperatingSystem}
    {provider : PathProvider} (hdirectory : getAppDirectory system provider = some appDirectory)
    {cs : List (Section DataMap)}
    (hnumbers : ∀ c ∈ cs, IsNumber (c.first.get "session") ∧ IsNumber (c.first.get "set")) :
    (∀ ops, Interleaved (startedWrites convert
        ((createDefaultDirectories system provider).finalState {}).appDirectory
        (cs.flatMap (datasetFiles p sopepId))) ops →
      ∀ (d : Files String UInt8), ∀ c ∈ cs, ∀ file ∈ datasetFiles p sopepId c,
        Intact convert appDirectory (run step d ops) file) ↔
      ∀ c ∈ cs, ∀ c' ∈ cs, label p c = label p c' → SameFiles convert p c c' := by
  have hnames : (∀ c ∈ cs, ∀ c' ∈ cs, label p c = label p c' → SameFiles convert p c c') ↔
      ∀ c ∈ cs, ∀ c' ∈ cs, datasetName p sopepId c = datasetName p sopepId c' →
        SameFiles convert p c c' :=
    forall₂_congr fun c hc => forall₂_congr fun c' hc' =>
      imp_congr_left (datasetName_eq_iff hdoubles (hnumbers c hc) (hnumbers c' hc')).symm
  rw [appDirectory_default, hdirectory, startedWrites_eq, hnames, ← agree_iff, ← intact_iff_agree]
  refine forall₃_congr fun ops _ d => ?_
  simp only [List.forall_mem_map, List.mem_flatMap, forall_exists_index, and_imp]
  exact ⟨fun h file c hc hfile => h c hc file hfile, fun h c hc file hfile => h file c hc hfile⟩

/-- Two sets in different sessions, the first of them saved twice. -/
theorem saves_intact_sample :
    (∀ ops, Interleaved (startedWrites (fun _ => "")
        ((createDefaultDirectories .android ⟨some "/files", ""⟩).finalState {}).appDirectory
        ([setInSession 3, setInSession 4, setInSession 3].flatMap
          (datasetFiles samplePlatform "00C0FFEE1234567"))) ops →
      ∀ (d : Files String UInt8), ∀ c ∈ [setInSession 3, setInSession 4, setInSession 3],
        ∀ file ∈ datasetFiles samplePlatform "00C0FFEE1234567" c,
          Intact (fun _ => "") "/files" (run step d ops) file) ↔
      ∀ c ∈ [setInSession 3, setInSession 4, setInSession 3],
        ∀ c' ∈ [setInSession 3, setInSession 4, setInSession 3],
          label samplePlatform c = label samplePlatform c' →
            SameFiles (fun _ => "") samplePlatform c c' := by
  refine saves_intact_iff printsDoubles_sample rfl ?_
  simp only [List.forall_mem_cons]
  exact ⟨by decide +kernel, by decide +kernel, by decide +kernel, by simp⟩

end SopepApp.Storage
