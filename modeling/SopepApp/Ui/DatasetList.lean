import SopepApp.Ui.DatasetTab

/-!
The list of the datasets tab: `_getListOfDatasets` of
`dataset_interaction_tab.dart` over the files of `file_storage.dart`.

* `Listing`, `FileStorage`: a listing of a directory, and what the reads of its
  files return;
* `getListOfDatasets`: the two loops, and the `setState` after them;
* `Listable`: the files that yield an item;
* `getListOfDatasets_of_forall`, `getListOfDatasets_of_exists`: the items are
  published if every text file is listable, and none is if one is not;
* `lists_datasets_iff`: the data sets are listed, each once, exactly when no
  other text file stands in the way.
-/

namespace SopepApp.DatasetTab

open Dart ReadData

/-! ### The files -/

/-- A listing of a directory: no path twice, and each in the directory. -/
structure Listing (directory : String) where
  paths : List String
  nodup : paths.Nodup
  inside : ∀ path ∈ paths, ∃ rest, path = directory ++ rest

/-- The storage: its directory, `null` on an unsupported platform and not to be
read before it is set; the listing of a directory; and, for each path, what the
read of its file returns when it is read. -/
structure FileStorage where
  appDirectory : Except Error (Option String)
  listSync : (directory : String) → Except Error (Listing directory)
  readAsString : String → Except Error String

/-- The directory listed by `getFileList`. -/
def directoryPath (appDirectory directoryName : String) : String :=
  appDirectory ++ "/" ++ directoryName ++ "/"

/-- `getFileList`, the entities by their paths. -/
def FileStorage.getFileList (fileStorage : FileStorage) (directoryName : String) :
    Except Error (Option (List String)) := do
  match ← fileStorage.appDirectory with
  | none => return none
  | some appDirectory =>
    let listing ← fileStorage.listSync (directoryPath appDirectory directoryName)
    return some listing.paths

def FileStorage.readTextFile (fileStorage : FileStorage) (filePath : String) :
    Except Error String := do
  match ← fileStorage.appDirectory with
  | none => return ""
  | some _ => fileStorage.readAsString filePath

/-! ### `_getListOfDatasets` -/

/-- `DatasetItem`: the title and the subtitle of an entry. -/
structure DatasetItem where
  deviceId : String
  info : String
  deriving DecidableEq

/-- The fields of the tab, and the items at the last `setState`. -/
structure Tab where
  mounted : Bool := true
  datasetItems : List DatasetItem := []
  published : Option (List DatasetItem) := none

/-- The first loop: the paths that end with `txt`. -/
def textFilesOf : List String → Except Error (List String)
  | [] => return []
  | path :: rest => do
    let ending ← substring path (path.length - 3) path.length
    let textFiles ← textFilesOf rest
    return if ending = "txt" then path :: textFiles else textFiles

/-- The item of a text file, in the second loop. -/
def datasetItem (fileStorage : FileStorage) (path : String) : Except Error DatasetItem := do
  let tempStr ← fileStorage.readTextFile path
  let tempStr ← withoutEstimates tempStr
  return ⟨"Device: " ++ (← deviceIdOf path), tempStr⟩

/-- The second loop. -/
def itemLoop (fileStorage : FileStorage) : List String → Effect Tab Unit
  | [] => pure ()
  | path :: rest => do
    let item ← Effect.lift (datasetItem fileStorage path)
    modify fun t => { t with datasetItems := t.datasetItems ++ [item] }
    itemLoop fileStorage rest

/-- `setState(() {})`. -/
def setState : Effect Tab Unit := do
  if (← get).mounted then
    modify fun t => { t with published := some t.datasetItems }
  else throw .unmounted

/-- `_getListOfDatasets`; the second loop goes from the last file to the first. -/
def getListOfDatasets (fileStorage : FileStorage) : Effect Tab Unit := do
  match ← Effect.lift (fileStorage.getFileList "datasets") with
  | none => pure ()
  | some textFilesTemp =>
    let textFiles ← Effect.lift (textFilesOf textFilesTemp)
    itemLoop fileStorage textFiles.reverse
    setState

variable {fileStorage : FileStorage} {path : String} {paths : List String}

/-! ### Which files yield an item -/

/-- A path that ends with `txt`. -/
def IsTextFile (path : String) : Prop := "txt".toList <:+ path.toList

instance : DecidablePred IsTextFile := fun path =>
  inferInstanceAs (Decidable ("txt".toList <:+ path.toList))

/-- The test of the first loop. -/
lemma last_eq_txt_iff :
    String.ofList (path.toList.drop (path.length - 3)) = "txt" ↔ IsTextFile path := by
  rw [← String.toList_inj, String.toList_ofList, IsTextFile, List.suffix_iff_eq_drop,
    String.length_toList, eq_comm]
  rfl

lemma textFilesOf_eq (h : ∀ path ∈ paths, 3 ≤ path.length) :
    textFilesOf paths = .ok (paths.filter IsTextFile) := by
  induction paths with
  | nil => rfl
  | cons path paths ih =>
      have hcut : substring path (path.length - 3) path.length =
          .ok (String.ofList (path.toList.drop (path.length - 3))) :=
        substring_last (h path List.mem_cons_self)
      have hrest := ih fun path' hpath => h path' (List.mem_cons_of_mem path hpath)
      rw [textFilesOf, hcut, hrest]
      by_cases htext : IsTextFile path
      · simp [bind, Except.bind, pure, Except.pure, last_eq_txt_iff, htext]
      · simp [bind, Except.bind, pure, Except.pure, last_eq_txt_iff, htext]

/-- A file that yields an item: its path is long enough for the cut, it can be
read, and its text contains the marker. -/
structure Listable (fileStorage : FileStorage) (path : String) : Prop where
  long : 49 ≤ path.length
  marked : ∃ text, fileStorage.readTextFile path = .ok text ∧
    "Estimated peak".toList <:+: text.toList

lemma withoutEstimates_isOk_iff {tempStr : String} :
    (∃ info, withoutEstimates tempStr = .ok info) ↔
      "Estimated peak".toList <:+: tempStr.toList := by
  have hle : indexOf "Estimated peak".toList tempStr.toList ≤ tempStr.length := by
    rw [← String.length_toList]
    exact indexOf_le_length
  rw [← indexOf_nonneg_iff, withoutEstimates]
  constructor
  · rintro ⟨info, h⟩
    exact (substring_eq_ok_iff.mp h).1.2.1
  · intro h
    exact ⟨String.ofList _, substring_eq_ok_iff.mpr ⟨⟨le_rfl, h, hle⟩, String.toList_ofList.symm⟩⟩

lemma deviceIdOf_isOk_iff : (∃ deviceId, deviceIdOf path = .ok deviceId) ↔ 49 ≤ path.length := by
  rw [deviceIdOf]
  constructor
  · rintro ⟨deviceId, h⟩
    have hinside := (substring_eq_ok_iff.mp h).1.1
    omega
  · intro h
    exact ⟨String.ofList _,
      substring_eq_ok_iff.mpr ⟨⟨by omega, by omega, by omega⟩, String.toList_ofList.symm⟩⟩

lemma listable_iff :
    Listable fileStorage path ↔ ∃ item, datasetItem fileStorage path = .ok item := by
  constructor
  · rintro ⟨hlong, text, hread, hmarked⟩
    obtain ⟨info, hinfo⟩ := withoutEstimates_isOk_iff.mpr hmarked
    obtain ⟨deviceId, hdevice⟩ := deviceIdOf_isOk_iff.mpr hlong
    refine ⟨⟨"Device: " ++ deviceId, info⟩, ?_⟩
    rw [datasetItem, hread]
    simp only [bind, Except.bind, hinfo, hdevice]
    rfl
  · rintro ⟨item, h⟩
    rw [datasetItem] at h
    obtain ⟨text, hread, h⟩ := bind_eq_ok.mp h
    obtain ⟨info, hinfo, h⟩ := bind_eq_ok.mp h
    obtain ⟨deviceId, hdevice, -⟩ := bind_eq_ok.mp h
    exact ⟨deviceIdOf_isOk_iff.mp ⟨deviceId, hdevice⟩, text, hread,
      withoutEstimates_isOk_iff.mp ⟨info, hinfo⟩⟩

/-! ### The loop over the text files -/

/-- The items of a list of files. -/
def ItemsOf (fileStorage : FileStorage) : List String → List DatasetItem → Prop :=
  List.Forall₂ fun path item => datasetItem fileStorage path = .ok item

lemma exists_itemsOf (h : ∀ path ∈ paths, Listable fileStorage path) :
    ∃ items, ItemsOf fileStorage paths items := by
  induction paths with
  | nil => exact ⟨[], .nil⟩
  | cons path paths ih =>
      obtain ⟨item, hitem⟩ := listable_iff.mp (h path List.mem_cons_self)
      obtain ⟨items, hitems⟩ := ih fun path' hpath => h path' (List.mem_cons_of_mem path hpath)
      exact ⟨item :: items, .cons hitem hitems⟩

/-- Files that all yield an item: the items are added in order. -/
lemma itemLoop_run {items : List DatasetItem} (h : ItemsOf fileStorage paths items) :
    ∀ t : Tab, (itemLoop fileStorage paths).run t =
      .ok () { t with datasetItems := t.datasetItems ++ items } := by
  induction h with
  | nil =>
      intro t
      rw [List.append_nil]
      rfl
  | cons hitem _ ih =>
      intro t
      rw [itemLoop, hitem, Effect.run_bind_of_ok (Effect.run_lift_ok _ _),
        Effect.run_bind_of_ok (EStateM.run_modify _ _), ih, List.append_assoc]
      rfl

/-- **One file that yields no item** ends the loop with an error, wherever it
stands; nothing has been published. -/
lemma itemLoop_error (hmem : path ∈ paths) (hbad : ¬ Listable fileStorage path) :
    ∀ t : Tab, ∃ e t', (itemLoop fileStorage paths).run t = .error e t' ∧
      t'.published = t.published := by
  induction paths with
  | nil => exact absurd hmem List.not_mem_nil
  | cons first paths ih =>
      intro t
      rw [itemLoop]
      cases hitem : datasetItem fileStorage first with
      | error e => exact ⟨e, t, rfl, rfl⟩
      | ok item =>
          have hne : path ≠ first := by
            rintro rfl
            exact hbad (listable_iff.mpr ⟨item, hitem⟩)
          obtain ⟨e, t', hrun, hpublished⟩ := ih ((List.mem_cons.mp hmem).resolve_left hne)
            { t with datasetItems := t.datasetItems ++ [item] }
          exact ⟨e, t', hrun, hpublished⟩

/-! ### The tab after the listing -/

/-- The text files of a listing, in the order of their items. -/
def Listing.textFiles {directory : String} (listing : Listing directory) : List String :=
  (listing.paths.filter IsTextFile).reverse

section Run

variable {appDirectory : String} {listing : Listing (directoryPath appDirectory "datasets")}

lemma Listing.mem_textFiles : path ∈ listing.textFiles ↔ path ∈ listing.paths ∧ IsTextFile path := by
  rw [Listing.textFiles, List.mem_reverse, List.mem_filter, decide_eq_true_iff]

lemma Listing.nodup_textFiles : listing.textFiles.Nodup :=
  List.nodup_reverse.mpr (listing.nodup.filter _)

/-- The paths of a listing are long enough for the first loop. -/
lemma Listing.three_le_length (hpath : path ∈ listing.paths) : 3 ≤ path.length := by
  obtain ⟨rest, rfl⟩ := listing.inside path hpath
  have hname : "datasets".length = 8 := by decide
  rw [directoryPath, String.length_append, String.length_append, String.length_append, hname]
  omega

/-- The second loop goes through the text files of the listing. -/
lemma getListOfDatasets_eq (happ : fileStorage.appDirectory = .ok (some appDirectory))
    (hlist : fileStorage.listSync (directoryPath appDirectory "datasets") = .ok listing) :
    getListOfDatasets fileStorage = (do
      itemLoop fileStorage listing.textFiles
      setState) := by
  have hpaths : fileStorage.getFileList "datasets" = .ok (some listing.paths) := by
    rw [FileStorage.getFileList, happ]
    simp only [bind, Except.bind, hlist]
    rfl
  have htexts := textFilesOf_eq fun path (hpath : path ∈ listing.paths) =>
    Listing.three_le_length hpath
  rw [getListOfDatasets, hpaths]
  change (Effect.lift (textFilesOf listing.paths) >>= fun textFiles => do
    itemLoop fileStorage textFiles.reverse
    setState) = _
  rw [htexts]
  rfl

/-- **Every text file listable**: the items of all of them are published. -/
lemma getListOfDatasets_of_forall (happ : fileStorage.appDirectory = .ok (some appDirectory))
    (hlist : fileStorage.listSync (directoryPath appDirectory "datasets") = .ok listing)
    (h : ∀ path ∈ listing.textFiles, Listable fileStorage path) :
    ∃ items, ItemsOf fileStorage listing.textFiles items ∧
      ((getListOfDatasets fileStorage).finalState {}).published = some items := by
  obtain ⟨items, hitems⟩ := exists_itemsOf h
  refine ⟨items, hitems, ?_⟩
  rw [getListOfDatasets_eq happ hlist, Effect.finalState_bind_of_ok (itemLoop_run hitems {})]
  rfl

/-- **One text file not listable**: nothing is published. -/
lemma getListOfDatasets_of_exists (happ : fileStorage.appDirectory = .ok (some appDirectory))
    (hlist : fileStorage.listSync (directoryPath appDirectory "datasets") = .ok listing)
    (hmem : path ∈ listing.textFiles) (hbad : ¬ Listable fileStorage path) (t : Tab) :
    ((getListOfDatasets fileStorage).finalState t).published = t.published := by
  obtain ⟨e, t', hrun, hpublished⟩ := itemLoop_error hmem hbad t
  rw [getListOfDatasets_eq happ hlist, Effect.finalState_bind_of_error hrun, hpublished]

/-- A tab that is gone publishes nothing. -/
lemma getListOfDatasets_of_not_mounted (happ : fileStorage.appDirectory = .ok (some appDirectory))
    (hlist : fileStorage.listSync (directoryPath appDirectory "datasets") = .ok listing) :
    ((getListOfDatasets fileStorage).finalState { mounted := false }).published = none := by
  by_cases h : ∀ path ∈ listing.textFiles, Listable fileStorage path
  · obtain ⟨items, hitems⟩ := exists_itemsOf h
    rw [getListOfDatasets_eq happ hlist,
      Effect.finalState_bind_of_ok (itemLoop_run hitems { mounted := false })]
    rfl
  · push Not at h
    obtain ⟨path, hmem, hbad⟩ := h
    exact getListOfDatasets_of_exists happ hlist hmem hbad _

end Run

/-! ### The data sets among the files -/

/-- The file of a data set, saved completely: its path is the one of a text file
of a run of `_formatData`, and the read returns the text of that file. -/
def SavedDataset (fileStorage : FileStorage) (appDirectory path : String) : Prop :=
  ∃ p sopepId records name text, .text name text ∈ (formatData p sopepId records).finalState [] ∧
    path = textFilePath appDirectory name ∧ fileStorage.readTextFile path = .ok text

/-- The data sets among the paths are listed: items are published, those of a
list of files in which each data set stands once. -/
def ListsDatasets (fileStorage : FileStorage) (appDirectory : String) (paths : List String)
    (t : Tab) : Prop :=
  ∃ listed items, t.published = some items ∧ ItemsOf fileStorage listed items ∧
    ∀ path ∈ paths, SavedDataset fileStorage appDirectory path → listed.count path = 1

section Datasets

variable {appDirectory : String} {listing : Listing (directoryPath appDirectory "datasets")}

lemma SavedDataset.isTextFile (h : SavedDataset fileStorage appDirectory path) :
    IsTextFile path := by
  obtain ⟨p, sopepId, records, name, text, -, rfl, -⟩ := h
  refine ⟨(appDirectory ++ "/" ++ name ++ ".").toList, ?_⟩
  simp [textFilePath]

/-- **The text of every data set contains the marker**: it is in a key. -/
lemma SavedDataset.marked (h : SavedDataset fileStorage appDirectory path) :
    ∃ text, fileStorage.readTextFile path = .ok text ∧
      "Estimated peak".toList <:+: text.toList := by
  obtain ⟨p, sopepId, records, name, text, hmem, -, hread⟩ := h
  refine ⟨text, hread, ?_⟩
  obtain ⟨start, -, stop, -, -, rfl⟩ := formatData_text hmem
  have hmarker : "Estimated peak".toList = 'E' :: "stimated peak".toList := by decide
  have hentry : ("Estimated peak reconstructed error", stop.get "peak_error") ∈
      datasetInfo p ⟨start, [], stop⟩ := by
    simp [datasetInfo]
  have hkey : 'E' :: "stimated peak".toList <:+: "Estimated peak reconstructed error".toList :=
    ⟨[], " reconstructed error".toList, by decide⟩
  rw [hmarker]
  exact infix_cborToRegularTextString hentry (by decide) (by decide) (by decide) hkey

/-- **The data sets are listed exactly when no other text file is in the way**:
the tab is still there when the last file has been read, no path of a text file
is too short for the cut of the device id, and every text file that is not a
data set saved completely can be read and contains the marker. -/
theorem lists_datasets_iff (happ : fileStorage.appDirectory = .ok (some appDirectory))
    (hlist : fileStorage.listSync (directoryPath appDirectory "datasets") = .ok listing)
    (mounted : Bool) :
    ListsDatasets fileStorage appDirectory listing.paths
        ((getListOfDatasets fileStorage).finalState { mounted := mounted }) ↔
      mounted = true ∧ ∀ path ∈ listing.paths, IsTextFile path → 49 ≤ path.length ∧
        (¬ SavedDataset fileStorage appDirectory path →
          ∃ text, fileStorage.readTextFile path = .ok text ∧
            "Estimated peak".toList <:+: text.toList) := by
  constructor
  · rintro ⟨listed, items, hpublished, -, -⟩
    have hmounted : mounted = true := by
      by_contra hgone
      rw [Bool.eq_false_iff.mpr hgone, getListOfDatasets_of_not_mounted happ hlist] at hpublished
      exact absurd hpublished (by simp)
    refine ⟨hmounted, fun path hpath htext => ?_⟩
    have hlistable : Listable fileStorage path := by
      by_contra hbad
      rw [getListOfDatasets_of_exists happ hlist (Listing.mem_textFiles.mpr ⟨hpath, htext⟩)
        hbad] at hpublished
      exact absurd hpublished (by simp)
    exact ⟨hlistable.long, fun _ => hlistable.marked⟩
  · rintro ⟨rfl, h⟩
    have hlistable : ∀ path ∈ listing.textFiles, Listable fileStorage path := by
      intro path hmem
      obtain ⟨hpath, htext⟩ := Listing.mem_textFiles.mp hmem
      obtain ⟨hlong, hother⟩ := h path hpath htext
      refine ⟨hlong, ?_⟩
      by_cases hsaved : SavedDataset fileStorage appDirectory path
      · exact hsaved.marked
      · exact hother hsaved
    obtain ⟨items, hitems, hpublished⟩ := getListOfDatasets_of_forall happ hlist hlistable
    refine ⟨listing.textFiles, items, hpublished, hitems, fun path hpath hsaved => ?_⟩
    exact List.count_eq_one_of_mem Listing.nodup_textFiles
      (Listing.mem_textFiles.mpr ⟨hpath, hsaved.isTextFile⟩)

end Datasets

/-! ### A data set that is not yet written -/

/-- The text of a data set of session 3. -/
def sampleText : String :=
  cborToRegularTextString samplePlatform (datasetInfo samplePlatform (setInSession 3))

/-- The path of its file. -/
def samplePath : String :=
  "/files/datasets/00C0FFEE1234567_SES3_SET1_2023_11_14_22_13_20.txt"

/-- A directory with that file and another one. -/
def sampleListing (other : String) (h : samplePath ≠ "/files/datasets/" ++ other) :
    Listing (directoryPath "/files" "datasets") where
  paths := [samplePath, "/files/datasets/" ++ other]
  nodup := by simpa using h
  inside := by
    intro path hpath
    rcases List.mem_cons.mp hpath with rfl | hpath
    · exact ⟨"00C0FFEE1234567_SES3_SET1_2023_11_14_22_13_20.txt", by decide⟩
    · exact ⟨other, by rw [List.mem_singleton.mp hpath]; rfl⟩

/-- The other file has no text yet. -/
def sampleStorage (listing : Listing (directoryPath "/files" "datasets")) : FileStorage where
  appDirectory := .ok (some "/files")
  listSync directory :=
    if h : directory = directoryPath "/files" "datasets" then .ok (h ▸ listing)
    else .error .stateError
  readAsString path := .ok (if path = samplePath then sampleText else "")

lemma listSync_sample (listing : Listing (directoryPath "/files" "datasets")) :
    (sampleStorage listing).listSync (directoryPath "/files" "datasets") = .ok listing := by
  simp [sampleStorage]

lemma savedDataset_sample (listing : Listing (directoryPath "/files" "datasets")) :
    SavedDataset (sampleStorage listing) "/files" samplePath := by
  have hmem : .text (datasetName samplePlatform "00C0FFEE1234567" (setInSession 3)) sampleText ∈
      (formatData samplePlatform "00C0FFEE1234567" ([] ++ (setInSession 3).first ::
        ((setInSession 3).inner ++ [(setInSession 3).last]))).finalState [] :=
    (text_mem_iff (by simp) (setInSession_isSet 3) (setInSession_savable 3)).mpr ⟨rfl, rfl⟩
  refine ⟨_, _, _, _, _, hmem, by decide +kernel, ?_⟩
  simp [sampleStorage, FileStorage.readTextFile, bind, Except.bind]

/-- A file that is no text file does no harm. -/
theorem lists_datasets_sample :
    ListsDatasets (sampleStorage (sampleListing "readme.md" (by decide))) "/files"
      (sampleListing "readme.md" (by decide)).paths
      ((getListOfDatasets (sampleStorage (sampleListing "readme.md" (by decide)))).finalState
        { mounted := true }) := by
  refine (lists_datasets_iff rfl (listSync_sample _) true).mpr ⟨rfl, fun path hpath htext => ?_⟩
  rcases List.mem_cons.mp hpath with rfl | hpath
  · exact ⟨by decide, fun hother => absurd (savedDataset_sample _) hother⟩
  · rw [List.mem_singleton.mp hpath] at htext
    exact absurd htext (by decide)

/-- The other file is that of a second data set. -/
def unwritten : Listing (directoryPath "/files" "datasets") :=
  sampleListing "00C0FFEE1234567_SES3_SET2_2023_11_14_22_20_00.txt" (by decide)

/-- A file without text is not listable. -/
lemma not_listable_sample (listing : Listing (directoryPath "/files" "datasets"))
    (hpath : path ≠ samplePath) : ¬ Listable (sampleStorage listing) path := by
  rintro ⟨-, text, hread, hmarked⟩
  have hempty : (sampleStorage listing).readTextFile path = .ok "" := by
    simp [sampleStorage, FileStorage.readTextFile, bind, Except.bind, hpath]
  obtain rfl : "" = text := Except.ok.inj (hempty.symm.trans hread)
  exact absurd (List.infix_nil.mp hmarked) (by decide)

/-- The file of the second data set, not yet written, hides the first. -/
theorem unwritten_file_hides_all : ¬ ∀ (fileStorage : FileStorage) (appDirectory : String)
    (listing : Listing (directoryPath appDirectory "datasets")),
    fileStorage.appDirectory = .ok (some appDirectory) →
    fileStorage.listSync (directoryPath appDirectory "datasets") = .ok listing →
    ListsDatasets fileStorage appDirectory listing.paths
      ((getListOfDatasets fileStorage).finalState {}) := by
  intro h
  obtain ⟨listed, items, hpublished, -⟩ :=
    h (sampleStorage unwritten) "/files" unwritten rfl (listSync_sample unwritten)
  have hmem : "/files/datasets/" ++ "00C0FFEE1234567_SES3_SET2_2023_11_14_22_20_00.txt" ∈
      unwritten.textFiles :=
    Listing.mem_textFiles.mpr ⟨List.mem_cons_of_mem _ (List.mem_singleton_self _), by decide⟩
  rw [getListOfDatasets_of_exists rfl (listSync_sample unwritten) hmem
    (not_listable_sample unwritten (by decide))] at hpublished
  exact absurd hpublished (by simp)

end SopepApp.DatasetTab
