import SopepApp.Codec.Message
import SopepApp.Framing.Sections

/-!
`_formatData` of `sopep_readdata_dialog.dart`: the records of a data set
formatted and saved.

* `Formatting`: the local variables of `_formatData` and the files it saves;
* `formatData`: its loop over the records;
* `datasetFiles`: the files of a set, from its first record, its last and what
  stands between;
* `WellFormed`, `Savable`: what `_formatData` requires of a record and of a set;
* `formatData_section`: on a buffer that ends with a savable set, the files of
  that set are saved and no others;
* `formatData_error`: on a buffer whose first set is not savable it throws.
-/

namespace SopepApp.ReadData

open Dart Sections

/-- What is given to `FileStorage`: a text file, a binary file, a CSV file of
doubles. A double is given by the bits of the 32-bit float it is read from. -/
inductive SavedFile where
  | text (fileName : String) (text : String)
  | binary (fileName : String) (bytes : List UInt8)
  | doublesCsv (fileName : String) (doubles : List UInt32)
  deriving DecidableEq, Repr

/-! ### Texts -/

/-- `replaceAll` of a pattern of two characters by one character. -/
def replaceAll (a b c : Char) : List Char → List Char
  | x :: y :: rest =>
    if x = a ∧ y = b then c :: replaceAll a b c rest else x :: replaceAll a b c (y :: rest)
  | [x] => [x]
  | [] => []

/-- `'$map'` for a map with string keys. -/
def mapText (p : Platform) (entries : List (String × Value)) : String :=
  "\x7b" ++ ", ".intercalate (entries.map fun e => e.1 ++ ": " ++ e.2.toText p) ++ "\x7d"

/-- `cborToRegularTextString` of `utils.dart`. -/
def cborToRegularTextString (p : Platform) (cbor : List (String × Value)) : String :=
  let cborStr := (mapText p cbor).toList
  let cborStr := (cborStr.drop 1).dropLast
  let cborStr := replaceAll ',' ' ' '\n' cborStr
  let cborStr := replaceAll ':' ' ' '=' cborStr
  String.ofList cborStr

example : cborToRegularTextString ⟨fun _ => "0.5", fun _ _ => ""⟩
    [("Session", .int 3), ("Start Time", .string "Tue Nov 14 22:13:20 2023")] =
      "Session=3\nStart Time=Tue Nov 14 22:13:20 2023" := by
  decide +kernel

/-- `DateTime.fromMillisecondsSinceEpoch`: a hundred million days around the
epoch, as the milliseconds themselves. -/
def fromMillisecondsSinceEpoch (ms : ℤ) : Except Error ℤ :=
  if ms.natAbs ≤ 8640000000000000 then .ok ms else .error .rangeError

/-- `DateFormat(pattern).format(…)` of the time stamp of a record, in seconds. -/
def formatTimestamp (p : Platform) (pattern : String) (record : DataMap) :
    Except Error String := do
  let seconds ← (← (record.get "timestamp").nullCheck).asInt
  return p.formatDate pattern (← fromMillisecondsSinceEpoch (int64 (seconds * 1000)))

/-- The pattern of the times in the text file. -/
def textPattern : String := "EEE MMM dd HH:mm:ss yyyy"

/-- The pattern of the time in a file name. -/
def namePattern : String := "yyyy_MM_dd_HH_mm_ss"

/-! ### `_formatData` -/

/-- The local variables of `_formatData`, and the files given to the storage. -/
structure Formatting where
  indexStart : ℤ := -1
  indexEnd : ℤ := -1
  pressureDataInfo : List (String × Value) := []
  binaryData : List UInt8 := []
  binaryDataRaw : List UInt8 := []
  rawData : List UInt32 := []
  files : List SavedFile := []
  deriving DecidableEq

/-- `map[key] = value`: a key keeps its place in the map. -/
def assign (key : String) (value : Value) : List (String × Value) → List (String × Value)
  | [] => [(key, value)]
  | e :: rest => if e.1 = key then (key, value) :: rest else e :: assign key value rest

/-- `pressureDataInfo[key] = value`. -/
def setInfo (key : String) (value : Value) : Effect Formatting Unit :=
  modify fun l => { l with pressureDataInfo := assign key value l.pressureDataInfo }

/-- The first part of a save: the text of the info. -/
def collectInfo (p : Platform) (start stop : DataMap) : Effect Formatting Unit := do
  setInfo "Session" (← Effect.lift (start.get "session").nullCheck)
  setInfo "Set" (← Effect.lift (start.get "set").nullCheck)
  setInfo "Start Time" (.string (← Effect.lift (formatTimestamp p textPattern start)))
  setInfo "End Time" (.string (← Effect.lift (formatTimestamp p textPattern stop)))
  setInfo "Num Samples" (← Effect.lift (stop.get "n_samples").nullCheck)
  setInfo "Estimated peak reconstructed error" (← Effect.lift (stop.get "peak_error").nullCheck)
  setInfo "Estimated RMS reconstructed error" (← Effect.lift (stop.get "rms_error").nullCheck)
  setInfo "Estimated compression ratio" (← Effect.lift (stop.get "compression_ratio").nullCheck)

/-- The payload of a record between the first and the last of a set. -/
def collectPayload (record : DataMap) : Effect Formatting Unit := do
  let type ← Effect.lift (record.get "type").nullCheck
  if type = .string "Pressure" then
    let data ← Effect.lift (← Effect.lift (record.get "data").nullCheck).asBytes
    modify fun l => { l with binaryData := l.binaryData ++ data }
  else if type = .string "Raw Pressure" then
    let data ← Effect.lift (← Effect.lift (record.get "data").nullCheck).asBytes
    modify fun l => { l with binaryDataRaw := l.binaryDataRaw ++ data }

/-- The loop over the records between two indices, `n` of them to go from
index `i`. -/
def payloadLoop (pressureDataRaw : List DataMap) : ℕ → ℤ → Effect Formatting Unit
  | 0, _ => pure ()
  | n + 1, i => do
    collectPayload (← Effect.lift (elementAt pressureDataRaw i))
    payloadLoop pressureDataRaw n (i + 1)

/-- `byteData.getFloat32(0, Endian.little)`, as its bits. -/
def getFloat32 (bytes : List UInt8) : UInt32 :=
  UInt32.ofNat (bytes.foldr (fun b n => b.toNat + 256 * n) 0)

/-- The loop that reads floats, `n` of them to go from index `i`. -/
def floatLoop (binaryDataRaw : List UInt8) : ℕ → ℤ → Effect Formatting Unit
  | 0, _ => pure ()
  | n + 1, i => do
    let bytes ← Effect.lift (getRange binaryDataRaw i (i + 4))
    modify fun l => { l with rawData := l.rawData ++ [getFloat32 bytes] }
    floatLoop binaryDataRaw n (i + 4)

/-- `pressureDataInfo[key]` in a string interpolation. -/
def infoText (p : Platform) (info : List (String × Value)) (key : String) : String :=
  match info.find? fun e => e.1 = key with
  | some e => e.2.toText p
  | none => "null"

/-- The floats of the raw bytes, if there are any. -/
def readFloats : Effect Formatting Unit := do
  let raw := (← get).binaryDataRaw
  if raw ≠ [] then
    floatLoop raw ((raw.length + 3) / 4) 0

/-- The files of a set are given to the storage. -/
def writeFiles (p : Platform) (sopepId : String) (start : DataMap) : Effect Formatting Unit := do
  let l ← get
  let date ← Effect.lift (formatTimestamp p namePattern start)
  let fileName := "datasets/" ++ sopepId ++ "_SES" ++ infoText p l.pressureDataInfo "Session" ++
    "_SET" ++ infoText p l.pressureDataInfo "Set" ++ "_" ++ date
  modify fun l => { l with
    files := l.files ++ [.text fileName (cborToRegularTextString p l.pressureDataInfo)] }
  modify fun l => { l with files := l.files ++ [.binary fileName l.binaryData] }
  if l.rawData ≠ [] then
    modify fun l => { l with files := l.files ++ [.doublesCsv fileName l.rawData] }

/-- What a valid range of records leads to. -/
def saveDataset (p : Platform) (sopepId : String) (pressureDataRaw : List DataMap) :
    Effect Formatting Unit := do
  let l ← get
  let start ← Effect.lift (elementAt pressureDataRaw l.indexStart)
  let stop ← Effect.lift (elementAt pressureDataRaw l.indexEnd)
  collectInfo p start stop
  payloadLoop pressureDataRaw (l.indexEnd - (l.indexStart + 1)).toNat (l.indexStart + 1)
  readFloats
  writeFiles p sopepId start

/-- `record['type'] == 'Start set'`. -/
def isStart (record : DataMap) : Bool := record.get "type" = .string "Start set"

/-- `record['type'] == 'End set'`. -/
def isEnd (record : DataMap) : Bool := record.get "type" = .string "End set"

/-- The body of the loop of `_formatData`. -/
def formatRecord (p : Platform) (sopepId : String) (pressureDataRaw : List DataMap)
    (record : DataMap) (i : ℕ) : Effect Formatting Unit := do
  if isStart record then
    modify fun l => { l with indexStart := i }
  else if (← get).indexStart ≥ 0 ∧ isEnd record then
    modify fun l => { l with indexEnd := i }
  let l ← get
  if l.indexStart ≥ 0 ∧ l.indexEnd > 0 then
    saveDataset p sopepId pressureDataRaw

/-- The loop of `_formatData` from index `i` on. -/
def formatLoop (p : Platform) (sopepId : String) (pressureDataRaw : List DataMap) :
    List DataMap → ℕ → Effect Formatting Unit
  | [], _ => pure ()
  | record :: rest, i => do
    formatRecord p sopepId pressureDataRaw record i
    formatLoop p sopepId pressureDataRaw rest (i + 1)

/-- `_formatData`: the files it gives to the storage, and the error it may end
with. -/
def formatData (p : Platform) (sopepId : String) (pressureDataRaw : List DataMap) :
    Effect (List SavedFile) Unit := fun files =>
  match (formatLoop p sopepId pressureDataRaw pressureDataRaw 0).run { files := files } with
  | .ok _ l => .ok () l.files
  | .error e l => .error e l.files

/-! ### The files of a set -/

/-- The bytes of a record. -/
def dataBytes (record : DataMap) : List UInt8 :=
  match record.get "data" with
  | .bytes bs => bs
  | _ => []

/-- The bytes of the records of one type, in order. -/
def payload (type : String) (records : List DataMap) : List UInt8 :=
  records.flatMap fun record => if record.get "type" = .string type then dataBytes record else []

/-- Little-endian 32-bit floats. -/
def floats : List UInt8 → List UInt32
  | b0 :: b1 :: b2 :: b3 :: rest => getFloat32 [b0, b1, b2, b3] :: floats rest
  | _ => []

/-- The time of a record under a pattern. -/
def timeText (p : Platform) (pattern : String) (record : DataMap) : String :=
  match formatTimestamp p pattern record with
  | .ok text => text
  | .error _ => ""

/-- The info of a set: from its first record and its last. -/
def datasetInfo (p : Platform) (c : Section DataMap) : List (String × Value) :=
  [("Session", c.first.get "session"), ("Set", c.first.get "set"),
    ("Start Time", .string (timeText p textPattern c.first)),
    ("End Time", .string (timeText p textPattern c.last)),
    ("Num Samples", c.last.get "n_samples"),
    ("Estimated peak reconstructed error", c.last.get "peak_error"),
    ("Estimated RMS reconstructed error", c.last.get "rms_error"),
    ("Estimated compression ratio", c.last.get "compression_ratio")]

/-- The name of the files of a set, without the extension. -/
def datasetName (p : Platform) (sopepId : String) (c : Section DataMap) : String :=
  "datasets/" ++ sopepId ++ "_SES" ++ (c.first.get "session").toText p ++
    "_SET" ++ (c.first.get "set").toText p ++ "_" ++ timeText p namePattern c.first

/-- **The files of a set**: its info as text, the bytes of the Pressure records
between its first record and its last, and the floats of the Raw Pressure
records, if there are any. -/
def datasetFiles (p : Platform) (sopepId : String) (c : Section DataMap) : List SavedFile :=
  [.text (datasetName p sopepId c) (cborToRegularTextString p (datasetInfo p c)),
    .binary (datasetName p sopepId c) (payload "Pressure" c.inner)] ++
  if payload "Raw Pressure" c.inner = [] then []
  else [.doublesCsv (datasetName p sopepId c) (floats (payload "Raw Pressure" c.inner))]

/-! ### Well-formed records -/

/-- A time stamp in the range of `DateTime`. -/
def HasTimestamp (record : DataMap) : Prop :=
  ∃ seconds ∈ (record.get "timestamp").asInt.toOption,
    (int64 (seconds * 1000)).natAbs ≤ 8640000000000000

instance (record : DataMap) : Decidable (HasTimestamp record) := by
  unfold HasTimestamp
  infer_instance

/-- A record with the fields that its type requires. -/
structure WellFormed (record : DataMap) : Prop where
  type_ne_null : record.get "type" ≠ .null
  start_set : isStart record = true → record.get "session" ≠ .null ∧ record.get "set" ≠ .null ∧
    HasTimestamp record
  end_set : isEnd record = true → HasTimestamp record ∧ record.get "n_samples" ≠ .null ∧
    record.get "peak_error" ≠ .null ∧ record.get "rms_error" ≠ .null ∧
    record.get "compression_ratio" ≠ .null
  data : record.get "type" = .string "Pressure" ∨ record.get "type" = .string "Raw Pressure" →
    (record.get "data").asBytes.toOption.isSome

instance (record : DataMap) : Decidable (WellFormed record) :=
  decidable_of_iff
    (record.get "type" ≠ .null ∧
      (isStart record = true → record.get "session" ≠ .null ∧ record.get "set" ≠ .null ∧
        HasTimestamp record) ∧
      (isEnd record = true → HasTimestamp record ∧ record.get "n_samples" ≠ .null ∧
        record.get "peak_error" ≠ .null ∧ record.get "rms_error" ≠ .null ∧
        record.get "compression_ratio" ≠ .null) ∧
      (record.get "type" = .string "Pressure" ∨ record.get "type" = .string "Raw Pressure" →
        (record.get "data").asBytes.toOption.isSome))
    ⟨fun ⟨h1, h2, h3, h4⟩ => ⟨h1, h2, h3, h4⟩, fun ⟨h1, h2, h3, h4⟩ => ⟨h1, h2, h3, h4⟩⟩

/-- The records of a set: a Start set, an End set, and neither between. -/
structure IsSet (c : Section DataMap) : Prop where
  first : isStart c.first = true
  inner : ∀ r ∈ c.inner, isStart r = false ∧ isEnd r = false
  last : isEnd c.last = true

/-- A set whose records have their fields and whose raw bytes are whole
floats. -/
structure Savable (c : Section DataMap) : Prop where
  first : WellFormed c.first
  inner : ∀ r ∈ c.inner, WellFormed r
  last : WellFormed c.last
  raw : 4 ∣ (payload "Raw Pressure" c.inner).length

/-- A record does not open and close. -/
lemma isStart_of_isEnd {r : DataMap} (h : isEnd r = true) : isStart r = false := by
  rw [isEnd, decide_eq_true_iff] at h
  rw [isStart, h]
  decide

lemma isEnd_of_isStart {r : DataMap} (h : isStart r = true) : isEnd r = false := by
  refine Bool.eq_false_iff.mpr fun hend => ?_
  exact absurd h (ne_true_of_eq_false (isStart_of_isEnd hend))

/-! ### A savable set is saved -/

variable {p : Platform} {sopepId : String} {records : List DataMap}

lemma fromMillisecondsSinceEpoch_eq_ok {ms t : ℤ} :
    fromMillisecondsSinceEpoch ms = .ok t ↔ ms.natAbs ≤ 8640000000000000 ∧ ms = t := by
  rw [fromMillisecondsSinceEpoch]
  split_ifs with h
  · simp [h]
  · simp [h]

/-- **What a time stamp is printed as**, if it is an int in the range. -/
lemma formatTimestamp_eq_ok_iff {record : DataMap} {pattern text : String} :
    formatTimestamp p pattern record = .ok text ↔
      ∃ seconds, record.get "timestamp" = .int seconds ∧
        (int64 (seconds * 1000)).natAbs ≤ 8640000000000000 ∧
        p.formatDate pattern (int64 (seconds * 1000)) = text := by
  rw [formatTimestamp]
  simp only [bind_eq_ok, Value.nullCheck_eq_ok, Value.asInt_eq_ok,
    fromMillisecondsSinceEpoch_eq_ok, pure, Except.pure, Except.ok.injEq]
  constructor
  · rintro ⟨_, ⟨-, rfl⟩, seconds, hseconds, _, ⟨hrange, rfl⟩, htext⟩
    exact ⟨seconds, hseconds, hrange, htext⟩
  · rintro ⟨seconds, hseconds, hrange, htext⟩
    exact ⟨_, ⟨by rw [hseconds]; simp, rfl⟩, seconds, hseconds, _, ⟨hrange, rfl⟩, htext⟩

lemma formatTimestamp_ok {record : DataMap} (h : HasTimestamp record) (pattern : String) :
    formatTimestamp p pattern record = .ok (timeText p pattern record) := by
  obtain ⟨seconds, hseconds, hrange⟩ := h
  have hok : formatTimestamp p pattern record =
      .ok (p.formatDate pattern (int64 (seconds * 1000))) :=
    formatTimestamp_eq_ok_iff.mpr
      ⟨seconds, Value.asInt_toOption_eq_some.mp hseconds, hrange, rfl⟩
  rw [timeText, hok]

/-- A key that has not been assigned is found behind those that have. -/
lemma assign_append {key : String} {value : Value} {done rest : List (String × Value)}
    (h : key ∉ done.map Prod.fst) :
    assign key value (done ++ rest) = done ++ assign key value rest := by
  induction done with
  | nil => rfl
  | cons e done ih =>
      rw [List.map_cons, List.mem_cons, not_or] at h
      rw [List.cons_append, assign, if_neg (Ne.symm h.1), ih h.2, List.cons_append]

/-- **All keys of a map assigned in order**: on an empty map and on one with the
same keys the result is the map. -/
lemma foldl_assign {entries : List (String × Value)} (hnodup : (entries.map Prod.fst).Nodup) :
    ∀ (done rest : List (String × Value)),
      (∀ key ∈ entries.map Prod.fst, key ∉ done.map Prod.fst) →
      rest = [] ∨ rest.map Prod.fst = entries.map Prod.fst →
      entries.foldl (fun info e => assign e.1 e.2 info) (done ++ rest) = done ++ entries := by
  induction entries with
  | nil =>
      rintro done rest - (rfl | hkeys)
      · rfl
      · rw [List.map_eq_nil_iff.mp hkeys]
        rfl
  | cons e entries ih =>
      intro done rest hfresh hrest
      obtain ⟨he, hnodup⟩ := List.nodup_cons.mp hnodup
      have hdone := hfresh e.1 List.mem_cons_self
      have hnext : ∀ key ∈ entries.map Prod.fst, key ∉ (done ++ [e]).map Prod.fst := by
        intro key hkey hmem
        rw [List.map_append, List.map_singleton, List.mem_append, List.mem_singleton] at hmem
        rcases hmem with hmem | rfl
        · exact hfresh key (List.mem_cons_of_mem _ hkey) hmem
        · exact he hkey
      -- what is left to be overwritten
      obtain ⟨rest', hassign, hrest'⟩ : ∃ rest', assign e.1 e.2 rest = e :: rest' ∧
          (rest' = [] ∨ rest'.map Prod.fst = entries.map Prod.fst) := by
        rcases hrest with rfl | hkeys
        · exact ⟨[], rfl, Or.inl rfl⟩
        · cases rest with
          | nil => exact absurd hkeys (by simp)
          | cons e' rest =>
              obtain ⟨hkey, hkeys⟩ := List.cons.inj hkeys
              exact ⟨rest, by rw [assign, if_pos hkey], Or.inr hkeys⟩
      rw [List.foldl_cons, assign_append hdone, hassign, List.append_cons done e rest',
        ih hnodup (done ++ [e]) rest' hnext hrest', ← List.append_cons]

/-- The keys of the info of a set. -/
def infoKeys : List String :=
  ["Session", "Set", "Start Time", "End Time", "Num Samples", "Estimated peak reconstructed error",
    "Estimated RMS reconstructed error", "Estimated compression ratio"]

lemma datasetInfo_keys (p : Platform) (c : Section DataMap) :
    (datasetInfo p c).map Prod.fst = infoKeys := rfl

/-- An info that has been collected in full, or not begun. -/
def WholeInfo (info : List (String × Value)) : Prop := info = [] ∨ info.map Prod.fst = infoKeys

lemma WholeInfo.foldl_assign {info : List (String × Value)} (h : WholeInfo info)
    (c : Section DataMap) :
    (datasetInfo p c).foldl (fun info e => assign e.1 e.2 info) info = datasetInfo p c := by
  have hnodup : ((datasetInfo p c).map Prod.fst).Nodup := by simp [datasetInfo_keys, infoKeys]
  exact ReadData.foldl_assign hnodup [] info (by simp) h

/-- The info is collected in full, whatever it was before. -/
lemma collectInfo_of_fields {start stop : DataMap}
    (hs : start.get "session" ≠ .null ∧ start.get "set" ≠ .null ∧ HasTimestamp start)
    (he : HasTimestamp stop ∧ stop.get "n_samples" ≠ .null ∧ stop.get "peak_error" ≠ .null ∧
      stop.get "rms_error" ≠ .null ∧ stop.get "compression_ratio" ≠ .null) {l : Formatting}
    (hl : WholeInfo l.pressureDataInfo) (inner : List DataMap) :
    (collectInfo p start stop).run l =
      .ok () { l with pressureDataInfo := datasetInfo p ⟨start, inner, stop⟩ } := by
  obtain ⟨hsession, hset, hstime⟩ := hs
  obtain ⟨hetime, hn, hpeak, hrms, hratio⟩ := he
  rw [← hl.foldl_assign ⟨start, inner, stop⟩]
  simp [collectInfo, setInfo, formatTimestamp_ok hstime, formatTimestamp_ok hetime, hsession, hset,
    hn, hpeak, hrms, hratio, datasetInfo]

lemma collectInfo_run {start stop : DataMap} (hs : WellFormed start) (hsopen : isStart start = true)
    (he : WellFormed stop) (heclose : isEnd stop = true) {l : Formatting}
    (hl : l.pressureDataInfo = []) (inner : List DataMap) :
    (collectInfo p start stop).run l =
      .ok () { l with pressureDataInfo := datasetInfo p ⟨start, inner, stop⟩ } :=
  collectInfo_of_fields (hs.start_set hsopen) (he.end_set heclose) (Or.inl hl) inner

lemma collectPayload_run {record : DataMap} (h : WellFormed record) (l : Formatting) :
    (collectPayload record).run l = .ok () { l with
      binaryData := l.binaryData ++ payload "Pressure" [record]
      binaryDataRaw := l.binaryDataRaw ++ payload "Raw Pressure" [record] } := by
  by_cases h1 : record.get "type" = .string "Pressure"
  · obtain ⟨bs, hbs⟩ := Value.asBytes_isSome.mp (h.data (Or.inl h1))
    simp [collectPayload, payload, dataBytes, h1, hbs, Value.asBytes]
  · by_cases h2 : record.get "type" = .string "Raw Pressure"
    · obtain ⟨bs, hbs⟩ := Value.asBytes_isSome.mp (h.data (Or.inr h2))
      simp [collectPayload, payload, dataBytes, h2, hbs, Value.asBytes]
    · simp [collectPayload, payload, h1, h2, h.type_ne_null]

lemma payload_append (type : String) (xs ys : List DataMap) :
    payload type (xs ++ ys) = payload type xs ++ payload type ys := List.flatMap_append

/-- The loop over the records between two indices collects their payloads. -/
lemma payloadLoop_run (records : List DataMap) {inner : List DataMap} (after : List DataMap)
    (hinner : ∀ r ∈ inner, WellFormed r) :
    ∀ (before : List DataMap) (l : Formatting), records = before ++ inner ++ after →
      (payloadLoop records inner.length before.length).run l = .ok () { l with
        binaryData := l.binaryData ++ payload "Pressure" inner
        binaryDataRaw := l.binaryDataRaw ++ payload "Raw Pressure" inner } := by
  induction inner with
  | nil =>
      intro before l _
      simp [payloadLoop, payload]
  | cons r inner ih =>
      intro before l hrecords
      have hat : elementAt records (before.length : ℤ) = .ok r := by
        refine elementAt_natCast _ ?_
        rw [hrecords]
        simp
      have hnext := ih (fun r' hr' => hinner r' (List.mem_cons_of_mem r hr')) (before ++ [r])
      rw [List.length_append, List.length_singleton] at hnext
      push_cast at hnext
      rw [List.length_cons, payloadLoop]
      simp only [EStateM.run_bind, hat, Effect.run_lift_ok,
        collectPayload_run (hinner r List.mem_cons_self)]
      have hcons : ∀ type, payload type (r :: inner) = payload type [r] ++ payload type inner :=
        fun type => payload_append type [r] inner
      rw [hnext _ (by rw [hrecords]; simp), hcons, hcons, List.append_assoc, List.append_assoc]

/-- The loop that reads floats. -/
lemma floatLoop_run {raw : List UInt8} (n : ℕ) : ∀ (before rest : List UInt8) (l : Formatting),
    raw = before ++ rest → rest.length = 4 * n →
    (floatLoop raw n before.length).run l = .ok () { l with rawData := l.rawData ++ floats rest } := by
  induction n with
  | zero =>
      intro before rest l _ hlen
      obtain rfl := List.length_eq_zero_iff.mp hlen
      simp [floatLoop, floats]
  | succ n ih =>
      intro before rest l hraw hlen
      match rest, hlen with
      | b0 :: b1 :: b2 :: b3 :: rest, hlen =>
        have hrange : getRange raw (before.length : ℤ) ((before.length : ℤ) + 4) =
            .ok [b0, b1, b2, b3] := by
          have hinside : before.length + 4 ≤ raw.length := by
            rw [hraw]
            simp
          have h := getRange_ok (Nat.le_add_right before.length 4) hinside
          push_cast at h
          rw [h, hraw]
          simp
        have hlength : ((before ++ [b0, b1, b2, b3]).length : ℤ) = before.length + 4 := by simp
        have hnext := ih (before ++ [b0, b1, b2, b3]) rest
        rw [hlength] at hnext
        rw [floatLoop]
        simp only [EStateM.run_bind, hrange, Effect.run_lift_ok, EStateM.run_modify]
        rw [hnext _ (by rw [hraw]; simp) (by simp only [List.length_cons] at hlen; omega), floats,
          List.append_assoc, List.singleton_append]

lemma floats_eq_nil_iff {bs : List UInt8} (h : 4 ∣ bs.length) : floats bs = [] ↔ bs = [] := by
  match bs, h with
  | [], _ => simp [floats]
  | [_], h => exact absurd h (by simp)
  | [_, _], h => exact absurd h (by simp)
  | [_, _, _], h => exact absurd h (by simp)
  | _ :: _ :: _ :: _ :: _, _ => simp [floats]

lemma readFloats_run {l : Formatting} (hl : l.rawData = []) (h : 4 ∣ l.binaryDataRaw.length) :
    readFloats.run l = .ok () { l with rawData := floats l.binaryDataRaw } := by
  rw [readFloats, Effect.run_bind_of_ok (EStateM.run_get _)]
  by_cases hnil : l.binaryDataRaw = []
  · have hsame : floats l.binaryDataRaw = l.rawData := by
      rw [hnil, hl]
      rfl
    rw [if_neg (not_not.mpr hnil), hsame]
    rfl
  · obtain ⟨n, hn⟩ := h
    have hcount : (l.binaryDataRaw.length + 3) / 4 = n := by omega
    have hrun := floatLoop_run n [] l.binaryDataRaw l (List.nil_append _).symm hn
    rw [List.length_nil, Nat.cast_zero] at hrun
    rw [if_pos hnil, hcount, hrun, hl, List.nil_append]

/-- The session and the set in the info of a data set. -/
lemma infoText_datasetInfo (p : Platform) (c : Section DataMap) :
    infoText p (datasetInfo p c) "Session" = (c.first.get "session").toText p ∧
      infoText p (datasetInfo p c) "Set" = (c.first.get "set").toText p := ⟨rfl, rfl⟩

lemma writeFiles_run {c : Section DataMap} (hfirst : HasTimestamp c.first) {l : Formatting}
    (hinfo : l.pressureDataInfo = datasetInfo p c)
    (hdata : l.binaryData = payload "Pressure" c.inner)
    (hraw : l.rawData = floats (payload "Raw Pressure" c.inner))
    (hdvd : 4 ∣ (payload "Raw Pressure" c.inner).length) :
    (writeFiles p sopepId c.first).run l =
      .ok () { l with files := l.files ++ datasetFiles p sopepId c } := by
  have hname : "datasets/" ++ sopepId ++ "_SES" ++ infoText p l.pressureDataInfo "Session" ++
      "_SET" ++ infoText p l.pressureDataInfo "Set" ++ "_" ++ timeText p namePattern c.first =
      datasetName p sopepId c := by
    obtain ⟨hsession, hset⟩ := infoText_datasetInfo p c
    rw [hinfo, hsession, hset]
    rfl
  rw [writeFiles, Effect.run_bind_of_ok (EStateM.run_get _)]
  dsimp only
  rw [formatTimestamp_ok hfirst, Effect.run_bind_of_ok (Effect.run_lift_ok _ _), hname]
  by_cases hnil : payload "Raw Pressure" c.inner = []
  · have hdoubles : l.rawData = [] := by rw [hraw, (floats_eq_nil_iff hdvd).mpr hnil]
    simp [datasetFiles, hnil, hdoubles, hinfo, hdata]
  · have hdoubles : ¬ floats (payload "Raw Pressure" c.inner) = [] := by
      rwa [floats_eq_nil_iff hdvd]
    simp [datasetFiles, hnil, hdoubles, hinfo, hdata, hraw]

/-- The records of a set at the two indices of `_formatData`. -/
lemma set_indices {pre after : List DataMap} {c : Section DataMap}
    (hrecords : records = pre ++ c.first :: (c.inner ++ c.last :: after)) :
    elementAt records (pre.length : ℤ) = .ok c.first ∧
      elementAt records ((pre ++ c.first :: c.inner).length : ℤ) = .ok c.last ∧
      (((pre ++ c.first :: c.inner).length : ℤ) - (pre.length + 1)).toNat = c.inner.length := by
  refine ⟨elementAt_natCast _ ?_, elementAt_natCast _ ?_, ?_⟩
  · rw [hrecords]
    simp
  · rw [hrecords, ← List.cons_append, ← List.append_assoc]
    simp
  · rw [List.length_append, List.length_cons]
    omega

/-- **A valid range of records is saved**: the state when the last record of a
set has been found. -/
lemma saveDataset_run (p : Platform) (sopepId : String) {pre after : List DataMap}
    {c : Section DataMap}
    (hrecords : records = pre ++ c.first :: (c.inner ++ c.last :: after)) (hc : IsSet c)
    (hsavable : Savable c) (files : List SavedFile) :
    ∃ l', (saveDataset p sopepId records).run
        { indexStart := pre.length, indexEnd := (pre ++ c.first :: c.inner).length, files := files } =
      .ok () l' ∧ l'.files = files ++ datasetFiles p sopepId c := by
  obtain ⟨hfirst, hinner, hlast, hraw⟩ := hsavable
  obtain ⟨hstart, hstop, hcount⟩ := set_indices hrecords
  have hpayload := payloadLoop_run records (c.last :: after) hinner (pre ++ [c.first])
  have hindex : ((pre ++ [c.first]).length : ℤ) = (pre.length : ℤ) + 1 := by simp
  rw [hindex] at hpayload
  rw [saveDataset, Effect.run_bind_of_ok (EStateM.run_get _)]
  dsimp only
  rw [hstart, hstop, hcount, Effect.run_bind_of_ok (Effect.run_lift_ok _ _),
    Effect.run_bind_of_ok (Effect.run_lift_ok _ _),
    Effect.run_bind_of_ok (collectInfo_run hfirst hc.first hlast hc.last (by rfl) c.inner),
    Effect.run_bind_of_ok (hpayload _ (by rw [hrecords]; simp)),
    Effect.run_bind_of_ok (readFloats_run (by rfl) (by simpa using hraw)),
    writeFiles_run (hfirst.start_set hc.first).2.2 (by rfl) (by simp) (by simp) hraw]
  exact ⟨_, rfl, rfl⟩

/-! ### The loop over the records -/

lemma formatLoop_append (xs ys : List DataMap) : ∀ (i : ℕ) (l l' : Formatting),
    (formatLoop p sopepId records xs i).run l = .ok () l' →
    (formatLoop p sopepId records (xs ++ ys) i).run l =
      (formatLoop p sopepId records ys (i + xs.length)).run l' := by
  induction xs with
  | nil =>
      intro i l l' h
      obtain rfl : l = l' := by
        injection h
      rfl
  | cons x xs ih =>
      intro i l l' h
      rw [formatLoop, EStateM.run_bind] at h
      rw [List.cons_append, formatLoop, EStateM.run_bind]
      cases hx : (formatRecord p sopepId records x i).run l with
      | error e s =>
          rw [hx] at h
          exact absurd h (by simp)
      | ok a s =>
          rw [hx] at h
          rw [List.length_cons, Nat.add_comm xs.length 1, ← Nat.add_assoc]
          exact ih (i + 1) s l' h

/-- Before the first record that closes a set nothing is saved; the loop
remembers the last record that opened one. -/
lemma formatLoop_before (p : Platform) (sopepId : String) (records xs : List DataMap)
    (hxs : ∀ r ∈ xs, isEnd r = false) :
    ∀ (i : ℕ) (l : Formatting), l.indexEnd = -1 →
      ∃ k : ℤ, (formatLoop p sopepId records xs i).run l = .ok () { l with indexStart := k } ∧
        ((∀ r ∈ xs, isStart r = false) → k = l.indexStart) := by
  induction xs with
  | nil =>
      intro i l _
      exact ⟨l.indexStart, rfl, fun _ => rfl⟩
  | cons x xs ih =>
      intro i l hl
      have hx := hxs x List.mem_cons_self
      cases hstart : isStart x with
      | true =>
          have hrun : (formatRecord p sopepId records x i).run l =
              .ok () { l with indexStart := i } := by
            simp [formatRecord, hstart, hl]
          obtain ⟨k, hk, -⟩ := ih (fun r hr => hxs r (List.mem_cons_of_mem x hr)) (i + 1)
            { l with indexStart := i } hl
          refine ⟨k, ?_, fun h => ?_⟩
          · rw [formatLoop, Effect.run_bind_of_ok hrun, hk]
          · exact absurd hstart (ne_true_of_eq_false (h x List.mem_cons_self))
      | false =>
          have hrun : (formatRecord p sopepId records x i).run l = .ok () l := by
            simp [formatRecord, hstart, hx, hl]
          obtain ⟨k, hk, hkeep⟩ := ih (fun r hr => hxs r (List.mem_cons_of_mem x hr)) (i + 1) l hl
          refine ⟨k, ?_, fun h => hkeep fun r hr => h r (List.mem_cons_of_mem x hr)⟩
          rw [formatLoop, Effect.run_bind_of_ok hrun, hk]

/-- **The loop up to the end of the first set**: it goes on with the save of
that set. -/
lemma formatLoop_section (p : Platform) (sopepId : String) {pre : List DataMap}
    (hpre : ∀ r ∈ pre, isEnd r = false) {c : Section DataMap} (hc : IsSet c)
    (rest : List DataMap) (files : List SavedFile) :
    (formatLoop p sopepId records (pre ++ c.first :: (c.inner ++ c.last :: rest)) 0).run
        { files := files } =
      (saveDataset p sopepId records >>= fun _ =>
        formatLoop p sopepId records rest ((pre ++ c.first :: c.inner).length + 1)).run
          { indexStart := pre.length
            indexEnd := (pre ++ c.first :: c.inner).length
            files := files } := by
  -- before the set
  obtain ⟨k, hk, -⟩ := formatLoop_before p sopepId records pre hpre 0 { files := files } rfl
  -- its first record
  have hrun : (formatRecord p sopepId records c.first (0 + pre.length)).run
      { indexStart := k, files := files } =
      .ok () { indexStart := (pre.length : ℤ), files := files } := by
    simp [formatRecord, hc.first]
  -- what stands between
  obtain ⟨k', hk', hkeep⟩ := formatLoop_before p sopepId records c.inner
    (fun r hr => (hc.inner r hr).2) (0 + pre.length + 1)
    { indexStart := (pre.length : ℤ), files := files } rfl
  rw [hkeep fun r hr => (hc.inner r hr).1] at hk'
  -- its last record
  have hcount : (0 + pre.length + 1 + c.inner.length : ℕ) = (pre ++ c.first :: c.inner).length := by
    rw [List.length_append, List.length_cons]
    omega
  have hend : (formatRecord p sopepId records c.last (0 + pre.length + 1 + c.inner.length)).run
      { indexStart := (pre.length : ℤ), files := files } = (saveDataset p sopepId records).run
        { indexStart := pre.length
          indexEnd := (pre ++ c.first :: c.inner).length
          files := files } := by
    have hpos : 0 < (pre ++ c.first :: c.inner).length := by simp
    rw [hcount]
    generalize (pre ++ c.first :: c.inner).length = n at hpos
    simp [formatRecord, isStart_of_isEnd hc.last, hc.last, hpos]
  rw [formatLoop_append _ _ _ _ _ hk, formatLoop, Effect.run_bind_of_ok hrun,
    formatLoop_append _ _ _ _ _ hk', formatLoop, EStateM.run_bind, EStateM.run_bind, hend, hcount]

/-- **`_formatData` on a buffer that ends with a set**: if no record before the
last closes a set, the set that ends there is saved, and nothing else. -/
theorem formatData_section (p : Platform) (sopepId : String) {pre : List DataMap}
    (hpre : ∀ r ∈ pre, isEnd r = false) {c : Section DataMap} (hc : IsSet c)
    (hsavable : Savable c) (files : List SavedFile) :
    (formatData p sopepId (pre ++ c.first :: (c.inner ++ [c.last]))).run files =
      .ok () (files ++ datasetFiles p sopepId c) := by
  obtain ⟨l, hsave, hfiles⟩ := saveDataset_run p sopepId rfl hc hsavable files
  rw [EStateM.run, formatData, formatLoop_section p sopepId hpre hc,
    Effect.run_bind_of_ok hsave, ← hfiles]
  rfl

/-! ### A set that is not savable is an error -/

lemma hasTimestamp_of_ok {record : DataMap} {pattern text : String}
    (h : formatTimestamp p pattern record = .ok text) : HasTimestamp record := by
  obtain ⟨seconds, hseconds, hrange, -⟩ := formatTimestamp_eq_ok_iff.mp h
  exact ⟨seconds, Value.asInt_toOption_eq_some.mpr hseconds, hrange⟩

/-- The fields that the info of a set is taken from. -/
lemma fields_of_collectInfo {start stop : DataMap} {l l' : Formatting}
    (h : (collectInfo p start stop).run l = .ok () l') :
    (start.get "session" ≠ .null ∧ start.get "set" ≠ .null ∧ HasTimestamp start) ∧
      HasTimestamp stop ∧ stop.get "n_samples" ≠ .null ∧ stop.get "peak_error" ≠ .null ∧
        stop.get "rms_error" ≠ .null ∧ stop.get "compression_ratio" ≠ .null := by
  simp only [collectInfo, Effect.run_bind_eq_ok, Effect.run_lift_eq_ok, Value.nullCheck_eq_ok] at h
  obtain ⟨_, _, ⟨⟨hsession, -⟩, -⟩, _, _, -, _, _, ⟨⟨hset, -⟩, -⟩, _, _, -, h⟩ := h
  obtain ⟨_, _, ⟨hstart, -⟩, h⟩ := h
  obtain ⟨_, _, -, _, _, ⟨hend, -⟩, _, _, -, _, _, ⟨⟨hn, -⟩, -⟩, _, _, -, h⟩ := h
  obtain ⟨_, _, ⟨⟨hpeak, -⟩, -⟩, _, _, -, _, _, ⟨⟨hrms, -⟩, -⟩, _, _, -, h⟩ := h
  obtain ⟨_, _, ⟨⟨hratio, -⟩, -⟩, -⟩ := h
  have hstime := hasTimestamp_of_ok hstart
  have hetime := hasTimestamp_of_ok hend
  exact ⟨⟨hsession, hset, hstime⟩, hetime, hn, hpeak, hrms, hratio⟩

lemma wellFormed_of_isStart {record : DataMap} (h : isStart record = true)
    (hfields : record.get "session" ≠ .null ∧ record.get "set" ≠ .null ∧ HasTimestamp record) :
    WellFormed record := by
  have htype : record.get "type" = .string "Start set" := of_decide_eq_true h
  refine ⟨by rw [htype]; decide, fun _ => hfields, fun hend => ?_, fun hdata => ?_⟩
  · exact absurd hend (ne_true_of_eq_false (isEnd_of_isStart h))
  · rw [htype] at hdata
    exact absurd hdata (by decide)

lemma wellFormed_of_isEnd {record : DataMap} (h : isEnd record = true)
    (hfields : HasTimestamp record ∧ record.get "n_samples" ≠ .null ∧
      record.get "peak_error" ≠ .null ∧ record.get "rms_error" ≠ .null ∧
      record.get "compression_ratio" ≠ .null) : WellFormed record := by
  have htype : record.get "type" = .string "End set" := of_decide_eq_true h
  refine ⟨by rw [htype]; decide, fun hstart => ?_, fun _ => hfields, fun hdata => ?_⟩
  · exact absurd hstart (ne_true_of_eq_false (isStart_of_isEnd h))
  · rw [htype] at hdata
    exact absurd hdata (by decide)

/-- A record between the first and the last whose payload is collected. -/
lemma wellFormed_of_collectPayload {record : DataMap} {l l' : Formatting}
    (hrecord : isStart record = false ∧ isEnd record = false)
    (h : (collectPayload record).run l = .ok () l') : WellFormed record := by
  simp only [collectPayload, Effect.run_bind_eq_ok, Effect.run_lift_eq_ok,
    Value.nullCheck_eq_ok] at h
  obtain ⟨type, _, ⟨⟨htype, rfl⟩, -⟩, h⟩ := h
  refine ⟨htype, fun hstart => ?_, fun hend => ?_, fun hdata => ?_⟩
  · exact absurd hstart (ne_true_of_eq_false hrecord.1)
  · exact absurd hend (ne_true_of_eq_false hrecord.2)
  · have hbytes : ∃ bytes, (record.get "data").asBytes = .ok bytes := by
      rcases hdata with hdata | hdata
      · rw [if_pos hdata] at h
        simp only [Effect.run_bind_eq_ok, Effect.run_lift_eq_ok, Value.nullCheck_eq_ok] at h
        obtain ⟨_, _, ⟨⟨-, rfl⟩, -⟩, bytes, _, ⟨hbytes, -⟩, -⟩ := h
        exact ⟨bytes, hbytes⟩
      · rw [if_neg (by rw [hdata]; decide), if_pos hdata] at h
        simp only [Effect.run_bind_eq_ok, Effect.run_lift_eq_ok, Value.nullCheck_eq_ok] at h
        obtain ⟨_, _, ⟨⟨-, rfl⟩, -⟩, bytes, _, ⟨hbytes, -⟩, -⟩ := h
        exact ⟨bytes, hbytes⟩
    obtain ⟨bytes, hbytes⟩ := hbytes
    rw [hbytes]
    rfl

lemma wellFormed_of_payloadLoop {inner after : List DataMap}
    (hinner : ∀ r ∈ inner, isStart r = false ∧ isEnd r = false) :
    ∀ (before : List DataMap) {l l' : Formatting}, records = before ++ inner ++ after →
      (payloadLoop records inner.length before.length).run l = .ok () l' →
      ∀ r ∈ inner, WellFormed r := by
  induction inner with
  | nil => exact fun _ _ _ _ _ r hr => absurd hr (by simp)
  | cons x inner ih =>
      intro before l l' hrecords h
      have hat : elementAt records (before.length : ℤ) = .ok x := by
        refine elementAt_natCast _ ?_
        rw [hrecords]
        simp
      rw [List.length_cons, payloadLoop, hat, Effect.run_bind_of_ok (Effect.run_lift_ok _ _),
        Effect.run_bind_eq_ok] at h
      obtain ⟨_, _, hx, hrest⟩ := h
      have hlength : (before.length : ℤ) + 1 = ((before ++ [x]).length : ℤ) := by simp
      rw [hlength] at hrest
      have hwf := ih (fun r hr => hinner r (List.mem_cons_of_mem x hr)) (before ++ [x])
        (by rw [hrecords]; simp) hrest
      intro r hr
      rcases List.mem_cons.mp hr with rfl | hr
      · exact wellFormed_of_collectPayload (hinner r List.mem_cons_self) hx
      · exact hwf r hr

/-- The floats that are read lie inside the bytes. -/
lemma floatLoop_inside {raw : List UInt8} (n : ℕ) : ∀ (i : ℤ) {l l' : Formatting},
    (floatLoop raw n i).run l = .ok () l' → n ≠ 0 → i + 4 * n ≤ raw.length := by
  induction n with
  | zero => exact fun _ _ _ _ hn => absurd rfl hn
  | succ n ih =>
      intro i l l' h _
      rw [floatLoop, Effect.run_bind_eq_ok] at h
      obtain ⟨bytes, _, hrange, h⟩ := h
      obtain ⟨⟨-, -, hinside⟩, -⟩ := getRange_eq_ok_iff.mp (Effect.run_lift_eq_ok.mp hrange).1
      rw [Effect.run_bind_eq_ok] at h
      obtain ⟨_, _, -, h⟩ := h
      by_cases hn : n = 0
      · subst hn
        push_cast
        omega
      · have hrest := ih (i + 4) h hn
        push_cast
        omega

lemma dvd_of_readFloats {l l' : Formatting} (h : readFloats.run l = .ok () l') :
    4 ∣ l.binaryDataRaw.length := by
  rw [readFloats, Effect.run_bind_of_ok (EStateM.run_get _)] at h
  by_cases hnil : l.binaryDataRaw = []
  · rw [hnil]
    exact dvd_zero 4
  · have hpos := List.length_pos_of_ne_nil hnil
    rw [if_pos hnil] at h
    have hinside := floatLoop_inside _ 0 h (by omega)
    omega

/-- **Only a savable set is saved**, if its records are found at the two
indices. -/
lemma savable_of_saveDataset {pre after : List DataMap} {c : Section DataMap}
    (hrecords : records = pre ++ c.first :: (c.inner ++ c.last :: after)) (hc : IsSet c)
    {files : List SavedFile} {l' : Formatting}
    (h : (saveDataset p sopepId records).run
      { indexStart := pre.length, indexEnd := (pre ++ c.first :: c.inner).length, files := files } =
        .ok () l') : Savable c := by
  obtain ⟨hstart, hstop, hcount⟩ := set_indices hrecords
  have hindex : (pre.length : ℤ) + 1 = ((pre ++ [c.first]).length : ℤ) := by simp
  have hsplit : records = (pre ++ [c.first]) ++ c.inner ++ c.last :: after := by simp [hrecords]
  rw [saveDataset, Effect.run_bind_of_ok (EStateM.run_get _)] at h
  dsimp only at h
  rw [hstart, hstop, hcount, Effect.run_bind_of_ok (Effect.run_lift_ok _ _),
    Effect.run_bind_of_ok (Effect.run_lift_ok _ _), Effect.run_bind_eq_ok] at h
  obtain ⟨_, l₁, hinfo, h⟩ := h
  obtain ⟨_, l₂, hpayload, h⟩ := Effect.run_bind_eq_ok.mp h
  obtain ⟨_, l₃, hfloats, -⟩ := Effect.run_bind_eq_ok.mp h
  rw [hindex] at hpayload
  obtain ⟨⟨hsession, hset, hstime⟩, hend⟩ := fields_of_collectInfo hinfo
  have hfirst := wellFormed_of_isStart hc.first ⟨hsession, hset, hstime⟩
  have hinner := wellFormed_of_payloadLoop hc.inner _ hsplit hpayload
  have hlast := wellFormed_of_isEnd hc.last hend
  refine ⟨hfirst, hinner, hlast, ?_⟩
  -- what has been collected when the floats are read
  rw [collectInfo_run hfirst hc.first hlast hc.last rfl c.inner] at hinfo
  obtain ⟨-, rfl⟩ := EStateM.Result.ok.inj hinfo
  rw [payloadLoop_run records _ hinner _ _ hsplit] at hpayload
  obtain ⟨-, rfl⟩ := EStateM.Result.ok.inj hpayload
  exact dvd_of_readFloats hfloats

/-- **`_formatData` on a buffer whose first set is not savable** throws,
whatever follows. -/
theorem formatData_error (p : Platform) (sopepId : String) {pre : List DataMap}
    (hpre : ∀ r ∈ pre, isEnd r = false) {c : Section DataMap} (hc : IsSet c)
    (hsavable : ¬ Savable c) (rest : List DataMap) (files : List SavedFile) :
    ∃ e files', (formatData p sopepId (pre ++ c.first :: (c.inner ++ c.last :: rest))).run files =
      .error e files' := by
  rw [EStateM.run, formatData, formatLoop_section p sopepId hpre hc]
  split
  · next hrun =>
      obtain ⟨_, l, hsave, -⟩ := Effect.run_bind_eq_ok.mp hrun
      exact absurd (savable_of_saveDataset rfl hc hsave) hsavable
  · exact ⟨_, _, rfl⟩

end SopepApp.ReadData
