import SopepApp.Dart.Triple
import SopepApp.ReadData.FormatData

/-!
The text files of `_formatData`, and what `cborToRegularTextString` makes of
their info.

* `FromSet`: a text file made from the info of one first and one last record;
* `formatData_text`: every text file of every run of `_formatData` is one;
* `PassesOver`, `Plain`: texts that the two replacements leave alone;
* `cborToRegularTextString_eq`: a map with plain texts becomes its lines;
* `PrintsDoubles`, `PrintsDates`: the texts of the platform, with which the info
  of a set is plain.
-/

namespace SopepApp.ReadData

open Dart Sections Effect

variable {p : Platform} {sopepId : String} {records : List DataMap}

/-! ### The text files of a run -/

/-- A text file with the name and the info of a first and a last record. -/
def FromSet (p : Platform) (sopepId : String) (records : List DataMap) (name text : String) :
    Prop :=
  ∃ start ∈ records, ∃ stop ∈ records, name = datasetName p sopepId ⟨start, [], stop⟩ ∧
    text = cborToRegularTextString p (datasetInfo p ⟨start, [], stop⟩)

/-- The text files given to the storage are those of sets. -/
def TextsFromSets (p : Platform) (sopepId : String) (records : List DataMap)
    (files : List SavedFile) : Prop :=
  ∀ name text, .text name text ∈ files → FromSet p sopepId records name text

lemma collectInfo_whole {start stop : DataMap} {l l' : Formatting}
    (hwhole : WholeInfo l.pressureDataInfo)
    (h : (collectInfo p start stop).run l = .ok () l') :
    l' = { l with pressureDataInfo := datasetInfo p ⟨start, [], stop⟩ } := by
  obtain ⟨hstart, hstop⟩ := fields_of_collectInfo h
  rw [collectInfo_of_fields hstart hstop hwhole []] at h
  exact (EStateM.Result.ok.inj h).2.symm

/-! A save, part by part: `J` is any property of the files and the info. -/

section Parts

variable {J : List SavedFile → List (String × Value) → Prop}

/-- A property of the files and the info, of the local variables. -/
def On (J : List SavedFile → List (String × Value) → Prop) (l : Formatting) : Prop :=
  J l.files l.pressureDataInfo

lemma collectPayload_keeps (record : DataMap) : Keeps (On J) (collectPayload record) := by
  have hdata : ∀ f : Formatting → List UInt8 → Formatting, (∀ l bs, On J l → On J (f l bs)) →
      Keeps (On J) (do
        let data ← Effect.lift (← Effect.lift (record.get "data").nullCheck).asBytes
        modify fun l => f l data) := by
    intro f hf
    refine .lift_bind (fun _ h => h) fun v _ => .lift_bind (fun _ h => h) fun bs _ => ?_
    exact .modify fun l h => hf l bs h
  refine .lift_bind (fun _ h => h) fun type _ => .ite (fun _ => ?_) fun _ => ?_
  · exact hdata (fun l bs => { l with binaryData := l.binaryData ++ bs }) fun _ _ h => h
  · refine .ite (fun _ => ?_) fun _ => .pure fun _ h => h
    exact hdata (fun l bs => { l with binaryDataRaw := l.binaryDataRaw ++ bs }) fun _ _ h => h

lemma payloadLoop_keeps (n : ℕ) : ∀ i : ℤ, Keeps (On J) (payloadLoop records n i) := by
  induction n with
  | zero => exact fun _ => .pure fun _ h => h
  | succ n ih =>
      intro i
      refine .lift_bind (fun _ h => h) fun record _ => ?_
      exact .bind (collectPayload_keeps record) fun _ => ih (i + 1)

lemma floatLoop_keeps (raw : List UInt8) (n : ℕ) : ∀ i : ℤ, Keeps (On J) (floatLoop raw n i) := by
  induction n with
  | zero => exact fun _ => .pure fun _ h => h
  | succ n ih =>
      intro i
      refine .lift_bind (fun _ h => h) fun bytes _ => ?_
      exact .bind (.modify fun _ h => h) fun _ => ih (i + 4)

lemma readFloats_keeps : Keeps (On J) readFloats := by
  refine .bind (.get (Q := fun _ => On J) fun _ h => h) fun l => .ite (fun _ => ?_) fun _ => ?_
  · exact floatLoop_keeps _ _ _
  · exact .pure fun _ h => h

lemma collectInfo_keeps_files {I : List SavedFile → Prop} (p : Platform)
    (start stop : DataMap) : Keeps (On fun files _ => I files) (collectInfo p start stop) := by
  have hset : ∀ (key : String) (value : Value), Keeps (On fun files _ => I files)
      (setInfo key value) := fun key value => .modify fun _ h => h
  have hfield : ∀ {α : Type} (x : Except Error α) (key : String) (value : α → Value)
      {next : Effect Formatting Unit}, Keeps (On fun files _ => I files) next →
      Keeps (On fun files _ => I files)
        (Effect.lift x >>= fun v => setInfo key (value v) >>= fun _ => next) := by
    intro α x key value next hnext
    exact .lift_bind (fun _ h => h) fun v _ => .bind (hset key (value v)) fun _ => hnext
  refine hfield _ _ id (hfield _ _ id (hfield _ _ Value.string (hfield _ _ Value.string ?_)))
  refine hfield _ _ id (hfield _ _ id (hfield _ _ id ?_))
  exact .lift_bind (fun _ h => h) fun v _ => hset _ v

end Parts

/-- Between two records of the loop: the files saved are those of sets, and the
info is whole. -/
def Kept (p : Platform) (sopepId : String) (records : List DataMap) : Formatting → Prop :=
  On fun files info => TextsFromSets p sopepId records files ∧ WholeInfo info

/-- During a save of a set: its info has been collected. -/
def Collected (p : Platform) (sopepId : String) (records : List DataMap) (start stop : DataMap) :
    Formatting → Prop :=
  On fun files info => TextsFromSets p sopepId records files ∧
    info = datasetInfo p ⟨start, [], stop⟩ ∧ start ∈ records ∧ stop ∈ records

/-- What holds of the files whether a save returns or throws. -/
def Saved (p : Platform) (sopepId : String) (records : List DataMap) : Formatting → Prop :=
  On fun files _ => TextsFromSets p sopepId records files

lemma collectInfo_collected {start stop : DataMap} (hstart : start ∈ records)
    (hstop : stop ∈ records) :
    Triple (Kept p sopepId records) (collectInfo p start stop)
      (fun _ => Collected p sopepId records start stop) (Saved p sopepId records) := by
  intro l hl
  have hthrow := collectInfo_keeps_files (I := TextsFromSets p sopepId records) p start stop l
    hl.1
  refine ⟨fun _ l' hrun => ?_, hthrow.2⟩
  rw [collectInfo_whole hl.2 hrun]
  exact ⟨hl.1, rfl, hstart, hstop⟩

/-- The text of a set is added. -/
lemma TextsFromSets.append {files new : List SavedFile}
    (h : TextsFromSets p sopepId records files) (hnew : TextsFromSets p sopepId records new) :
    TextsFromSets p sopepId records (files ++ new) := by
  intro name text hmem
  rcases List.mem_append.mp hmem with hmem | hmem
  · exact h name text hmem
  · exact hnew name text hmem

/-- Files that are no text files. -/
lemma textsFromSets_of_notMem {new : List SavedFile} (h : ∀ name text, .text name text ∉ new) :
    TextsFromSets p sopepId records new := fun name text hmem => absurd hmem (h name text)

lemma writeFiles_collected {start stop : DataMap} :
    Triple (Collected p sopepId records start stop) (writeFiles p sopepId start)
      (fun _ => Kept p sopepId records) (Saved p sopepId records) := by
  have hwhole : ∀ l, Collected p sopepId records start stop l → WholeInfo l.pressureDataInfo :=
    fun l h => Or.inr (by rw [h.2.1, datasetInfo_keys])
  refine .get_bind fun l => .lift_bind (fun _ h => h.2.1) fun date hdate => ?_
  obtain rfl : timeText p namePattern start = date := by rw [timeText, hdate]
  -- the text file, with the info that has been collected
  refine .bind (S := fun _ => Kept p sopepId records) (.modify ?_) fun _ => ?_
  · rintro l' ⟨rfl, h⟩
    refine ⟨h.1.append ?_, hwhole l' h⟩
    obtain ⟨-, hinfo, hstart, hstop⟩ := h
    intro name text hmem
    obtain ⟨hname, htext⟩ := SavedFile.text.inj (List.mem_singleton.mp hmem)
    rw [hinfo] at hname htext
    exact ⟨start, hstart, stop, hstop, hname, htext⟩
  refine .bind (S := fun _ => Kept p sopepId records) (.modify ?_) fun _ => ?_
  · exact fun l' h => ⟨h.1.append (textsFromSets_of_notMem (by simp)), h.2⟩
  refine .ite (fun _ => .modify ?_) fun _ => .pure fun _ h => h
  exact fun l' h => ⟨h.1.append (textsFromSets_of_notMem (by simp)), h.2⟩

/-- A save keeps what holds between two records; if it throws, the text files are
those of sets still. -/
lemma saveDataset_kept : Triple (Kept p sopepId records) (saveDataset p sopepId records)
    (fun _ => Kept p sopepId records) (Saved p sopepId records) := by
  refine .get_bind fun l => .weaken (P := Kept p sopepId records) ?_ (fun _ h => h.2)
    (fun _ _ h => h) fun _ h => h
  refine .lift_bind (fun _ h => h.1) fun start hstart => ?_
  refine .lift_bind (fun _ h => h.1) fun stop hstop => ?_
  refine .bind (collectInfo_collected (mem_of_elementAt hstart) (mem_of_elementAt hstop))
    fun _ => ?_
  refine .bind (S := fun _ => Collected p sopepId records start stop) ?_ fun _ => ?_
  · exact (payloadLoop_keeps _ _).weaken (fun _ h => h) (fun _ _ h => h) fun _ h => h.1
  refine .bind (S := fun _ => Collected p sopepId records start stop) ?_ fun _ => ?_
  · exact readFloats_keeps.weaken (fun _ h => h) (fun _ _ h => h) fun _ h => h.1
  · exact writeFiles_collected

lemma formatRecord_kept (record : DataMap) (i : ℕ) :
    Triple (Kept p sopepId records) (formatRecord p sopepId records record i)
      (fun _ => Kept p sopepId records) (Saved p sopepId records) := by
  have hsave : Triple (Kept p sopepId records) (do
      let l ← get
      if l.indexStart ≥ 0 ∧ l.indexEnd > 0 then saveDataset p sopepId records)
      (fun _ => Kept p sopepId records) (Saved p sopepId records) := by
    refine .bind (.get (Q := fun _ => Kept p sopepId records) fun _ h => h) fun l => ?_
    exact .ite (fun _ => saveDataset_kept) fun _ => .pure fun _ h => h
  rw [formatRecord]
  refine .ite (fun _ => ?_) fun _ => ?_
  · exact .bind (.modify fun _ h => h) fun _ => hsave
  · refine .bind (.get (Q := fun _ => Kept p sopepId records) fun _ h => h) fun l => ?_
    refine .ite (fun _ => ?_) fun _ => ?_
    · exact .bind (.modify fun _ h => h) fun _ => hsave
    · exact hsave

lemma formatLoop_kept (xs : List DataMap) : ∀ i : ℕ,
    Triple (Kept p sopepId records) (formatLoop p sopepId records xs i)
      (fun _ => Kept p sopepId records) (Saved p sopepId records) := by
  induction xs with
  | nil => exact fun _ => .pure fun _ h => h
  | cons record xs ih =>
      intro i
      exact .bind (formatRecord_kept record i) fun _ => ih (i + 1)

lemma finalState_formatData (p : Platform) (sopepId : String) (records : List DataMap)
    (files : List SavedFile) :
    (formatData p sopepId records).finalState files =
      ((formatLoop p sopepId records records 0).finalState { files := files }).files := by
  rw [Effect.finalState, Effect.finalState, EStateM.run, formatData]
  cases (formatLoop p sopepId records records 0).run { files := files } <;> rfl

/-- **Every text file of every run of `_formatData`** has the name and the info
of a set: of a first record and a last record of the buffer. -/
theorem formatData_text {name text : String}
    (h : .text name text ∈ (formatData p sopepId records).finalState []) :
    FromSet p sopepId records name text := by
  have hkept : Kept p sopepId records {} := ⟨fun _ _ h => absurd h (by simp), Or.inl rfl⟩
  have hfiles : TextsFromSets p sopepId records
      ((formatLoop p sopepId records records 0).finalState {}).files :=
    ((formatLoop_kept records 0).weaken (fun _ h => h) (fun _ _ h => h.1)
      fun _ h => h).finalState hkept
  rw [finalState_formatData] at h
  exact hfiles name text h

/-! ### Plain texts -/

/-- A text that a replacement passes over, whatever follows it. -/
def PassesOver (a b c : Char) (text : List Char) : Prop :=
  ∀ rest, replaceAll a b c (text ++ rest) = text ++ replaceAll a b c rest

section PassesOver

variable {a b c : Char} {text text' : List Char}

lemma passesOver_nil : PassesOver a b c [] := fun _ => rfl

lemma PassesOver.append (h : PassesOver a b c text) (h' : PassesOver a b c text') :
    PassesOver a b c (text ++ text') := by
  intro rest
  rw [List.append_assoc, h, h', List.append_assoc]

/-- A character that does not begin the pattern. -/
lemma passesOver_singleton {x : Char} (h : x ≠ a) : PassesOver a b c [x] := by
  intro rest
  cases rest with
  | nil => rfl
  | cons y rest =>
      rw [List.singleton_append, replaceAll, if_neg fun hpair => h hpair.1]
      rfl

lemma passesOver_of_notMem (h : a ∉ text) : PassesOver a b c text := by
  induction text with
  | nil => exact passesOver_nil
  | cons x text ih =>
      obtain ⟨hx, htext⟩ := not_or.mp (List.mem_cons.not.mp h)
      exact (passesOver_singleton fun heq => hx heq.symm).append (ih htext)

/-- The first character of the pattern, followed by another one than the second. -/
lemma passesOver_cons {x : Char} (h : x ≠ b) (htext : PassesOver a b c (x :: text)) :
    PassesOver a b c (a :: x :: text) := by
  intro rest
  rw [List.cons_append, List.cons_append, replaceAll, if_neg fun hpair => h hpair.2,
    ← List.cons_append, htext]
  rfl

lemma replaceAll_self (h : PassesOver a b c text) : replaceAll a b c text = text := by
  have hnil := h []
  rwa [List.append_nil, replaceAll, List.append_nil] at hnil

/-- The replacement of the pattern after a text that is passed over. -/
lemma replaceAll_append (h : PassesOver a b c text) (rest : List Char) :
    replaceAll a b c (text ++ a :: b :: rest) = text ++ c :: replaceAll a b c rest := by
  rw [h, replaceAll, if_pos ⟨rfl, rfl⟩]

/-- A replacement up to a character that does not end the pattern. -/
lemma replaceAll_append_of_ne {x : Char} (hx : x ≠ b) (rest : List Char) :
    ∀ text, ∃ text', replaceAll a b c (text ++ x :: rest) = text' ++ replaceAll a b c (x :: rest)
  | [] => ⟨[], rfl⟩
  | [y] => by
      refine ⟨[y], ?_⟩
      rw [List.singleton_append, replaceAll, if_neg fun hpair => hx hpair.2]
      rfl
  | y :: z :: text => by
      rw [List.cons_append, List.cons_append, replaceAll]
      split_ifs with hpair
      · obtain ⟨text', h⟩ := replaceAll_append_of_ne hx rest text
        exact ⟨c :: text', by rw [h, List.cons_append]⟩
      · obtain ⟨text', h⟩ := replaceAll_append_of_ne hx rest (z :: text)
        exact ⟨y :: text', by rw [← List.cons_append, h, List.cons_append]⟩

/-- **A word that the pattern does not touch** is kept by a replacement. -/
lemma infix_replaceAll {x : Char} {word : List Char} (hx : x ≠ b) (ha : a ∉ x :: word)
    (h : x :: word <:+: text) : x :: word <:+: replaceAll a b c text := by
  obtain ⟨before, after, rfl⟩ := h
  obtain ⟨before', hbefore⟩ := replaceAll_append_of_ne (a := a) (c := c) hx (word ++ after) before
  have hword : replaceAll a b c (x :: (word ++ after)) =
      x :: word ++ replaceAll a b c after := passesOver_of_notMem ha after
  rw [List.append_assoc, List.cons_append, hbefore, hword]
  exact ⟨before', replaceAll a b c after, List.append_assoc _ _ _⟩

/-- **The separators of a list of texts** are replaced, and nothing else. -/
lemma replaceAll_intercalate {texts : List (List Char)} (h : ∀ t ∈ texts, PassesOver a b c t) :
    replaceAll a b c ([a, b].intercalate texts) = [c].intercalate texts := by
  induction texts with
  | nil => rfl
  | cons t texts ih =>
      have ht := h t List.mem_cons_self
      cases texts with
      | nil => rw [List.intercalate_singleton, List.intercalate_singleton, replaceAll_self ht]
      | cons t' texts =>
          have hrest := ih fun u hu => h u (List.mem_cons_of_mem t hu)
          rw [List.intercalate_cons_cons, List.intercalate_cons_cons, List.append_assoc,
            List.cons_append, List.cons_append, List.nil_append, replaceAll_append ht, hrest,
            List.append_assoc, List.singleton_append]

/-- **The mark in each of a list of texts** is replaced, and nothing else. -/
lemma replaceAll_marks {sep : Char} (hsep : sep ≠ a) {pairs : List (List Char × List Char)}
    (h : ∀ e ∈ pairs, PassesOver a b c e.1 ∧ PassesOver a b c e.2) :
    replaceAll a b c ([sep].intercalate (pairs.map fun e => e.1 ++ a :: b :: e.2)) =
      [sep].intercalate (pairs.map fun e => e.1 ++ c :: e.2) := by
  induction pairs with
  | nil => rfl
  | cons e pairs ih =>
      obtain ⟨hkey, hvalue⟩ := h e List.mem_cons_self
      by_cases hnil : pairs = []
      · rw [hnil, List.map_singleton, List.map_singleton, List.intercalate_singleton,
          List.intercalate_singleton, replaceAll_append hkey, replaceAll_self hvalue]
      · have hrest := ih fun u hu => h u (List.mem_cons_of_mem e hu)
        have hvalue' : PassesOver a b c (e.2 ++ [sep]) :=
          hvalue.append (passesOver_singleton hsep)
        rw [List.map_cons, List.map_cons,
          List.intercalate_cons_of_ne_nil (List.map_eq_nil_iff.not.mpr hnil),
          List.intercalate_cons_of_ne_nil (List.map_eq_nil_iff.not.mpr hnil), List.append_assoc,
          List.append_assoc, List.cons_append, List.cons_append, replaceAll_append hkey,
          ← List.append_assoc, hvalue', hrest]
        simp only [List.append_assoc, List.cons_append]

end PassesOver

/-- A text on one line that both replacements of `cborToRegularTextString` pass
over. -/
structure Plain (text : List Char) : Prop where
  commas : PassesOver ',' ' ' '\n' text
  colons : PassesOver ':' ' ' '=' text
  newline : '\n' ∉ text

lemma Plain.append {text text' : List Char} (h : Plain text) (h' : Plain text') :
    Plain (text ++ text') := by
  refine ⟨h.commas.append h'.commas, h.colons.append h'.colons, fun hmem => ?_⟩
  rcases List.mem_append.mp hmem with hmem | hmem
  · exact h.newline hmem
  · exact h'.newline hmem

lemma plain_of_forall_ne {text : List Char} (h : ∀ c ∈ text, c ≠ ',' ∧ c ≠ ':' ∧ c ≠ '\n') :
    Plain text :=
  ⟨passesOver_of_notMem fun hmem => (h _ hmem).1 rfl,
    passesOver_of_notMem fun hmem => (h _ hmem).2.1 rfl, fun hmem => (h _ hmem).2.2 rfl⟩

/-- A colon that no blank follows. -/
lemma Plain.colon {x : Char} {text : List Char} (hx : x ≠ ' ') (h : Plain (x :: text)) :
    Plain (':' :: x :: text) := by
  refine ⟨(passesOver_singleton (by decide)).append h.commas, passesOver_cons hx h.colons, ?_⟩
  exact fun hmem => h.newline ((List.mem_cons.mp hmem).resolve_left (by decide))

/-! ### The lines of an info -/

/-- The line of an entry. -/
def line (p : Platform) (entry : String × Value) : String :=
  entry.1 ++ "=" ++ entry.2.toText p

/-- Entries whose texts are plain. -/
def PlainEntries (p : Platform) (info : List (String × Value)) : Prop :=
  ∀ e ∈ info, Plain e.1.toList ∧ Plain (e.2.toText p).toList

lemma mapText_toList (p : Platform) (info : List (String × Value)) :
    (mapText p info).toList =
      '{' :: [',', ' '].intercalate (info.map fun e =>
        e.1.toList ++ ':' :: ' ' :: (e.2.toText p).toList) ++ ['}'] := by
  simp [mapText, Function.comp_def]

/-- What stands between the braces of a printed map. -/
lemma mapText_body (p : Platform) (info : List (String × Value)) :
    ((mapText p info).toList.drop 1).dropLast =
      [',', ' '].intercalate (info.map fun e =>
        e.1.toList ++ ':' :: ' ' :: (e.2.toText p).toList) := by
  rw [mapText_toList, List.cons_append, List.drop_one, List.tail_cons, List.dropLast_concat]

/-- **A map with plain texts becomes its lines**, in the order of the map. -/
theorem cborToRegularTextString_eq {info : List (String × Value)} (h : PlainEntries p info) :
    cborToRegularTextString p info = "\n".intercalate (info.map (line p)) := by
  -- the entries as their printed keys and values
  let pairs := info.map fun e => (e.1.toList, (e.2.toText p).toList)
  have hpairs : ∀ e ∈ pairs, Plain e.1 ∧ Plain e.2 := by
    intro e he
    obtain ⟨entry, hentry, rfl⟩ := List.mem_map.mp he
    exact h entry hentry
  have hbody : ((mapText p info).toList.drop 1).dropLast =
      [',', ' '].intercalate (pairs.map fun e => e.1 ++ ':' :: ' ' :: e.2) := by
    rw [mapText_body, List.map_map]
    rfl
  have hcommas : replaceAll ',' ' ' '\n' ((mapText p info).toList.drop 1).dropLast =
      ['\n'].intercalate (pairs.map fun e => e.1 ++ ':' :: ' ' :: e.2) := by
    rw [hbody, replaceAll_intercalate]
    intro text htext
    obtain ⟨e, he, rfl⟩ := List.mem_map.mp htext
    obtain ⟨hkey, hvalue⟩ := hpairs e he
    exact hkey.commas.append ((passesOver_of_notMem (by decide) :
      PassesOver ',' ' ' '\n' [':', ' ']).append hvalue.commas)
  have hcolons : replaceAll ':' ' ' '='
      (replaceAll ',' ' ' '\n' ((mapText p info).toList.drop 1).dropLast) =
      ['\n'].intercalate (pairs.map fun e => e.1 ++ '=' :: e.2) := by
    rw [hcommas, replaceAll_marks (by decide)]
    exact fun e he => ⟨(hpairs e he).1.colons, (hpairs e he).2.colons⟩
  rw [← String.toList_inj, String.toList_intercalate, List.map_map, cborToRegularTextString,
    String.toList_ofList, hcolons, List.map_map]
  congr 1
  refine List.map_congr_left fun e _ => ?_
  simp [line]

/-- The lines are told apart by the newlines. -/
lemma splitOn_lines {info : List (String × Value)} (h : PlainEntries p info) (hne : info ≠ []) :
    (cborToRegularTextString p info).toList.splitOn '\n' =
      info.map fun e => (line p e).toList := by
  rw [cborToRegularTextString_eq h, String.toList_intercalate, List.map_map]
  refine List.splitOn_intercalate '\n' (fun text htext => ?_) (List.map_eq_nil_iff.not.mpr hne)
  obtain ⟨e, he, rfl⟩ := List.mem_map.mp htext
  obtain ⟨hkey, hvalue⟩ := h e he
  have hmark : Plain ['='] := plain_of_forall_ne (by simp)
  have hline : (line p e).toList = e.1.toList ++ ['='] ++ (e.2.toText p).toList := by
    simp [line]
  rw [Function.comp_apply, hline]
  exact ((hkey.append hmark).append hvalue).newline

/-- A text among those that are joined. -/
lemma infix_intercalate {α : Type} {separator part : List α} {parts : List (List α)}
    (h : part ∈ parts) : part <:+: separator.intercalate parts := by
  induction parts with
  | nil => exact absurd h List.not_mem_nil
  | cons first parts ih =>
      by_cases hnil : parts = []
      · subst hnil
        rw [List.mem_singleton.mp h, List.intercalate_singleton]
      · rw [List.intercalate_cons_of_ne_nil hnil, List.append_assoc]
        rcases List.mem_cons.mp h with rfl | h
        · exact (List.prefix_append _ _).isInfix
        · exact (ih h).trans (((List.suffix_append _ _).trans (List.suffix_append _ _)).isInfix)

/-- **A word of a key** stands in the text of the map, whatever its values are. -/
lemma infix_cborToRegularTextString {info : List (String × Value)} {e : String × Value}
    (he : e ∈ info) {x : Char} {word : List Char} (hx : x ≠ ' ') (hcomma : ',' ∉ x :: word)
    (hcolon : ':' ∉ x :: word) (hkey : x :: word <:+: e.1.toList) :
    x :: word <:+: (cborToRegularTextString p info).toList := by
  have hentry : x :: word <:+: e.1.toList ++ ':' :: ' ' :: (e.2.toText p).toList :=
    hkey.trans (List.prefix_append _ _).isInfix
  have hbody : x :: word <:+: ((mapText p info).toList.drop 1).dropLast := by
    rw [mapText_body]
    exact hentry.trans (infix_intercalate (List.mem_map_of_mem he))
  rw [cborToRegularTextString, String.toList_ofList]
  exact infix_replaceAll hx hcolon (infix_replaceAll hx hcomma hbody)

/-! ### What the platform prints -/

/-- The characters of a printed number: digits, a sign, a point, an exponent and
the names of the special doubles. -/
def NumberCharacter (c : Char) : Prop := c.isDigit = true ∨ c ∈ "+-.eInfinityNaN".toList

instance (c : Char) : Decidable (NumberCharacter c) := by
  unfold NumberCharacter
  infer_instance

lemma NumberCharacter.ne {c d : Char} (h : NumberCharacter c) (hd : ¬ NumberCharacter d) :
    c ≠ d := fun heq => hd (heq ▸ h)

/-- `double.toString`. -/
def PrintsDoubles (p : Platform) : Prop :=
  ∀ bits, ∀ c ∈ (p.doubleText bits).toList, NumberCharacter c

/-- A number printed with at least `width` digits. -/
def Padded (width : ℕ) (text : String) : Prop :=
  width ≤ text.length ∧ ∀ c ∈ text.toList, c.isDigit = true

instance (width : ℕ) (text : String) : Decidable (Padded width text) :=
  decidable_of_iff (width ≤ text.length ∧ text.toList.all Char.isDigit = true)
    (and_congr_right' List.all_eq_true)

def weekdays : List String := ["Mon", "Tue", "Wed", "Thu", "Fri", "Sat", "Sun"]

def months : List String :=
  ["Jan", "Feb", "Mar", "Apr", "May", "Jun", "Jul", "Aug", "Sep", "Oct", "Nov", "Dec"]

/-- `DateFormat('EEE MMM dd HH:mm:ss yyyy')` in the default locale. -/
def PrintsDates (p : Platform) : Prop :=
  ∀ ms : ℤ, ∃ EEE ∈ weekdays, ∃ MMM ∈ months, ∃ dd HH mm ss yyyy,
    (∀ text ∈ [dd, HH, mm, ss], Padded 2 text) ∧ Padded 4 yyyy ∧
      p.formatDate textPattern ms =
        EEE ++ " " ++ MMM ++ " " ++ dd ++ " " ++ HH ++ ":" ++ mm ++ ":" ++ ss ++ " " ++ yyyy

/-- `value is num`. -/
def IsNumber : Value → Prop
  | .int _ | .double _ => True
  | _ => False

instance : DecidablePred IsNumber
  | .int _ | .double _ => isTrue trivial
  | .null | .bool _ | .string _ | .bytes _ | .other _ => isFalse id

lemma numberCharacter_int (n : ℤ) : ∀ c ∈ (toString n).toList, NumberCharacter c := by
  have hdigits : ∀ k : ℕ, ∀ c ∈ k.repr.toList, NumberCharacter c := by
    intro k c hc
    rw [Nat.toList_repr] at hc
    exact Or.inl (Nat.isDigit_of_mem_toDigits (by decide) (by decide) hc)
  intro c hc
  rw [Int.toString_eq_repr, Int.repr_eq_if] at hc
  split_ifs at hc with hsign
  · exact hdigits _ c hc
  · rw [String.toList_append] at hc
    rcases List.mem_append.mp hc with hc | hc
    · rw [List.mem_singleton.mp hc]
      decide
    · exact hdigits _ c hc

lemma numberCharacter_of_isNumber (hdoubles : PrintsDoubles p) {v : Value} (hv : IsNumber v) :
    ∀ c ∈ (v.toText p).toList, NumberCharacter c := by
  cases v with
  | int n => exact numberCharacter_int n
  | double bits => exact hdoubles bits
  | _ => exact absurd hv id

/-- The text of a value that is plain and does not begin the marker of the
estimated errors. -/
structure PlainValue (text : List Char) : Prop extends Plain text where
  marker : 'E' ∉ text

lemma plainValue_of_isNumber (hdoubles : PrintsDoubles p) {v : Value} (hv : IsNumber v) :
    PlainValue (v.toText p).toList := by
  have hchars := numberCharacter_of_isNumber hdoubles hv
  refine ⟨plain_of_forall_ne fun c hc => ?_, fun hc => (hchars _ hc).ne (by decide) rfl⟩
  have hc := hchars c hc
  exact ⟨hc.ne (by decide), hc.ne (by decide), hc.ne (by decide)⟩

lemma PlainValue.append {text text' : List Char} (h : PlainValue text) (h' : PlainValue text') :
    PlainValue (text ++ text') := by
  refine ⟨h.toPlain.append h'.toPlain, fun hmem => ?_⟩
  rcases List.mem_append.mp hmem with hmem | hmem
  · exact h.marker hmem
  · exact h'.marker hmem

lemma plainValue_of_forall_ne {text : List Char}
    (h : ∀ c ∈ text, c ≠ ',' ∧ c ≠ ':' ∧ c ≠ '\n' ∧ c ≠ 'E') : PlainValue text :=
  ⟨plain_of_forall_ne fun c hc => ⟨(h c hc).1, (h c hc).2.1, (h c hc).2.2.1⟩,
    fun hc => (h _ hc).2.2.2 rfl⟩

lemma plainValue_padded {width : ℕ} {text : String} (h : Padded width text) :
    PlainValue text.toList := by
  refine plainValue_of_forall_ne fun c hc => ?_
  have hdigit := h.2 c hc
  refine ⟨?_, ?_, ?_, ?_⟩ <;> rintro rfl <;> exact absurd hdigit (by decide)

/-- A colon before a number. -/
lemma plainValue_colon_padded {width : ℕ} {text : String} (h : Padded (width + 1) text) :
    PlainValue (':' :: text.toList) := by
  have hplain := plainValue_padded h
  obtain ⟨hwidth, hdigits⟩ := h
  rw [← String.length_toList] at hwidth
  cases hchars : text.toList with
  | nil =>
      rw [hchars] at hwidth
      exact absurd hwidth (by simp)
  | cons x chars =>
      rw [hchars] at hplain hdigits
      have hx : x ≠ ' ' := by
        rintro rfl
        exact absurd (hdigits ' ' List.mem_cons_self) (by decide)
      refine ⟨hplain.toPlain.colon hx, fun hmem => ?_⟩
      exact hplain.marker ((List.mem_cons.mp hmem).resolve_left (by decide))

lemma plainValue_name {name : String} (h : name ∈ weekdays ++ months) :
    PlainValue name.toList := by
  have hnames : ∀ name ∈ weekdays ++ months,
      name.toList.all (fun c => c ≠ ',' ∧ c ≠ ':' ∧ c ≠ '\n' ∧ c ≠ 'E') = true := by decide
  exact plainValue_of_forall_ne (by simpa using hnames name h)

/-- **A printed date is plain**: its colons stand between digits. -/
lemma plainValue_date (hdates : PrintsDates p) (ms : ℤ) :
    PlainValue (p.formatDate textPattern ms).toList := by
  obtain ⟨EEE, hEEE, MMM, hMMM, dd, HH, mm, ss, yyyy, hpadded, hyyyy, htext⟩ := hdates ms
  have hday : PlainValue EEE.toList := plainValue_name (List.mem_append_left months hEEE)
  have hmonth : PlainValue MMM.toList := plainValue_name (List.mem_append_right weekdays hMMM)
  have hblank : PlainValue [' '] := plainValue_of_forall_ne (by simp)
  have hchars : (p.formatDate textPattern ms).toList =
      EEE.toList ++ [' '] ++ MMM.toList ++ [' '] ++ dd.toList ++ [' '] ++ HH.toList ++
        (':' :: mm.toList) ++ (':' :: ss.toList) ++ [' '] ++ yyyy.toList := by
    rw [htext]
    simp
  rw [hchars]
  have hdd := plainValue_padded (hpadded dd (by simp))
  have hHH := plainValue_padded (hpadded HH (by simp))
  have hmm := plainValue_colon_padded (hpadded mm (by simp))
  have hss := plainValue_colon_padded (hpadded ss (by simp))
  have hdate := ((((hday.append hblank).append hmonth).append hblank).append hdd).append hblank
  exact ((((hdate.append hHH).append hmm).append hss).append hblank).append
    (plainValue_padded hyyyy)

/-! ### The info of a set -/

lemma plain_infoKey {key : String} (h : key ∈ infoKeys) : Plain key.toList := by
  have hkeys : ∀ key ∈ infoKeys,
      key.toList.all (fun c => c ≠ ',' ∧ c ≠ ':' ∧ c ≠ '\n') = true := by decide
  exact plain_of_forall_ne (by simpa using hkeys key h)

end SopepApp.ReadData
