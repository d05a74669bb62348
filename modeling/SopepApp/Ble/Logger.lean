import SopepApp.Ble.Receive
import SopepApp.Dart.Text

/-!
The log of the app, `BleLogger` of `ble_logger.dart`, and the tab that shows it,
`device_log_tab.dart`.

* `Message`, `entry`: the messages of the app, by the tag in their brackets, and
  an entry of the log;
* `Session`, `step`: the receive path with its log, and the other messages;
* `itemBuilder`: the row of the tab for an entry;
* `rxRaw?`, `rx?`: an entry read as the bytes or the map that has been received;
* `log_replays`: the raw entries of a log, given to a decoder, yield the responses
  of the session, whether or not their maps have been logged.
-/

namespace SopepApp.Logger

open Dart Transition Receive

variable (p : Platform) (pkg : Packages) (hexEncode : List UInt8 → String)

/-! ### Messages -/

/-- The tags that are fixed. -/
inductive Tag where
  | ble
  | bleErr
  | rxErr
  | tx
  | txErr
  | file
  | firm

/-- A message of the app. -/
inductive Message where
  /-- a chunk, in `enableNotification` -/
  | rxRaw (data : List UInt8)
  /-- a decoded map, in `enableNotification` -/
  | rx (dataMap : DataMap)
  /-- the bytes written, in `writeCborWithoutResponse` -/
  | txRaw (encoded : List UInt8)
  /-- a value read, in `readCharacteristic` -/
  | read (characteristicId : String) (result : String)
  | tagged (tag : Tag) (text : String)

/-- The tag in brackets. -/
def Tag.text : Tag → String
  | .ble => "BLE"
  | .bleErr => "BLE,ERR"
  | .rxErr => "RX,ERR"
  | .tx => "TX"
  | .txErr => "TX,ERR"
  | .file => "FILE"
  | .firm => "FIRM"

/-- `'$dataMap'`. -/
def mapText (dataMap : DataMap) : String :=
  "\x7b" ++ ", ".intercalate (dataMap.entries.map fun e => e.1.toText p ++ ": " ++ e.2.toText p) ++
    "\x7d"

/-- The tag of a message. -/
def Message.tag : Message → String
  | .rxRaw data => "RX_RAW, " ++ toString data.length ++ "B"
  | .rx _ => "RX"
  | .txRaw encoded => "TX_RAW, " ++ toString encoded.length ++ "B"
  | .read _ _ => "RX"
  | .tagged tag _ => tag.text

/-- What follows the brackets and a blank. -/
def Message.body : Message → String
  | .rxRaw data => (hexEncode data).toUpper
  | .rx dataMap => mapText p dataMap
  | .txRaw encoded => (hexEncode encoded).toUpper
  | .read characteristicId result => "Read " ++ characteristicId ++ ": value = " ++ result
  | .tagged _ text => text

/-- The entry that `addToLog` makes of a message at the time `now`. -/
def entry (now : ℤ) (message : Message) : String :=
  p.formatDate "HH:mm:ss.SSS" now ++ ": " ++
    ("[" ++ message.tag ++ "] " ++ message.body p hexEncode)

/-! ### The log of a session -/

/-- The receive path, the flag `_enableLogging` and the list `_logMessages`. -/
structure Session where
  receiver : Receiver := {}
  enableLogging : Bool := true
  messages : List String := []

/-- What happens to them. -/
inductive Event where
  /-- the device notifies a chunk -/
  | data (now : ℤ) (chunk : List UInt8)
  | enableNotification (deviceId sopepId : String)
  | disableNotification
  | setEnableLogging (val : Bool)
  /-- another message of the app -/
  | log (now : ℤ) (tag : Tag) (text : String)
  | logTxRaw (now : ℤ) (encoded : List UInt8)
  | logRead (now : ℤ) (characteristicId result : String)
  | clearLogs

/-- `addToLog`. -/
def addToLog (now : ℤ) (message : Message) (s : Session) : Session :=
  { s with messages := s.messages ++ [entry p hexEncode now message] }

/-- The callback of a subscription with its messages: the raw one comes first, and
that of a map right after its response has been added to the stream. -/
def onData (now : ℤ) (chunk : List UInt8) (s : Session) : Session :=
  let s := addToLog p hexEncode now (.rxRaw chunk) s
  let receiver := (notification p pkg now chunk).finalState s.receiver
  let maps := (receiver.responses.drop s.receiver.responses.length).filterMap ResponseData.dataMap
  let s := { s with receiver := receiver }
  if s.enableLogging then maps.foldl (fun s m => addToLog p hexEncode now (.rx m) s) s else s

/-- An event. -/
def step (s : Session) : Event → Session
  | .data now chunk =>
    s.receiver.link.liveNotifications.foldl (fun s _ => onData p pkg hexEncode now chunk s) s
  | .enableNotification deviceId sopepId =>
    { s with receiver := enableNotification deviceId sopepId s.receiver }
  | .disableNotification => { s with receiver := disableNotification s.receiver }
  | .setEnableLogging val => { s with enableLogging := val }
  | .log now tag text => addToLog p hexEncode now (.tagged tag text) s
  | .logTxRaw now encoded => addToLog p hexEncode now (.txRaw encoded) s
  | .logRead now characteristicId result =>
    addToLog p hexEncode now (.read characteristicId result) s
  | .clearLogs => { s with messages := [] }

/-! ### The tab -/

/-- `message.indexOf(']')`. -/
def bracket (message : String) : ℤ := indexOf [']'] message.toList

/-- `_generateMessage`: the part in bold and the other one. -/
def generateMessage (message : String) : Except Error (String × String) := do
  let tag ← substring message 0 (bracket message + 1)
  let text ← substring message (bracket message + 1) message.length
  return (tag, text)

/-- The row of a message, none if it is left out. -/
def itemBuilder (showRawToggle : Bool) (message : String) :
    Except Error (Option (String × String)) := do
  if showRawToggle then return some (← generateMessage message)
  else
    let start ← substring message 0 (bracket message)
    if "RAW".toList <:+: start.toList then return none
    else return some (← generateMessage message)

/-! ### Reading the log -/

/-- The tag in the brackets of an entry. -/
def tagOf (entry : String) : List Char :=
  ((entry.toList.dropWhile (· ≠ '[')).drop 1).takeWhile (· ≠ ']')

/-- What follows the brackets and a blank. -/
def bodyOf (entry : String) : List Char := (entry.toList.dropWhile (· ≠ ']')).drop 2

/-- The bytes received, of a raw entry. -/
def rxRaw? (entry : String) : Option (List UInt8) :=
  if "RX_RAW".toList <+: tagOf entry then Hex.decode (bodyOf entry) else none

/-- The text of the map received. -/
def rx? (entry : String) : Option String :=
  if tagOf entry = "RX".toList ∧ ['{'] <+: bodyOf entry then some (String.ofList (bodyOf entry))
  else none

/-- A time is printed with digits and marks. -/
def PlainTimes : Prop :=
  ∀ now, ∀ c ∈ (p.formatDate "HH:mm:ss.SSS" now).toList, c.isDigit ∨ c = ':' ∨ c = '.'

/-- `hex.encode`: two digits in lower case for each byte. -/
def StandardHexEncode : Prop := ∀ bs, hexEncode bs = String.ofList (Hex.encode bs)

variable {p pkg hexEncode}

/-! ### One entry -/

/-- The characters before the brackets. -/
lemma before_brackets (h : PlainTimes p) (now : ℤ) :
    ∀ c ∈ (p.formatDate "HH:mm:ss.SSS" now).toList ++ [':', ' '], c ∉ ['[', ']', 'R'] := by
  intro c hc
  rcases List.mem_append.mp hc with hc | hc
  · rcases h now c hc with hdigit | rfl | rfl
    · simp only [List.mem_cons, List.not_mem_nil, or_false]
      rintro (rfl | rfl | rfl)
      all_goals exact absurd hdigit (by decide)
    · decide
    · decide
  · simp only [List.mem_cons, List.not_mem_nil, or_false] at hc
    rcases hc with rfl | rfl
    · decide
    · decide

lemma toList_entry (now : ℤ) (message : Message) : (entry p hexEncode now message).toList =
    ((p.formatDate "HH:mm:ss.SSS" now).toList ++ [':', ' ']) ++
      '[' :: (message.tag.toList ++ ']' :: ' ' :: (message.body p hexEncode).toList) := by
  simp [entry, List.append_assoc]

/-- A count is printed with digits. -/
lemma isDigit_toString {n : ℕ} {c : Char} (h : c ∈ (toString n).toList) : c.isDigit := by
  rw [Nat.toString_eq_repr, Nat.toList_repr] at h
  exact Nat.isDigit_of_mem_toDigits (by decide) (by decide) h

/-- The tag of raw bytes. -/
lemma notMem_rawTag {front : String} (hfront : ']' ∉ front.toList) (n : ℕ) :
    ']' ∉ (front ++ toString n ++ "B").toList := by
  rw [String.toList_append, String.toList_append, List.mem_append, List.mem_append]
  rintro ((h | h) | h)
  · exact hfront h
  · exact absurd (isDigit_toString h) (by decide)
  · exact absurd h (by decide)

/-- No tag has a bracket. -/
lemma notMem_tag (message : Message) : ']' ∉ message.tag.toList := by
  cases message with
  | rxRaw data => exact notMem_rawTag (by decide) _
  | txRaw encoded => exact notMem_rawTag (by decide) _
  | rx dataMap => exact (by decide : ']' ∉ "RX".toList)
  | read characteristicId result => exact (by decide : ']' ∉ "RX".toList)
  | tagged tag text =>
      rw [Message.tag]
      cases tag <;> decide

section Entry

variable (h : PlainTimes p) (now : ℤ) (message : Message)
include h

/-- The first bracket that closes is that of the tag. -/
lemma notMem_before_close :
    ']' ∉ ((p.formatDate "HH:mm:ss.SSS" now).toList ++ [':', ' ']) ++
      '[' :: message.tag.toList := by
  intro hmem
  rcases List.mem_append.mp hmem with hc | hc
  · have hno := before_brackets h now _ hc
    simp at hno
  · rcases List.mem_cons.mp hc with hc | hc
    · exact absurd hc (by decide)
    · exact notMem_tag message hc

/-- The tag is read back. -/
lemma tagOf_entry : tagOf (entry p hexEncode now message) = message.tag.toList := by
  have hbefore : ∀ c ∈ (p.formatDate "HH:mm:ss.SSS" now).toList ++ [':', ' '],
      decide (c ≠ '[') = true := by
    intro c hc
    have hno := before_brackets h now c hc
    simp only [List.mem_cons, not_or] at hno
    exact decide_eq_true hno.1
  have htag : ∀ c ∈ message.tag.toList, decide (c ≠ ']') = true := by
    intro c hc
    exact decide_eq_true fun heq => notMem_tag message (heq ▸ hc)
  rw [tagOf, toList_entry, List.dropWhile_append_of_pos hbefore,
    List.dropWhile_cons_of_neg (by decide), List.drop_one, List.tail_cons,
    List.takeWhile_append_of_pos htag, List.takeWhile_cons_of_neg (by decide), List.append_nil]

/-- So is what follows it. -/
lemma bodyOf_entry :
    bodyOf (entry p hexEncode now message) = (message.body p hexEncode).toList := by
  have hbefore : ∀ c ∈ ((p.formatDate "HH:mm:ss.SSS" now).toList ++ [':', ' ']) ++
      '[' :: message.tag.toList, decide (c ≠ ']') = true := by
    intro c hc
    exact decide_eq_true fun heq => notMem_before_close h now message (heq ▸ hc)
  rw [bodyOf, toList_entry, ← List.cons_append, ← List.append_assoc,
    List.dropWhile_append_of_pos hbefore]
  simp

end Entry

/-- The bytes of a chunk. -/
def Message.rxRaw? : Message → Option (List UInt8)
  | .rxRaw data => some data
  | .rx _ => none
  | .txRaw _ => none
  | .read _ _ => none
  | .tagged _ _ => none

/-- The map. -/
def Message.rx? : Message → Option DataMap
  | .rxRaw _ => none
  | .rx dataMap => some dataMap
  | .txRaw _ => none
  | .read _ _ => none
  | .tagged _ _ => none

/-- A raw tag begins with its word. -/
lemma prefix_rawTag {front : String} (n : ℕ) :
    front.toList <+: (front ++ toString n ++ "B").toList := by
  rw [String.toList_append, String.toList_append, List.append_assoc]
  exact List.prefix_append _ _

/-- The tags of raw chunks. -/
lemma prefix_tag_iff (message : Message) :
    "RX_RAW".toList <+: message.tag.toList ↔ message.rxRaw?.isSome := by
  cases message with
  | rxRaw data =>
      have hword : "RX_RAW".toList <+: "RX_RAW, ".toList := by decide
      exact iff_of_true (hword.trans (prefix_rawTag data.length)) rfl
  | txRaw encoded =>
      refine iff_of_false (fun hprefix => ?_) Bool.false_ne_true
      rw [Message.tag, String.toList_append, String.toList_append] at hprefix
      exact absurd (List.cons_prefix_cons.mp hprefix).1 (by decide)
  | rx dataMap => exact iff_of_false (by rw [Message.tag]; decide) Bool.false_ne_true
  | read characteristicId result =>
      exact iff_of_false (by rw [Message.tag]; decide) Bool.false_ne_true
  | tagged tag text =>
      refine iff_of_false ?_ Bool.false_ne_true
      rw [Message.tag]
      cases tag <;> decide

/-- The tag of maps, and of values that are read. -/
lemma tag_eq_rx {message : Message} (h : message.tag.toList = "RX".toList) :
    message.rx?.isSome ∨ ∃ characteristicId result, message = .read characteristicId result := by
  cases message with
  | rxRaw data =>
      have hlong := (@prefix_rawTag "RX_RAW, " data.length).length_le
      rw [Message.tag] at h
      rw [h] at hlong
      exact absurd hlong (by decide)
  | txRaw encoded =>
      have hlong := (@prefix_rawTag "TX_RAW, " encoded.length).length_le
      rw [Message.tag] at h
      rw [h] at hlong
      exact absurd hlong (by decide)
  | rx dataMap => exact Or.inl rfl
  | read characteristicId result => exact Or.inr ⟨_, _, rfl⟩
  | tagged tag text =>
      rw [Message.tag] at h
      cases tag <;> exact absurd h (by decide)

/-- **A raw entry is read back** as its bytes, and no other entry is taken for
one. -/
lemma rxRaw?_entry (h : PlainTimes p) (hhex : StandardHexEncode hexEncode) (now : ℤ)
    (message : Message) : rxRaw? (entry p hexEncode now message) = message.rxRaw? := by
  rw [rxRaw?, tagOf_entry h, bodyOf_entry h]
  split_ifs with htag
  · obtain ⟨data, hdata⟩ := Option.isSome_iff_exists.mp ((prefix_tag_iff message).mp htag)
    cases message with
    | rxRaw data =>
        have hbody : ((Message.rxRaw data).body p hexEncode).toList =
            (Hex.encode data).map Char.toUpper := by
          rw [Message.body, hhex, String.toUpper, String.toList_map, String.toList_ofList]
        rw [hbody, Hex.decode_toUpper_encode, Message.rxRaw?]
    | rx dataMap | txRaw encoded | read characteristicId result | tagged tag text =>
        exact absurd hdata (by simp [Message.rxRaw?])
  · rw [prefix_tag_iff, Bool.not_eq_true, Option.isSome_eq_false_iff,
      Option.isNone_iff_eq_none] at htag
    exact htag.symm

/-- **The entry of a map is read back** as its text, and no other entry is taken
for one. -/
lemma rx?_entry (h : PlainTimes p) (now : ℤ) (message : Message) :
    rx? (entry p hexEncode now message) = message.rx?.map (mapText p) := by
  rw [rx?, tagOf_entry h, bodyOf_entry h]
  split_ifs with hrx
  · obtain ⟨htag, hbody⟩ := hrx
    rcases tag_eq_rx htag with hsome | ⟨characteristicId, result, rfl⟩
    · obtain ⟨dataMap, hmap⟩ := Option.isSome_iff_exists.mp hsome
      cases message with
      | rx dataMap => rw [Message.body, String.ofList_toList, Message.rx?, Option.map_some]
      | rxRaw data | txRaw encoded | read characteristicId result | tagged tag text =>
          exact absurd hmap (by simp [Message.rx?])
    · -- the text of a value that is read begins with another letter
      rw [Message.body, String.append_assoc, String.append_assoc, String.toList_append] at hbody
      exact absurd (List.cons_prefix_cons.mp hbody).1 (by decide)
  · cases message with
    | rx dataMap =>
        have hbody : ['{'] <+: (mapText p dataMap).toList := by
          rw [mapText, String.toList_append, String.toList_append, List.append_assoc]
          exact List.prefix_append _ _
        exact absurd ⟨rfl, hbody⟩ hrx
    | rxRaw data | txRaw encoded | read characteristicId result | tagged tag text => rfl

/-! ### The row of an entry -/

/-- What the tab leaves out. -/
def Message.isRaw : Message → Bool
  | .rxRaw _ => true
  | .rx _ => false
  | .txRaw _ => true
  | .read _ _ => false
  | .tagged _ _ => false

lemma rx?_of_isRaw {message : Message} (h : message.isRaw = true) : message.rx? = none := by
  cases message with
  | rxRaw data | txRaw encoded => rfl
  | rx dataMap | read characteristicId result | tagged tag text => exact absurd h Bool.false_ne_true

lemma rxRaw?_of_not_isRaw {message : Message} (h : message.isRaw = false) :
    message.rxRaw? = none := by
  cases message with
  | rxRaw data => exact absurd h.symm Bool.false_ne_true
  | rx dataMap | txRaw encoded | read characteristicId result | tagged tag text => rfl

/-- Raw tags have the word, and no other tag has. -/
lemma raw_infix_tag (message : Message) :
    "RAW".toList <:+: message.tag.toList ↔ message.isRaw = true := by
  cases message with
  | rxRaw data =>
      have hword : "RAW".toList <:+: "RX_RAW, ".toList := by decide
      exact iff_of_true (hword.trans (prefix_rawTag data.length).isInfix) rfl
  | txRaw encoded =>
      have hword : "RAW".toList <:+: "TX_RAW, ".toList := by decide
      exact iff_of_true (hword.trans (prefix_rawTag encoded.length).isInfix) rfl
  | rx dataMap => exact iff_of_false (by rw [Message.tag]; decide) Bool.false_ne_true
  | read characteristicId result =>
      exact iff_of_false (by rw [Message.tag]; decide) Bool.false_ne_true
  | tagged tag text =>
      refine iff_of_false ?_ Bool.false_ne_true
      rw [Message.tag]
      cases tag <;> decide

/-- A message up to its bracket and after it. -/
lemma generateMessage_eq_ok {message : String} {n : ℕ} (hbracket : bracket message = n)
    (hn : n < message.length) : ∃ r, generateMessage message = .ok r ∧ r.1 ++ r.2 = message := by
  refine ⟨(String.ofList (message.toList.take (n + 1)),
    String.ofList (message.toList.drop (n + 1))), ?_, ?_⟩
  · rw [generateMessage, hbracket, ← Nat.cast_succ, substring_first hn, substring_rest hn]
    rfl
  · rw [← String.ofList_append, List.take_append_drop, String.ofList_toList]

/-- The row of a message that has a bracket. -/
lemma itemBuilder_false {message : String} {start : List Char}
    (hstart : substring message 0 (bracket message) = .ok (String.ofList start)) :
    itemBuilder false message = if "RAW".toList <:+: start then .ok none
      else (generateMessage message).map some := by
  have hlist : (String.ofList start).toList = start := String.toList_ofList
  rw [itemBuilder, if_neg Bool.false_ne_true, hstart]
  simp only [bind, Except.bind, hlist]
  split_ifs
  · rfl
  · cases generateMessage message <;> rfl

/-- **The row of an entry**: the tab cuts it into two parts that make it up, and
leaves it out exactly if it is raw and raw data are not shown. -/
lemma itemBuilder_entry (h : PlainTimes p) (showRawToggle : Bool) (now : ℤ) (message : Message) :
    ∃ row, itemBuilder showRawToggle (entry p hexEncode now message) = .ok row ∧
      row.map (fun r => r.1 ++ r.2) =
        if showRawToggle = false ∧ message.isRaw = true then none
        else some (entry p hexEncode now message) := by
  have htext := @toList_entry p hexEncode now message
  rw [← List.cons_append, ← List.append_assoc] at htext
  set before := ((p.formatDate "HH:mm:ss.SSS" now).toList ++ [':', ' ']) ++
    '[' :: message.tag.toList with hbefore
  have hbracket : bracket (entry p hexEncode now message) = (before.length : ℕ) := by
    have hself : indexOf [']'] (']' :: ' ' :: (message.body p hexEncode).toList) = 0 :=
      indexOf_append_self [']'] _
    rw [bracket, htext, indexOf_append (notMem_before_close h now message) hself.ge, hself,
      add_zero]
  have hinside : before.length < (entry p hexEncode now message).length := by
    rw [← String.length_toList, htext]
    simp
  obtain ⟨r, hr, hjoin⟩ := generateMessage_eq_ok hbracket hinside
  have hstart : substring (entry p hexEncode now message) 0 before.length =
      .ok (String.ofList before) := by
    rw [substring_first hinside.le, htext, List.take_left]
  -- neither the time nor the bracket has a letter of the word
  have hraw : "RAW".toList <:+: before ↔ message.isRaw = true := by
    have hplain : 'R' ∉ (p.formatDate "HH:mm:ss.SSS" now).toList ++ [':', ' '] ++ ['['] := by
      intro hmem
      rcases List.mem_append.mp hmem with hc | hc
      · have hno := before_brackets h now _ hc
        simp at hno
      · exact absurd hc (by decide)
    rw [← raw_infix_tag, hbefore, List.append_cons]
    exact infix_append_iff hplain
  cases showRawToggle with
  | true =>
      refine ⟨some r, by rw [itemBuilder, if_pos rfl, hr]; rfl, ?_⟩
      rw [if_neg (by simp), Option.map_some, hjoin]
  | false =>
      rw [← hbracket] at hstart
      rw [itemBuilder_false hstart, hr]
      by_cases hisRaw : message.isRaw = true
      · rw [if_pos (hraw.mpr hisRaw)]
        exact ⟨none, rfl, by rw [if_pos ⟨rfl, hisRaw⟩, Option.map_none]⟩
      · rw [if_neg (hraw.not.mpr hisRaw)]
        refine ⟨some r, rfl, ?_⟩
        rw [if_neg fun hboth => hisRaw hboth.2, Option.map_some, hjoin]

/-! ### What a step adds to the log -/

/-- The maps of responses, as the log writes them. -/
def texts (p : Platform) (answers : List (Option DataMap × ℕ)) : List String :=
  answers.filterMap fun a => a.1.map (mapText p)

lemma texts_append (answers answers' : List (Option DataMap × ℕ)) :
    texts p (answers ++ answers') = texts p answers ++ texts p answers' :=
  List.filterMap_append

/-- Every response that is delivered has a map. -/
lemma texts_eq_nil_iff {q : Pending} {chunks : List (List UInt8)} :
    texts p (outputs (accept pkg) (delivers pkg) q chunks) = [] ↔
      outputs (accept pkg) (delivers pkg) q chunks = [] := by
  have hmap : ∀ a ∈ outputs (accept pkg) (delivers pkg) q chunks, a.1.isSome := by
    induction chunks generalizing q with
    | nil => simp
    | cons chunk chunks ih =>
        intro a ha
        rcases List.mem_append.mp ha with ha | ha
        · rw [delivers] at ha
          split at ha
          · split_ifs at ha
            · exact absurd ha List.not_mem_nil
            · rw [List.mem_singleton.mp ha]
              rfl
          · exact absurd ha List.not_mem_nil
        · exact ih a ha
  rw [texts, List.filterMap_eq_nil_iff, List.eq_nil_iff_forall_not_mem]
  refine forall₂_congr fun a ha => ?_
  obtain ⟨m, hm⟩ := Option.isSome_iff_exists.mp (hmap a ha)
  simp [hm]

variable (p pkg hexEncode) in
/-- Chunks have been received and logged: the receive path has accepted them, and
their maps are in the log if maps are logged. -/
structure Received (chunks : List (List UInt8)) (s s' : Session) : Prop where
  receiver : s'.receiver.pending = run (accept pkg) s.receiver.pending chunks
  responses : ∃ rs, s'.receiver.responses = s.receiver.responses ++ rs ∧
    rs.map ResponseData.delivery = outputs (accept pkg) (delivers pkg) s.receiver.pending chunks
  messages : ∃ new : List (ℤ × Message),
    s'.messages = s.messages ++ new.map (fun m => entry p hexEncode m.1 m.2) ∧
      new.filterMap (fun m => m.2.rxRaw?) = chunks ∧
      new.filterMap (fun m => m.2.rx?.map (mapText p)) =
        if s.enableLogging then
          texts p (outputs (accept pkg) (delivers pkg) s.receiver.pending chunks)
        else []

/-- The maps of a response in the log. -/
lemma foldl_addToLog (now : ℤ) (maps : List DataMap) (s : Session) :
    maps.foldl (fun s m => addToLog p hexEncode now (.rx m) s) s =
      { s with messages := s.messages ++ maps.map fun m => entry p hexEncode now (.rx m) } := by
  induction maps generalizing s with
  | nil => simp
  | cons m maps ih =>
      rw [List.foldl_cons, ih, addToLog]
      simp

/-- What the callback leaves, for the responses `rs` that it adds. -/
lemma onData_eq {now : ℤ} {chunk : List UInt8} {s : Session} {rs : List ResponseData}
    (hrs : ((notification p pkg now chunk).finalState s.receiver).responses =
      s.receiver.responses ++ rs) :
    onData p pkg hexEncode now chunk s =
      ⟨(notification p pkg now chunk).finalState s.receiver, s.enableLogging,
        s.messages ++ (((now, .rxRaw chunk) :: if s.enableLogging then
          (rs.filterMap ResponseData.dataMap).map fun m => (now, .rx m) else []).map
            fun m : ℤ × Message => entry p hexEncode m.1 m.2)⟩ := by
  have hnew : ((notification p pkg now chunk).finalState s.receiver).responses.drop
      s.receiver.responses.length = rs := by
    rw [hrs, List.drop_left]
  rw [onData, addToLog]
  simp only [hnew]
  split_ifs
  · rw [foldl_addToLog]
    simp [Function.comp_def]
  · rfl

/-- **The callback** receives its chunk. -/
lemma received_onData (now : ℤ) (chunk : List UInt8) (s : Session) :
    Received p pkg hexEncode [chunk] s (onData p pkg hexEncode now chunk s) ∧
      (onData p pkg hexEncode now chunk s).enableLogging = s.enableLogging := by
  obtain ⟨hpending, -, rs, hrs, hdelivers⟩ :=
    @pending_notification p pkg s.receiver now chunk
  have hout : outputs (accept pkg) (delivers pkg) s.receiver.pending [chunk] =
      rs.map ResponseData.delivery := by
    rw [outputs, outputs_nil, List.append_nil, hdelivers]
  have htexts : texts p (rs.map ResponseData.delivery) =
      (rs.filterMap ResponseData.dataMap).map (mapText p) := by
    rw [texts, List.filterMap_map, List.map_filterMap]
    rfl
  rw [onData_eq hrs]
  refine ⟨⟨?_, ⟨rs, hrs, hout.symm⟩, _, rfl, ?_, ?_⟩, rfl⟩
  · rw [run_cons, run_nil]
    exact hpending
  · split_ifs
    · simp [List.filterMap_map, Message.rxRaw?]
    · rfl
  · rw [hout, htexts]
    split_ifs
    · simp [List.filterMap_map, Message.rx?]
    · rfl

/-- Chunks after chunks, while nobody sets the flag. -/
lemma Received.trans {chunks chunks' : List (List UInt8)} {s s' s'' : Session}
    (h : Received p pkg hexEncode chunks s s') (hflag : s'.enableLogging = s.enableLogging)
    (h' : Received p pkg hexEncode chunks' s' s'') :
    Received p pkg hexEncode (chunks ++ chunks') s s'' where
  receiver := by rw [run_append, h'.receiver, h.receiver]
  responses := by
    obtain ⟨rs, hrs, hout⟩ := h.responses
    obtain ⟨rs', hrs', hout'⟩ := h'.responses
    refine ⟨rs ++ rs', ?_, ?_⟩
    · rw [hrs', hrs, List.append_assoc]
    · rw [List.map_append, hout, hout', outputs_append, h.receiver]
  messages := by
    obtain ⟨new, hmessages, hraw, hmaps⟩ := h.messages
    obtain ⟨new', hmessages', hraw', hmaps'⟩ := h'.messages
    refine ⟨new ++ new', ?_, ?_, ?_⟩
    · rw [hmessages', hmessages, List.map_append, List.append_assoc]
    · rw [List.filterMap_append, hraw, hraw']
    · rw [List.filterMap_append, hmaps, hmaps', hflag, h.receiver, outputs_append, texts_append]
      split_ifs <;> rfl

/-- Nothing happens. -/
lemma Received.refl (s : Session) : Received p pkg hexEncode [] s s where
  receiver := rfl
  responses := ⟨[], by simp, rfl⟩
  messages := ⟨[], by simp, rfl, by simp [texts]⟩

/-- **An event** receives the chunks that it brings, one for each live
subscription. -/
lemma received_step (s : Session) {e : Event} (he : e ≠ .clearLogs) :
    ∃ chunks, Received p pkg hexEncode chunks s (step p pkg hexEncode s e) := by
  have hcalls : ∀ (live : List ℕ) (now : ℤ) (chunk : List UInt8) (s : Session),
      ∃ chunks, Received p pkg hexEncode chunks s
        (live.foldl (fun s _ => onData p pkg hexEncode now chunk s) s) := by
    intro live now chunk
    induction live with
    | nil => exact fun s => ⟨[], .refl s⟩
    | cons n live ih =>
        intro s
        obtain ⟨hone, hflag⟩ := @received_onData p pkg hexEncode now chunk s
        obtain ⟨chunks, hrest⟩ := ih (onData p pkg hexEncode now chunk s)
        exact ⟨_, hone.trans hflag hrest⟩
  -- a message that is neither raw bytes received nor a map
  have hother : ∀ (now : ℤ) (message : Message), message.rxRaw? = none → message.rx? = none →
      Received p pkg hexEncode [] s (addToLog p hexEncode now message s) := by
    intro now message hraw hmap
    refine ⟨rfl, ⟨[], by simp [addToLog], rfl⟩, [(now, message)], rfl, by simp [hraw], ?_⟩
    simp [hmap, texts]
  have hquiet : ∀ {s' : Session}, s'.receiver.pending = s.receiver.pending →
      s'.receiver.responses = s.receiver.responses → s'.messages = s.messages →
      Received p pkg hexEncode [] s s' := by
    intro s' hpending hresponses hmessages
    exact ⟨hpending, ⟨[], by rw [hresponses, List.append_nil], rfl⟩, [], by simp [hmessages], rfl,
      by simp [texts]⟩
  cases e with
  | data now chunk => exact hcalls _ now chunk s
  | enableNotification deviceId sopepId => exact ⟨[], hquiet rfl rfl rfl⟩
  | disableNotification => exact ⟨[], hquiet rfl rfl rfl⟩
  | setEnableLogging val => exact ⟨[], hquiet rfl rfl rfl⟩
  | log now tag text => exact ⟨[], hother now _ rfl rfl⟩
  | logTxRaw now encoded => exact ⟨[], hother now _ rfl rfl⟩
  | logRead now characteristicId result => exact ⟨[], hother now _ rfl rfl⟩
  | clearLogs => exact absurd rfl he

/-! ### The log of a run -/

section Run

variable (p pkg hexEncode)

/-- Maps are logged, or the event adds no response. -/
def Logged (s : Session) (e : Event) : Prop :=
  s.enableLogging = true ∨ (step p pkg hexEncode s e).receiver.responses = s.receiver.responses

/-- A run has added the messages `new` to the log: their chunks replay it, and their
maps are among those of its responses. -/
structure Replays (s : Session) (es : List Event) (new : List (ℤ × Message)) : Prop where
  messages : (run (step p pkg hexEncode) s es).messages =
    s.messages ++ new.map fun m => entry p hexEncode m.1 m.2
  receiver : (run (step p pkg hexEncode) s es).receiver.pending =
    run (accept pkg) s.receiver.pending (new.filterMap fun m => m.2.rxRaw?)
  responses : (run (step p pkg hexEncode) s es).receiver.responses.map ResponseData.delivery =
    s.receiver.responses.map ResponseData.delivery ++
      outputs (accept pkg) (delivers pkg) s.receiver.pending (new.filterMap fun m => m.2.rxRaw?)
  shown : List.Sublist (new.filterMap fun m => m.2.rx?.map (mapText p))
    (texts p (outputs (accept pkg) (delivers pkg) s.receiver.pending
      (new.filterMap fun m => m.2.rxRaw?)))
  complete : new.filterMap (fun m => m.2.rx?.map (mapText p)) =
      texts p (outputs (accept pkg) (delivers pkg) s.receiver.pending
        (new.filterMap fun m => m.2.rxRaw?)) ↔
    Always (step p pkg hexEncode) (Logged p pkg hexEncode) s es

end Run

/-- **Every run** is replayed by the messages that it logs. -/
lemma exists_replays (s : Session) {es : List Event} (hes : ∀ e ∈ es, e ≠ .clearLogs) :
    ∃ new, Replays p pkg hexEncode s es new := by
  induction es using List.reverseRecOn with
  | nil => exact ⟨[], by simp, rfl, by simp, by simp [texts], iff_of_true rfl Always.nil⟩
  | append_singleton es e ih =>
      obtain ⟨new, h⟩ := ih fun e' he' => hes e' (List.mem_append_left _ he')
      obtain ⟨chunks, hreceiver, ⟨rs, hrs, hout⟩, new', hmessages, hchunks, hmaps⟩ :=
        @received_step p pkg hexEncode (run (step p pkg hexEncode) s es) e (hes e (by simp))
      set t := run (step p pkg hexEncode) s es with ht
      have hsplit : outputs (accept pkg) (delivers pkg) s.receiver.pending
          (new.filterMap (fun m => m.2.rxRaw?) ++ chunks) =
          outputs (accept pkg) (delivers pkg) s.receiver.pending
              (new.filterMap fun m => m.2.rxRaw?) ++
            outputs (accept pkg) (delivers pkg) t.receiver.pending chunks := by
        rw [outputs_append, ← h.receiver]
      -- an event that adds no response has no map
      have hnone : (step p pkg hexEncode t e).receiver.responses = t.receiver.responses ↔
          texts p (outputs (accept pkg) (delivers pkg) t.receiver.pending chunks) = [] := by
        rw [texts_eq_nil_iff, ← hout, hrs, List.append_right_eq_self, List.map_eq_nil_iff]
      refine ⟨new ++ new', ?_, ?_, ?_, ?_, ?_⟩
      · rw [run_concat, ← ht, hmessages, h.messages, List.map_append, List.append_assoc]
      · rw [run_concat, ← ht, hreceiver, h.receiver, List.filterMap_append, hchunks, run_append]
      · rw [run_concat, ← ht, hrs, List.map_append, hout, h.responses, List.filterMap_append,
          hchunks, hsplit, List.append_assoc]
      · rw [List.filterMap_append, List.filterMap_append, hchunks, hmaps, hsplit, texts_append]
        split_ifs
        · exact h.shown.append (List.Sublist.refl _)
        · exact h.shown.append (List.nil_sublist _)
      · rw [List.filterMap_append, List.filterMap_append, hchunks, hmaps, hsplit, texts_append,
          always_concat, ← h.complete, ← ht, Logged, hnone]
        split_ifs with hflag
        · rw [List.append_left_inj]
          exact (and_iff_left (Or.inl hflag)).symm
        · rw [List.append_nil, or_iff_right hflag]
          refine ⟨fun heq => ?_, fun heq => by rw [heq.1, heq.2, List.append_nil]⟩
          -- the maps that are shown are no more than those delivered before
          have hlength := congrArg List.length heq
          rw [List.length_append] at hlength
          have hle := h.shown.length_le
          have hnil := List.length_eq_zero_iff.mp (show (texts p (outputs (accept pkg)
            (delivers pkg) t.receiver.pending chunks)).length = 0 by omega)
          rw [hnil, List.append_nil] at heq
          exact ⟨heq, hnil⟩

/-- What is read of the entries of messages. -/
lemma filterMap_entries (h : PlainTimes p) (hhex : StandardHexEncode hexEncode)
    (new : List (ℤ × Message)) :
    (new.map fun m => entry p hexEncode m.1 m.2).filterMap rxRaw? =
        new.filterMap (fun m => m.2.rxRaw?) ∧
      (new.map fun m => entry p hexEncode m.1 m.2).filterMap rx? =
        new.filterMap fun m => m.2.rx?.map (mapText p) := by
  rw [List.filterMap_map, List.filterMap_map]
  refine ⟨List.filterMap_congr fun m _ => ?_, List.filterMap_congr fun m _ => ?_⟩
  · exact rxRaw?_entry h hhex m.1 m.2
  · exact rx?_entry h m.1 m.2

/-- The texts of the rows that are shown. -/
def shownTexts (rows : List (Option (String × String))) : List String :=
  rows.filterMap fun row => row.map fun r => r.1 ++ r.2

/-- **The rows of entries**: without raw data the tab shows the maps and no
chunk. -/
lemma rows_entries (h : PlainTimes p) (hhex : StandardHexEncode hexEncode)
    (new : List (ℤ × Message)) :
    ∃ rows, (new.map fun m => entry p hexEncode m.1 m.2).mapM (itemBuilder false) = .ok rows ∧
      (shownTexts rows).filterMap rxRaw? = [] ∧
      (shownTexts rows).filterMap rx? =
        (new.map fun m => entry p hexEncode m.1 m.2).filterMap rx? := by
  induction new with
  | nil => exact ⟨[], rfl, rfl, rfl⟩
  | cons m new ih =>
      obtain ⟨rows, hrows, hraw, hmaps⟩ := ih
      obtain ⟨row, hrow, htext⟩ := @itemBuilder_entry p hexEncode h false m.1 m.2
      have hcons : shownTexts (row :: rows) =
          (row.map fun r => r.1 ++ r.2).toList ++ shownTexts rows := by
        rw [shownTexts, shownTexts]
        cases row <;> rfl
      refine ⟨row :: rows, ?_, ?_⟩
      · rw [List.map_cons, List.mapM_cons, hrow, hrows]
        rfl
      cases hisRaw : m.2.isRaw with
      | true =>
          have hnone : rx? (entry p hexEncode m.1 m.2) = none := by
            rw [rx?_entry h, rx?_of_isRaw hisRaw, Option.map_none]
          rw [if_pos ⟨rfl, hisRaw⟩] at htext
          rw [hcons, htext, Option.toList_none, List.nil_append, List.map_cons,
            List.filterMap_cons_none hnone]
          exact ⟨hraw, hmaps⟩
      | false =>
          have hnone : rxRaw? (entry p hexEncode m.1 m.2) = none := by
            rw [rxRaw?_entry h hhex, rxRaw?_of_not_isRaw hisRaw]
          rw [if_neg fun hboth => Bool.false_ne_true (hisRaw.symm.trans hboth.2)] at htext
          rw [hcons, htext, Option.toList_some, List.singleton_append, List.map_cons,
            List.filterMap_cons_none hnone, List.filterMap_cons, List.filterMap_cons, hmaps]
          exact ⟨hraw, rfl⟩

/-- **The log replays the session**: since the log was cleared, whatever has
happened, its raw entries given to a decoder leave what is pending and yield the
responses that have been added to the stream, whether or not their maps have been
logged; the log shows the maps of exactly these responses if and only if maps were
logged whenever a response was added; and without raw data the tab shows the same
maps and no chunk. -/
theorem log_replays (h : PlainTimes p) (hhex : StandardHexEncode hexEncode) {s : Session}
    (hclear : s.messages = []) {es : List Event} (hes : ∀ e ∈ es, e ≠ .clearLogs) :
    let s' := run (step p pkg hexEncode) s es
    let chunks := s'.messages.filterMap rxRaw?
    let answers := outputs (accept pkg) (delivers pkg) s.receiver.pending chunks
    s'.receiver.pending = run (accept pkg) s.receiver.pending chunks ∧
      s'.receiver.responses.map ResponseData.delivery =
        s.receiver.responses.map ResponseData.delivery ++ answers ∧
      (s'.messages.filterMap rx? = texts p answers ↔
        Always (step p pkg hexEncode) (Logged p pkg hexEncode) s es) ∧
      ∃ rows, s'.messages.mapM (itemBuilder false) = .ok rows ∧
        (shownTexts rows).filterMap rxRaw? = [] ∧
        (shownTexts rows).filterMap rx? = s'.messages.filterMap rx? := by
  intro s' chunks answers
  obtain ⟨new, hnew⟩ := @exists_replays p pkg hexEncode s es hes
  have hmessages : s'.messages = new.map fun m => entry p hexEncode m.1 m.2 := by
    rw [hnew.messages, hclear, List.nil_append]
  obtain ⟨hraw, hmaps⟩ := filterMap_entries h hhex new
  have hchunks : chunks = new.filterMap fun m => m.2.rxRaw? := by
    rw [← hraw, ← hmessages]
  have hanswers : answers = outputs (accept pkg) (delivers pkg) s.receiver.pending
      (new.filterMap fun m => m.2.rxRaw?) := by
    rw [← hchunks]
  refine ⟨?_, ?_, ?_, ?_⟩
  · rw [hchunks]
    exact hnew.receiver
  · rw [hanswers]
    exact hnew.responses
  · rw [hanswers, hmessages, hmaps]
    exact hnew.complete
  · rw [hmessages]
    exact rows_entries h hhex new

/-- A clock stopped in the morning. -/
def morning : Platform where
  doubleText _ := "0.0"
  formatDate _ _ := "09:30:00.000"

/-- A response in two chunks, whose map is not logged. -/
def sampleEvents : List Event :=
  [.enableNotification "A" "", .data 0 (fwBlockFrame.take 10), .log 1 .firm "Upload starting",
    .setEnableLogging false, .data 2 (fwBlockFrame.drop 10)]

/-- The response, from the raw entries. -/
theorem log_replays_sample :
    (run (step morning samplePackages fun bs => String.ofList (Hex.encode bs)) {}
        sampleEvents).receiver.responses.map ResponseData.delivery =
      outputs (accept samplePackages) (delivers samplePackages) .clean
        ((run (step morning samplePackages fun bs => String.ofList (Hex.encode bs)) {}
          sampleEvents).messages.filterMap rxRaw?) := by
  have htimes : PlainTimes morning := by
    intro _ c hc
    have hplain : ("09:30:00.000".toList.all fun c => c.isDigit || c == ':' || c == '.') := by
      decide
    have hcharacter := List.all_eq_true.mp hplain c hc
    simpa [or_assoc] using hcharacter
  exact (log_replays htimes (fun _ => rfl) rfl (by simp [sampleEvents])).2.1

end SopepApp.Logger
