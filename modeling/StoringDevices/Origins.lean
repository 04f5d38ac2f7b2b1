import StoringDevices.Kinds
import StoringDevices.Provenance
import StoringDevices.ReadBack

/-! # Where the fields of the report come from

Every value of an entry was read from a line of the log, by the pattern of its
field, or is the value a record is initialised with.  The times are those of
connection and disconnection lines. -/
set_option autoImplicit false

namespace StoringDevices

open Std (ExtTreeMap)

/-- Unset, or read from a line of the log. -/
def ReadFrom {A : Type} (read : LogLine → Option A) (unset : A) (log : List LogLine) (value : A) :
    Prop :=
  value = unset ∨ ∃ line ∈ log, read line = some value

theorem ReadFrom.getD {A : Type} {read : LogLine → Option A} {unset value : A}
    {log : List LogLine} (before : ReadFrom read unset log value) {line : LogLine}
    (member : line ∈ log) : ReadFrom read unset log ((read line).getD value) := by
  cases found : read line with
  | none => exact before
  | some new => exact .inr ⟨line, member, found⟩

/-- The fields of a port record. -/
structure RecordOrigins (log : List LogLine) (record : UsbInterface) : Prop where
  opened : record.isEmpty = false →
    ∃ line ∈ log, (newPort line).isSome = true ∧ logTime line = record.connectionTime
  idVendor : ReadFrom readIdVendor 0 log record.idVendor
  idProduct : ReadFrom readIdProduct 0 log record.idProduct
  productName : ReadFrom readProductName [] log record.productName
  manufacturer : ReadFrom readManufacturer [] log record.manufacturer
  serialNumber : ReadFrom readSerialNumber [] log record.serialNumber

/-- The fields of an entry of the report. -/
structure EntryOrigins (log : List LogLine) (entry : UsbInfo) : Prop where
  connectionTimes : ∀ time ∈ entry.connectionTimes,
    ∃ line ∈ log, (newPort line).isSome = true ∧ logTime line = time
  disconnectionTimes : ∀ time ∈ entry.disconnectionTimes,
    ∃ line ∈ log, disconnects line = true ∧ logTime line = time
  idVendor : ReadFrom readIdVendor 0 log entry.idVendor
  idProduct : ReadFrom readIdProduct 0 log entry.idProduct
  productName : ReadFrom readProductName [] log entry.productName
  manufacturer : ReadFrom readManufacturer [] log entry.manufacturer
  serialNumber : ReadFrom readSerialNumber [] log entry.serialNumber

/-- A text that is read lies in its line. -/
theorem announcedText_inside {line : LogLine} {regex : Regex Char} {width : Nat} {text : CppString}
    (found : announcedText line regex width = some text) : text <:+: cStr line.text := by
  obtain ⟨matched, success, rfl⟩ := Option.map_eq_some_iff.mp found
  exact (List.drop_suffix width matched).isInfix.trans (regexSearch_some success).1

theorem readSerialNumber_inside {line : LogLine} {text : CppString}
    (found : readSerialNumber line = some text) : text <:+: cStr line.text := by
  unfold readSerialNumber at found
  split at found
  · cases found
  · exact announcedText_inside found

theorem readProductName_inside {line : LogLine} {text : CppString}
    (found : readProductName line = some text) : text <:+: cStr line.text := by
  unfold readProductName at found
  split at found
  · cases found
  · exact announcedText_inside found

theorem readManufacturer_inside {line : LogLine} {text : CppString}
    (found : readManufacturer line = some text) : text <:+: cStr line.text := by
  unfold readManufacturer at found
  split at found
  · cases found
  · exact announcedText_inside found

theorem ReadFrom.inLine {read : LogLine → Option CppString} {log : List LogLine} {value : CppString}
    (inside : ∀ (line : LogLine) (text : CppString), read line = some text →
      text <:+: cStr line.text)
    (origin : ReadFrom read [] log value) : value = [] ∨ ∃ line ∈ log, value <:+: cStr line.text := by
  rcases origin with unset | ⟨line, member, found⟩
  · exact .inl unset
  · exact .inr ⟨line, member, inside line value found⟩

/-! ## One line -/

theorem RecordOrigins.initial (log : List LogLine) :
    RecordOrigins log initializeUsbInterface where
  opened taken := by cases taken
  idVendor := .inl rfl
  idProduct := .inl rfl
  productName := .inl rfl
  manufacturer := .inl rfl
  serialNumber := .inl rfl

def AllOrigins (log : List LogLine) (interfaces : InterfacesMap) : Prop :=
  ∀ (port : CppString) (record : UsbInterface), interfaces[port]? = some record →
    RecordOrigins log record

section OneLine
variable {log : List LogLine} {line : LogLine} (member : line ∈ log)

theorem RecordOrigins.flagged {record : UsbInterface} (origins : RecordOrigins log record) :
    RecordOrigins log (flagged record) :=
  ⟨origins.opened, origins.idVendor, origins.idProduct, origins.productName, origins.manufacturer,
    origins.serialNumber⟩

include member

theorem RecordOrigins.announce {record : UsbInterface} (origins : RecordOrigins log record) :
    RecordOrigins log (announce line record) := by
  rw [announce_eq]
  exact ⟨origins.opened, origins.idVendor.getD member, origins.idProduct.getD member,
    origins.productName.getD member, origins.manufacturer.getD member,
    origins.serialNumber.getD member⟩

theorem RecordOrigins.connected (new : (newPort line).isSome = true) {old : Option UsbInterface}
    (origins : ∀ record, old = some record → RecordOrigins log record) :
    RecordOrigins log (connected line old) := by
  have before : RecordOrigins log (old.getD initializeUsbInterface) := by
    cases old with
    | none => exact .initial log
    | some record => exact origins record rfl
  exact ⟨fun _ => ⟨line, member, new, rfl⟩, before.idVendor, before.idProduct, before.productName,
    before.manufacturer, before.serialNumber⟩

variable {interfaces : InterfacesMap} (all : AllOrigins log interfaces)
include all

theorem AllOrigins.informed (told : CppString) : AllOrigins log (informed line told interfaces) := by
  intro port record present
  rw [informed_getElem?] at present
  split at present
  · obtain ⟨before, here, rfl⟩ := Option.map_eq_some_iff.mp present
    exact (all port before here).announce member
  · exact all port record present

theorem AllOrigins.step : AllOrigins log (stepInterfaces line interfaces) := by
  have spec := effect_spec line interfaces
  intro port record present
  unfold stepInterfaces at present
  cases here : effect line interfaces with
  | ignore =>
      rw [here] at present
      exact all port record present
  | flag told =>
      rw [here, apply_flag_getElem?] at present
      split at present
      · obtain ⟨before, known, rfl⟩ := Option.map_eq_some_iff.mp present
        exact (all port before known).flagged
      · exact all port record present
  | inform told =>
      rw [here] at present
      exact all.informed member told port record present
  | connect told opened =>
      rw [here] at spec present
      rw [apply_connect_getElem?] at present
      cases spec with
      | connect _ _ new _ =>
          split at present
          · cases present
            exact .connected member (by rw [new]; rfl) fun record known =>
              all.informed member told port record known
          · exact all.informed member told port record present
  | disconnect told closed =>
      rw [here, apply_disconnect_getElem?] at present
      split at present
      · cases present
        exact .initial log
      · exact all port record present

/-- What a line closes, and the time it closes it at. -/
theorem AllOrigins.closing {closing : Closing} (found : closingOf line interfaces = some closing) :
    RecordOrigins log closing.record ∧ closing.record.isEmpty = false ∧
      ∃ line ∈ log, disconnects line = true ∧ logTime line = closing.time := by
  obtain ⟨here, time⟩ := closingOf_disconnect found
  have spec := effect_spec line interfaces
  rw [here] at spec
  cases spec with
  | disconnect _ _ _ announced present live =>
      exact ⟨all.informed member closing.port closing.port closing.record present,
        (isOpenStorage_iff.mp live).1, line, member, announced, time.symm⟩

end OneLine

/-! ## Runs -/

theorem run_origins (log : List LogLine) :
    ∀ (word : List LogLine) (interfaces : InterfacesMap), (∀ line ∈ word, line ∈ log) →
      AllOrigins log interfaces →
      AllOrigins log (runInterfaces word interfaces) ∧
        ∀ closing ∈ runClosings word interfaces,
          RecordOrigins log closing.record ∧ closing.record.isEmpty = false ∧
            ∃ line ∈ log, disconnects line = true ∧ logTime line = closing.time := by
  intro word
  induction word with
  | nil =>
      intro interfaces _ all
      exact ⟨all, by simp [runClosings]⟩
  | cons line word ih =>
      intro interfaces inside all
      have member := inside line List.mem_cons_self
      obtain ⟨records, closings⟩ := ih (stepInterfaces line interfaces)
        (fun other known => inside other (List.mem_cons_of_mem _ known)) (all.step member)
      refine ⟨records, ?_⟩
      intro closing found
      rw [runClosings, List.mem_append, Option.mem_toList] at found
      rcases found with now | later
      · exact all.closing member now
      · exact closings closing later

theorem loop_origins (log : List LogLine) :
    AllOrigins log (loopInterfaces log) ∧ ∀ closing ∈ loopClosings log,
      RecordOrigins log closing.record ∧ closing.record.isEmpty = false ∧
        ∃ line ∈ log, disconnects line = true ∧ logTime line = closing.time := by
  apply run_origins log log ∅ fun _ member => member
  intro port record present
  cases present

/-! ## Entries -/

section Entries
variable {log : List LogLine}

theorem EntryOrigins.closeInto {closing : Closing} (origins : RecordOrigins log closing.record)
    (live : closing.record.isEmpty = false)
    (time : ∃ line ∈ log, disconnects line = true ∧ logTime line = closing.time)
    {old : Option UsbInfo} (before : ∀ entry, old = some entry → EntryOrigins log entry) :
    EntryOrigins log (closeInto closing old) := by
  cases old with
  | none =>
      refine ⟨?_, ?_, origins.idVendor, origins.idProduct, origins.productName,
        origins.manufacturer, origins.serialNumber⟩
      · intro t member
        rw [List.mem_singleton.mp member]
        exact origins.opened live
      · intro t member
        rw [List.mem_singleton.mp member]
        exact time
  | some entry =>
      have known := before entry rfl
      refine ⟨?_, ?_, known.idVendor, known.idProduct, known.productName, known.manufacturer,
        known.serialNumber⟩
      · intro t member
        rcases List.mem_append.mp member with earlier | now
        · exact known.connectionTimes t earlier
        · rw [List.mem_singleton.mp now]
          exact origins.opened live
      · intro t member
        rcases List.mem_append.mp member with earlier | now
        · exact known.disconnectionTimes t earlier
        · rw [List.mem_singleton.mp now]
          exact time

theorem EntryOrigins.fresh {record : UsbInterface} (origins : RecordOrigins log record)
    (live : record.isEmpty = false) : EntryOrigins log (freshEntry record) := by
  refine ⟨?_, by simp [freshEntry], origins.idVendor, origins.idProduct, origins.productName,
    origins.manufacturer, origins.serialNumber⟩
  intro t member
  rw [List.mem_singleton.mp member]
  exact origins.opened live

theorem EntryOrigins.merge {entry : UsbInfo} (known : EntryOrigins log entry)
    {record : UsbInterface} (origins : RecordOrigins log record) (live : record.isEmpty = false) :
    EntryOrigins log (mergeInterface entry record) := by
  have either : ∀ {A : Type} [DecidableEq A] {read : LogLine → Option A} {unset old new : A},
      ReadFrom read unset log old → ReadFrom read unset log new →
        ReadFrom read unset log (if old = unset then new else old) := by
    intro A _ read unset old new first second
    split
    · exact second
    · exact first
  refine ⟨?_, known.disconnectionTimes, either known.idVendor origins.idVendor,
    either known.idProduct origins.idProduct, either known.productName origins.productName,
    either known.manufacturer origins.manufacturer, either known.serialNumber origins.serialNumber⟩
  intro t member
  rcases List.mem_append.mp member with earlier | now
  · exact known.connectionTimes t earlier
  · rw [List.mem_singleton.mp now]
    exact origins.opened live

end Entries

theorem loopUsbMap_origins (log : List LogLine) :
    ∀ (serial : CppString) (entry : UsbInfo), (loopUsbMap log)[serial]? = some entry →
      EntryOrigins log entry := by
  have closings := (loop_origins log).2
  unfold loopUsbMap
  rw [foldl_recordClosing]
  apply Keyed.run_forall
  · intro closing member old before entry written
    obtain ⟨origins, live, time⟩ := closings closing member
    rw [← Option.some.inj written]
    exact .closeInto origins live time before
  · intro serial entry present
    cases present

theorem finalUsbMap_origins (log : List LogLine) :
    ∀ (serial : CppString) (entry : UsbInfo), (finalUsbMap log)[serial]? = some entry →
      EntryOrigins log entry := by
  apply Keyed.run_forall _ _ _ (loopUsbMap_origins log)
  intro slot member old before entry written
  obtain ⟨present, live⟩ := mem_openRecords.mp member
  have origins := (loop_origins log).1 slot.1 slot.2 present
  cases old with
  | some known =>
      rw [flusher_next_some, Option.some.injEq] at written
      rw [← written]
      exact (before known rfl).merge origins live
  | none =>
      cases storage : slot.2.isStorageDevice with
      | true =>
          rw [flusher_next_storage slot storage, Option.some.injEq] at written
          rw [← written]
          exact .fresh origins live
      | false =>
          rw [flusher_next_other slot storage] at written
          cases written

/-- The strings of an entry are empty or lie in lines of the log. -/
theorem EntryOrigins.strings_inLines {log : List LogLine} {entry : UsbInfo}
    (origins : EntryOrigins log entry) :
    ∀ s ∈ entry.strings, s = [] ∨ ∃ line ∈ log, s <:+: cStr line.text := by
  intro s member
  simp only [UsbInfo.strings, List.mem_cons, List.not_mem_nil, or_false] at member
  rcases member with rfl | rfl | rfl
  · exact origins.serialNumber.inLine fun _ _ => readSerialNumber_inside
  · exact origins.productName.inLine fun _ _ => readProductName_inside
  · exact origins.manufacturer.inLine fun _ _ => readManufacturer_inside

theorem logTime_inside (line : LogLine) : logTime line <:+: cStr line.text := by
  unfold logTime
  cases found : regexSearch line.text dateRegex with
  | none => exact List.nil_infix
  | some time => exact (regexSearch_some found).1

/-- So are its times. -/
theorem EntryOrigins.times_inLines {log : List LogLine} {entry : UsbInfo}
    (origins : EntryOrigins log entry) :
    ∀ time ∈ entry.connectionTimes ++ entry.disconnectionTimes,
      ∃ line ∈ log, time <:+: cStr line.text := by
  intro time member
  rcases List.mem_append.mp member with connection | disconnection
  · obtain ⟨line, known, _, rfl⟩ := origins.connectionTimes time connection
    exact ⟨line, known, logTime_inside line⟩
  · obtain ⟨line, known, _, rfl⟩ := origins.disconnectionTimes time disconnection
    exact ⟨line, known, logTime_inside line⟩

/-- In the report of every log, the times are those of connection and of
disconnection lines of the log, and every other field is unset or was read from a
line of it. -/
theorem report_read_from_log (log : List LogLine) :
    ∃ final, getUSBsInfo log = some final ∧
      ∀ (serial : CppString) (entry : UsbInfo), final[serial]? = some entry →
        EntryOrigins log entry :=
  ⟨finalUsbMap log, getUSBsInfo_eq log, finalUsbMap_origins log⟩

end StoringDevices
