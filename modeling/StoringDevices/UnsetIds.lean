import Mathlib.Data.List.TakeWhile
import StoringDevices.Messages
import StoringDevices.Session

/-! # Ids that are never assigned

`stringToInt` returns a local variable that the extraction assigns only when it
finds more than blanks.  The digit group of the two id patterns may match nothing,
and a failed search leaves nothing to convert; in both cases the id that is stored
is whatever the variable held.  Nothing but the ids depends on it. -/
set_option autoImplicit false

namespace StoringDevices

open Std (ExtTreeMap)
open Regex (Dead labelled)

/-! ## Which ids are assigned -/

/-- The first place of the label in the line has a digit after it. -/
def NumberFollows (label : CppString) (line : LogLine) : Prop :=
  ∃ front d rest, cStr line.text = front ++ (label ++ d :: rest) ∧
    Dead label front (label ++ d :: rest) ∧ isDigit d = true

theorem stringToInt_isSome_iff (s : CppString) :
    (stringToInt s).isSome = true ↔ ∃ c ∈ s, isSpace c = false := by
  unfold stringToInt
  cases blanks : s.dropWhile isSpace with
  | nil =>
      rw [List.dropWhile_eq_nil_iff] at blanks
      simp only [Option.isSome_none, Bool.false_eq_true, false_iff, not_exists, not_and]
      intro c member
      rw [blanks c member]
      simp
  | cons c rest =>
      have kept : c ∈ s.dropWhile isSpace := by
        rw [blanks]
        exact List.mem_cons_self
      have first := List.head?_dropWhile_not isSpace s
      rw [blanks] at first
      simp only [Option.isSome_some, true_iff]
      exact ⟨c, (List.dropWhile_suffix _).subset kept, by simpa using first⟩

theorem stringToInt_takeWhile_isSome_iff (s : CppString) :
    (stringToInt (s.takeWhile isDigit)).isSome = true ↔ ∃ d rest, s = d :: rest ∧ isDigit d = true := by
  rw [stringToInt_isSome_iff]
  constructor
  · intro h
    obtain ⟨c, member, _⟩ := h
    cases s with
    | nil => cases member
    | cons d rest =>
        by_cases digit : isDigit d = true
        · exact ⟨d, rest, rfl, digit⟩
        · rw [List.takeWhile_cons_of_neg digit] at member
          cases member
  · intro h
    obtain ⟨d, rest, rfl, digit⟩ := h
    rw [List.takeWhile_cons_of_pos digit]
    exact ⟨d, List.mem_cons_self, isSpace_of_isDigit digit⟩

/-- One conversion: what is cut from the match of an id pattern. -/
theorem idAfterEquals_assigned_iff (line : LogLine) (name : CppString) (fresh : '=' ∉ name) :
    (∃ id, idAfterEquals (str (regexSearch line.text (labelled (name ++ "=".toList) isDigit))) =
      some (some id)) ↔ NumberFollows (name ++ "=".toList) line := by
  have cut := idAfterEquals_label name
    (regexSearch line.text (labelled (name ++ "=".toList) isDigit)) fresh
    fun w found => (regexSearch_some found).2
  rw [cut]
  simp only [Option.some.injEq, ← Option.isSome_iff_exists]
  have width : name.length + 1 = (name ++ "=".toList).length := by simp
  rw [width]
  generalize label_eq : name ++ "=".toList = label at *
  constructor
  · intro assigned
    cases search : Regex.search (labelled label isDigit) (cStr line.text) with
    | none =>
        unfold regexSearch at assigned
        rw [search] at assigned
        exact absurd assigned (by simp [str, stringToInt])
    | some found =>
        obtain ⟨rest, split, dead, text⟩ := Regex.search_labelled_some search
        unfold regexSearch at assigned
        rw [search, Option.map_some, str, Option.getD_some, text, List.drop_left,
          stringToInt_takeWhile_isSome_iff] at assigned
        obtain ⟨d, more, rfl, digit⟩ := assigned
        exact ⟨found.before, d, more, split, dead, digit⟩
  · intro follows
    obtain ⟨front, d, rest, split, dead, digit⟩ := follows
    unfold regexSearch
    rw [split, Regex.search_labelled _ dead, Option.map_some, str, Option.getD_some, List.drop_left,
      stringToInt_takeWhile_isSome_iff]
    exact ⟨d, rest, rfl, digit⟩

theorem parsedIdVendor_eq (line : LogLine) :
    idAfterEquals (str (regexSearch line.text idVendorRegex)) = some (parsedIdVendor line) :=
  idAfterEquals_label "idVendor".toList _ (by decide) fun _ found => (regexSearch_some found).2

theorem parsedIdProduct_eq (line : LogLine) :
    idAfterEquals (str (regexSearch line.text idProductRegex)) = some (parsedIdProduct line) :=
  idAfterEquals_label "idProduct".toList _ (by decide) fun _ found => (regexSearch_some found).2

/-- Both conversions assign their result, and the record gets these ids whatever
the variable held before. -/
def IdsFixed (line : LogLine) (interfaces : InterfacesMap) (port : CppString)
    (element : UsbInterface) : Prop :=
  ∃ idVendor idProduct,
    idAfterEquals (str (regexSearch line.text idVendorRegex)) = some (some idVendor) ∧
    idAfterEquals (str (regexSearch line.text idProductRegex)) = some (some idProduct) ∧
    ∀ unsetVendor unsetProduct,
      checkIfInformationAboutDeviceFound ⟨line.text, unsetVendor, unsetProduct⟩ interfaces =
        some (false, interfaces.insert port
          { element with idVendor := idVendor, idProduct := idProduct })

/-- A line that reaches the branch of the ids, from any port records. -/
theorem ids_assigned_iff {line : LogLine} {interfaces : InterfacesMap} {port : CppString}
    {element : UsbInterface} (usb : usbPort line = some port)
    (present : interfaces[port]? = some element) (found : describesIds line = true) :
    IdsFixed line interfaces port element ↔
      NumberFollows "idVendor=".toList line ∧ NumberFollows "idProduct=".toList line := by
  have vendor := idAfterEquals_assigned_iff line "idVendor".toList (by decide)
  have product := idAfterEquals_assigned_iff line "idProduct".toList (by decide)
  constructor
  · intro fixed
    obtain ⟨idVendor, idProduct, vendorCut, productCut, _⟩ := fixed
    exact ⟨vendor.mp ⟨idVendor, vendorCut⟩, product.mp ⟨idProduct, productCut⟩⟩
  · intro follows
    obtain ⟨idVendor, vendorCut⟩ := vendor.mpr follows.1
    obtain ⟨idProduct, productCut⟩ := product.mpr follows.2
    refine ⟨idVendor, idProduct, vendorCut, productCut, ?_⟩
    intro unsetVendor unsetProduct
    have parsedVendor : parsedIdVendor line = some idVendor :=
      Option.some.inj ((parsedIdVendor_eq line).symm.trans vendorCut)
    have parsedProduct : parsedIdProduct line = some idProduct :=
      Option.some.inj ((parsedIdProduct_eq line).symm.trans productCut)
    have usb' : usbPort ⟨line.text, unsetVendor, unsetProduct⟩ = some port := usb
    have found' : describesIds ⟨line.text, unsetVendor, unsetProduct⟩ = true := found
    have announced : announce ⟨line.text, unsetVendor, unsetProduct⟩ element =
        { element with
          idVendor := (parsedIdVendor line).getD unsetVendor
          idProduct := (parsedIdProduct line).getD unsetProduct } := by
      rw [announce, if_pos found']
      rfl
    rw [checkIfInformationAboutDeviceFound_eq, usb']
    simp only [informed]
    rw [modify_eq_insert present, announced, parsedVendor, parsedProduct, Option.getD_some,
      Option.getD_some]

def onePlugged : LogLine := { text := "Jan 1 09:00:01 usb 1-1: new".toList }

/-- The records after the connection. -/
def oneOpened : InterfacesMap := (∅ : InterfacesMap).insert "1-1".toList (connected onePlugged none)

def foundDecimal : LogLine :=
  { text := "usb 1-1: New USB device found, idVendor=1921, idProduct=5583".toList }

def foundLetters : LogLine :=
  { text := "usb 1-1: New USB device found, idVendor=abcd, idProduct=5583".toList }

theorem decimal_ids_assigned :
    IdsFixed foundDecimal oneOpened "1-1".toList (connected onePlugged none) ↔
      NumberFollows "idVendor=".toList foundDecimal ∧
        NumberFollows "idProduct=".toList foundDecimal := by
  have usb : usbPort foundDecimal = some "1-1".toList := by
    unfold foundDecimal
    repeat rw [String.toList_ofList]
    decide +kernel
  have found : describesIds foundDecimal = true := by
    unfold foundDecimal
    repeat rw [String.toList_ofList]
    decide +kernel
  exact ids_assigned_iff usb (by rw [oneOpened, getElem?_insert_eq, if_pos rfl]) found

/-- A vendor id that begins with a letter is stored as what the variable held. -/
theorem letters_leave_id_unset :
    readLines [onePlugged] {} = some ⟨oneOpened, ∅⟩ ∧ storagePort foundLetters = none ∧
      usbPort foundLetters = some "1-1".toList ∧ describesIds foundLetters = true ∧
      idAfterEquals (str (regexSearch foundLetters.text idVendorRegex)) = some none ∧
      ¬ IdsFixed foundLetters oneOpened "1-1".toList (connected onePlugged none) := by
  have unset : idAfterEquals (str (regexSearch foundLetters.text idVendorRegex)) = some none := by
    unfold foundLetters
    repeat rw [String.toList_ofList]
    decide +kernel
  refine ⟨readLines_plugged (by decide +kernel), ?_, ?_, ?_, unset, ?_⟩
  · unfold foundLetters
    repeat rw [String.toList_ofList]
    decide +kernel
  · unfold foundLetters
    repeat rw [String.toList_ofList]
    decide +kernel
  · unfold foundLetters
    repeat rw [String.toList_ofList]
    decide +kernel
  · intro fixed
    obtain ⟨idVendor, _, vendorCut, _⟩ := fixed
    rw [unset] at vendorCut
    cases vendorCut

/-! ## What does not depend on the ids -/

/-- The line, with nothing said of the unset variables. -/
def bare (line : LogLine) : LogLine := { text := line.text }

def UsbInterface.withoutIds (element : UsbInterface) : UsbInterface :=
  { element with idVendor := 0, idProduct := 0 }

def UsbInfo.withoutIds (entry : UsbInfo) : UsbInfo :=
  { entry with idVendor := 0, idProduct := 0 }

def Closing.withoutIds (closing : Closing) : Closing :=
  { closing with record := closing.record.withoutIds }

def Effect.withoutIds : Effect → Effect
  | .disconnect port record => .disconnect port record.withoutIds
  | other => other

/-- The same records but for the ids. -/
def SameButIds (interfaces interfaces' : InterfacesMap) : Prop :=
  ∀ port : CppString, interfaces'[port]?.map UsbInterface.withoutIds =
    interfaces[port]?.map UsbInterface.withoutIds

/-- What is announced but the ids, of what the record has but the ids. -/
theorem announce_withoutIds (line : LogLine) (element : UsbInterface) :
    (announce line element).withoutIds =
      { element.withoutIds with
        serialNumber := (readSerialNumber line).getD element.withoutIds.serialNumber
        productName := (readProductName line).getD element.withoutIds.productName
        manufacturer := (readManufacturer line).getD element.withoutIds.manufacturer } := by
  rw [announce_eq]
  rfl

theorem announce_bare_withoutIds {line : LogLine} {element element' : UsbInterface}
    (same : element'.withoutIds = element.withoutIds) :
    (announce (bare line) element').withoutIds = (announce line element).withoutIds := by
  rw [announce_withoutIds, announce_withoutIds, same]
  rfl

theorem withoutIds_cases {record record' : Option UsbInterface}
    (same : record'.map UsbInterface.withoutIds = record.map UsbInterface.withoutIds) :
    record = none ∧ record' = none ∨ ∃ element element', record = some element ∧
      record' = some element' ∧ element'.withoutIds = element.withoutIds := by
  cases record with
  | none => exact .inl ⟨rfl, Option.map_eq_none_iff.mp same⟩
  | some element =>
      obtain ⟨element', here, equal⟩ := Option.map_eq_some_iff.mp same
      exact .inr ⟨element, element', rfl, here, equal⟩

/-- A change that does not look at the ids. -/
theorem map_withoutIds {change change' : UsbInterface → UsbInterface}
    (respects : ∀ {element element' : UsbInterface}, element'.withoutIds = element.withoutIds →
      (change' element').withoutIds = (change element).withoutIds)
    {record record' : Option UsbInterface}
    (same : record'.map UsbInterface.withoutIds = record.map UsbInterface.withoutIds) :
    (record'.map change').map UsbInterface.withoutIds =
      (record.map change).map UsbInterface.withoutIds := by
  rcases withoutIds_cases same with ⟨rfl, rfl⟩ | ⟨element, element', rfl, rfl, equal⟩
  · rfl
  · exact congrArg some (respects equal)

theorem apply_withoutIds (line : LogLine) (interfaces : InterfacesMap) (effect : Effect) :
    effect.withoutIds.apply line interfaces = effect.apply line interfaces := by
  cases effect <;> rfl

theorem closing_withoutIds (line : LogLine) (effect : Effect) :
    (effect.closing line).map Closing.withoutIds = effect.withoutIds.closing line := by
  cases effect <;> rfl

section OneLine
variable (line : LogLine) {interfaces interfaces' : InterfacesMap}
  (same : SameButIds interfaces interfaces')
include same

theorem informed_sameButIds (port : CppString) :
    SameButIds (informed line port interfaces) (informed (bare line) port interfaces') := by
  intro k
  rw [informed_getElem?, informed_getElem?]
  by_cases own : port = k
  · rw [if_pos own, if_pos own]
    exact map_withoutIds announce_bare_withoutIds (same k)
  · rw [if_neg own, if_neg own]
    exact same k

theorem acceptedPort_bare : acceptedPort (bare line) interfaces' = acceptedPort line interfaces := by
  have free : ∀ port : CppString, interfaces'[port]?.all UsbInterface.isEmpty =
      interfaces[port]?.all UsbInterface.isEmpty := by
    intro port
    rcases withoutIds_cases (same port) with ⟨here, here'⟩ | ⟨element, element', here, here', equal⟩
    · rw [here, here']
    · rw [here, here', Option.all_some, Option.all_some]
      exact (congrArg UsbInterface.isEmpty equal :)
  unfold acceptedPort
  simp only [free]
  rfl

theorem closedRecord_bare (port : CppString) :
    (closedRecord (bare line) interfaces' port).map UsbInterface.withoutIds =
      (closedRecord line interfaces port).map UsbInterface.withoutIds := by
  have announced : disconnects (bare line) = disconnects line := rfl
  unfold closedRecord
  rw [announced]
  by_cases shut : disconnects line = true
  · rw [if_pos shut, if_pos shut]
    rcases withoutIds_cases (same port) with ⟨here, here'⟩ | ⟨element, element', here, here', equal⟩
    · rw [here, here', Option.filter_none]
    · have live : element'.isOpenStorage = element.isOpenStorage :=
        (congrArg UsbInterface.isOpenStorage equal :)
      rw [here, here', Option.filter_some, Option.filter_some, live]
      by_cases isOpen : element.isOpenStorage = true
      · rw [if_pos isOpen, if_pos isOpen, Option.map_some, Option.map_some, equal]
      · rw [if_neg isOpen, if_neg isOpen]
  · rw [if_neg shut, if_neg shut]

theorem effect_bare :
    (effect (bare line) interfaces').withoutIds = (effect line interfaces).withoutIds := by
  have storage : storagePort (bare line) = storagePort line := rfl
  have usb : usbPort (bare line) = usbPort line := rfl
  unfold effect
  rw [storage, usb]
  cases storagePort line with
  | some port => rfl
  | none =>
      cases usbPort line with
      | none => rfl
      | some port =>
          have told := informed_sameButIds line same port
          simp only [acceptedPort_bare line told]
          cases acceptedPort line (informed line port interfaces) with
          | some opened => rfl
          | none =>
              have closed := closedRecord_bare line told port
              rcases withoutIds_cases closed with
                ⟨here, here'⟩ | ⟨element, element', here, here', equal⟩
              · simp only [here, here']
              · simp only [here, here', Effect.withoutIds, equal]

theorem closingOf_bare : (closingOf (bare line) interfaces').map Closing.withoutIds =
    (closingOf line interfaces).map Closing.withoutIds := by
  unfold closingOf
  rw [closing_withoutIds, closing_withoutIds, effect_bare line same]
  rfl

theorem apply_sameButIds (effect : Effect) :
    SameButIds (effect.apply line interfaces) (effect.apply (bare line) interfaces') := by
  intro k
  cases effect with
  | ignore => exact same k
  | flag port =>
      rw [apply_flag_getElem?, apply_flag_getElem?]
      by_cases own : port = k
      · rw [if_pos own, if_pos own]
        exact @map_withoutIds flagged flagged (fun equal => congrArg flagged equal) _ _ (same k)
      · rw [if_neg own, if_neg own]
        exact same k
  | inform port => exact informed_sameButIds line same port k
  | connect port opened =>
      rw [apply_connect_getElem?, apply_connect_getElem?]
      have told := informed_sameButIds line same port k
      by_cases own : opened = k
      · rw [if_pos own, if_pos own]
        rcases withoutIds_cases told with ⟨here, here'⟩ | ⟨element, element', here, here', equal⟩
        · rw [here, here']
          rfl
        · rw [here, here']
          exact congrArg some (congrArg (fun element => connected line (some element)) equal :)
      · rw [if_neg own, if_neg own]
        exact told
  | disconnect port record =>
      rw [apply_disconnect_getElem?, apply_disconnect_getElem?]
      by_cases own : port = k
      · rw [if_pos own, if_pos own]
      · rw [if_neg own, if_neg own]
        exact same k

theorem step_sameButIds :
    SameButIds (stepInterfaces line interfaces) (stepInterfaces (bare line) interfaces') := by
  unfold stepInterfaces
  rw [← apply_withoutIds (bare line), effect_bare line same, apply_withoutIds]
  exact apply_sameButIds line same _

end OneLine

/-! ## The report but its ids -/

theorem run_bare :
    ∀ (log : List LogLine) {interfaces interfaces' : InterfacesMap},
      SameButIds interfaces interfaces' →
        SameButIds (runInterfaces log interfaces) (runInterfaces (log.map bare) interfaces') ∧
        (runClosings (log.map bare) interfaces').map Closing.withoutIds =
          (runClosings log interfaces).map Closing.withoutIds := by
  intro log
  induction log with
  | nil => intro interfaces interfaces' same; exact ⟨same, rfl⟩
  | cons line log ih =>
      intro interfaces interfaces' same
      obtain ⟨records, closings⟩ := ih (step_sameButIds line same)
      refine ⟨records, ?_⟩
      rw [List.map_cons, runClosings, runClosings, List.map_append, List.map_append, closings,
        ← Option.toList_map, ← Option.toList_map, closingOf_bare line same]

/-- The open records of a serial, without their ids. -/
theorem openRecords_withoutIds {interfaces interfaces' : InterfacesMap}
    (same : SameButIds interfaces interfaces') (serial : CppString) :
    ((recordsOf serial (openRecords interfaces')).map Prod.snd).map UsbInterface.withoutIds =
      ((recordsOf serial (openRecords interfaces)).map Prod.snd).map UsbInterface.withoutIds := by
  have maps : interfaces'.map (fun _ element => element.withoutIds) =
      interfaces.map fun _ element => element.withoutIds := by
    apply ExtTreeMap.ext_getElem?
    intro port
    rw [ExtTreeMap.getElem?_map, ExtTreeMap.getElem?_map]
    exact same port
  -- forgetting the ids does not change which records are kept
  have forget : ∀ interfaces : InterfacesMap,
      ((recordsOf serial (openRecords interfaces)).map Prod.snd).map UsbInterface.withoutIds =
        (((interfaces.map fun _ element => element.withoutIds).toList.filter
          fun slot => !slot.2.isEmpty).filter fun slot => slot.2.serialNumber = serial).map
            Prod.snd := by
    intro interfaces
    rw [ExtTreeMap.toList_map, List.filter_map, List.filter_map, List.map_map, List.map_map]
    rfl
  rw [forget, forget, maps]

theorem closedEntry_withoutIds (serial : CppString) (closings : List Closing) :
    (closedEntry (closingsOf serial closings)).map UsbInfo.withoutIds =
      closedEntry (closingsOf serial (closings.map Closing.withoutIds)) := by
  have filtered : closingsOf serial (closings.map Closing.withoutIds) =
      (closingsOf serial closings).map Closing.withoutIds := by
    unfold closingsOf
    rw [List.filter_map]
    rfl
  rw [filtered]
  cases closingsOf serial closings with
  | nil => rfl
  | cons first rest => simp [closedEntry, UsbInfo.withoutIds, Closing.withoutIds,
      UsbInterface.withoutIds, Function.comp_def]

theorem firstKnown_zeros (records : List UsbInterface) :
    firstKnown 0 (0 :: records.map fun _ => (0 : Int)) = 0 := by
  unfold firstKnown
  have unknown : (0 :: records.map fun _ => (0 : Int)).find? (fun value => value ≠ 0) = none := by
    rw [List.find?_eq_none]
    intro value member
    rcases List.mem_cons.mp member with rfl | inside
    · simp
    · obtain ⟨_, _, rfl⟩ := List.mem_map.mp inside
      simp
  rw [unknown, Option.getD_none]

theorem fillEntry_withoutIds (entry : UsbInfo) (records : List UsbInterface) :
    (fillEntry entry records).withoutIds =
      fillEntry entry.withoutIds (records.map UsbInterface.withoutIds) := by
  unfold fillEntry
  simp only [List.map_map, Function.comp_def, UsbInfo.withoutIds, UsbInterface.withoutIds,
    firstKnown_zeros]

theorem flushEntry_withoutIds (old : Option UsbInfo) (records : List UsbInterface) :
    (flushEntry old records).map UsbInfo.withoutIds =
      flushEntry (old.map UsbInfo.withoutIds) (records.map UsbInterface.withoutIds) := by
  cases old with
  | some entry => exact congrArg some (fillEntry_withoutIds entry records)
  | none =>
      have kept : keptOf none (records.map UsbInterface.withoutIds) =
          (keptOf none records).map UsbInterface.withoutIds := by
        unfold keptOf
        rw [List.dropWhile_map]
        rfl
      unfold flushEntry
      rw [Option.map_none, kept]
      cases keptOf none records with
      | nil => rfl
      | cons first rest => exact congrArg some (fillEntry_withoutIds (freshEntry first) rest)

theorem finalUsbMap_bare_withoutIds (log : List LogLine) (serial : CppString) :
    (finalUsbMap (log.map bare))[serial]?.map UsbInfo.withoutIds =
      (finalUsbMap log)[serial]?.map UsbInfo.withoutIds := by
  obtain ⟨records, closings⟩ := @run_bare log ∅ ∅ fun _ => rfl
  rw [finalUsbMap_getElem?, finalUsbMap_getElem?, flushEntry_withoutIds, flushEntry_withoutIds,
    closedEntry_withoutIds, closedEntry_withoutIds, loopClosings, loopClosings, closings,
    loopInterfaces, loopInterfaces, openRecords_withoutIds records]

/-- Two readings of the same texts differ by the ids only. -/
theorem finalUsbMap_withoutIds {log log' : List LogLine} (texts : log'.map bare = log.map bare)
    (serial : CppString) : (finalUsbMap log')[serial]?.map UsbInfo.withoutIds =
      (finalUsbMap log)[serial]?.map UsbInfo.withoutIds := by
  rw [← finalUsbMap_bare_withoutIds log', texts, finalUsbMap_bare_withoutIds]

end StoringDevices
