import Mathlib.Data.Fintype.Defs
import StoringDevices.PortMachine

/-! # Kinds of lines

A line of one kind matches the pattern of this kind and no other, and names one
port.  `heard` is what a line does to the record of an open port; a record that
has heard a list of lines holds in each field the last value announced. -/
set_option autoImplicit false

namespace StoringDevices

/-! ## Lines of one kind -/

inductive Kind where
  | storage
  | new
  | found
  | serialNumber
  | product
  | manufacturer
  | disconnect
  deriving DecidableEq

def Kind.all : List Kind :=
  [.storage, .new, .found, .serialNumber, .product, .manufacturer, .disconnect]

instance : Fintype Kind where
  elems := ⟨Kind.all, by decide⟩
  complete := by intro kind; cases kind <;> decide

def Kind.regex : Kind → Regex Char
  | .storage => storageRegex
  | .new => newUsbRegex
  | .found => idVendorAndIdProductRegex
  | .serialNumber => serialNumberRegex
  | .product => productNameRegex
  | .manufacturer => manufacturerRegex
  | .disconnect => disconnectionFoundRegex

/-- The line matches the pattern of no kind. -/
def Silent (line : LogLine) : Prop := ∀ kind : Kind, regexSearch line.text kind.regex = none

instance (line : LogLine) : Decidable (Silent line) :=
  inferInstanceAs (Decidable (∀ kind : Kind, regexSearch line.text kind.regex = none))

/-- The line names only `port` and matches only the pattern of `kind`. -/
structure IsLine (kind : Kind) (port : CppString) (line : LogLine) : Prop where
  named : port ∈ mentions line
  only : ∀ other ∈ mentions line, other = port
  matched : ∀ other : Kind, (regexSearch line.text other.regex).isSome = true ↔ other = kind

instance (kind : Kind) (port : CppString) (line : LogLine) : Decidable (IsLine kind port line) :=
  decidable_of_iff
    (port ∈ mentions line ∧ (∀ other ∈ mentions line, other = port) ∧
      ∀ other : Kind, (regexSearch line.text other.regex).isSome = true ↔ other = kind)
    ⟨fun h => ⟨h.1, h.2.1, h.2.2⟩, fun h => ⟨h.named, h.only, h.matched⟩⟩

section LineOfKind
variable {kind : Kind} {port : CppString} {line : LogLine} (isLine : IsLine kind port line)
include isLine

theorem IsLine.singlePort : SinglePort line := by
  intro p member p' member'
  rw [isLine.only p member, isLine.only p' member']

theorem IsLine.not_silent : ¬ Silent line := by
  intro silent
  have found := (isLine.matched kind).mpr rfl
  rw [silent kind] at found
  cases found

theorem IsLine.search_none {other : Kind} (ne : other ≠ kind) :
    regexSearch line.text other.regex = none := by
  cases found : regexSearch line.text other.regex with
  | none => rfl
  | some w =>
      have same := (isLine.matched other).mp (by rw [found]; rfl)
      exact absurd same ne

theorem IsLine.storagePort_eq :
    storagePort line = if kind = .storage then some port else none := by
  by_cases own : kind = .storage
  · rw [if_pos own]
    have found := (isLine.matched .storage).mpr own.symm
    cases storage : storagePort line with
    | none =>
        have failed := Option.map_eq_none_iff.mp storage
        rw [Kind.regex, failed] at found
        cases found
    | some p => rw [isLine.only p (storagePort_mem storage)]
  · rw [if_neg own]
    have failed := isLine.search_none (Ne.symm own)
    rw [Kind.regex] at failed
    simp [storagePort, failed]

theorem IsLine.newPort_eq : newPort line = if kind = .new then some port else none := by
  by_cases own : kind = .new
  · rw [if_pos own]
    have found := (isLine.matched .new).mpr own.symm
    cases new : newPort line with
    | none =>
        have failed := Option.map_eq_none_iff.mp new
        rw [Kind.regex, failed] at found
        cases found
    | some p => rw [isLine.only p (newPort_mem new)]
  · rw [if_neg own]
    have failed := isLine.search_none (Ne.symm own)
    rw [Kind.regex] at failed
    simp [newPort, failed]

theorem IsLine.linePort_eq : linePort line = some port :=
  (linePort_iff isLine.singlePort).mpr isLine.named

theorem IsLine.usbPort_eq (other : kind ≠ .storage) : usbPort line = some port := by
  have storage := isLine.storagePort_eq
  rw [if_neg other] at storage
  have key := isLine.linePort_eq
  unfold linePort at key
  rw [storage] at key
  exact key

theorem IsLine.disconnects_iff : disconnects line = true ↔ kind = .disconnect := by
  have matched := isLine.matched .disconnect
  exact matched.trans eq_comm

theorem IsLine.describesIds_iff : describesIds line = true ↔ kind = .found := by
  have matched := isLine.matched .found
  exact matched.trans eq_comm

theorem IsLine.announcedSerialNumber_eq_none (other : kind ≠ .serialNumber) :
    announcedSerialNumber line = none := by
  have failed := isLine.search_none (Ne.symm other)
  rw [Kind.regex] at failed
  simp [announcedSerialNumber, announcedText, failed]

theorem IsLine.announcedProductName_eq_none (other : kind ≠ .product) :
    announcedProductName line = none := by
  have failed := isLine.search_none (Ne.symm other)
  rw [Kind.regex] at failed
  simp [announcedProductName, announcedText, failed]

theorem IsLine.announcedManufacturer_eq_none (other : kind ≠ .manufacturer) :
    announcedManufacturer line = none := by
  have failed := isLine.search_none (Ne.symm other)
  rw [Kind.regex] at failed
  simp [announcedManufacturer, announcedText, failed]

end LineOfKind

/-! ## What the information handler reads

Only the first of the four patterns that matches counts. -/

def readIdVendor (line : LogLine) : Option Int :=
  if describesIds line then some ((parsedIdVendor line).getD line.unsetVendor) else none

def readIdProduct (line : LogLine) : Option Int :=
  if describesIds line then some ((parsedIdProduct line).getD line.unsetProduct) else none

def readSerialNumber (line : LogLine) : Option CppString :=
  if describesIds line then none else announcedSerialNumber line

def readProductName (line : LogLine) : Option CppString :=
  if describesIds line ∨ (announcedSerialNumber line).isSome then none
  else announcedProductName line

def readManufacturer (line : LogLine) : Option CppString :=
  if describesIds line ∨ (announcedSerialNumber line).isSome ∨ (announcedProductName line).isSome
  then none
  else announcedManufacturer line

section ReadOfKind
variable {kind : Kind} {port : CppString} {line : LogLine} (isLine : IsLine kind port line)
include isLine

/-! On a line of one kind no earlier pattern is in the way. -/

theorem IsLine.readSerialNumber_eq : readSerialNumber line = announcedSerialNumber line := by
  unfold readSerialNumber
  by_cases found : kind = .found
  · rw [isLine.announcedSerialNumber_eq_none (by rw [found]; simp), ite_self]
  · rw [if_neg fun ids => found (isLine.describesIds_iff.mp ids)]

theorem IsLine.readProductName_eq : readProductName line = announcedProductName line := by
  unfold readProductName
  by_cases own : kind = .product
  · have ids : ¬ describesIds line = true := by rw [isLine.describesIds_iff, own]; simp
    have serial := isLine.announcedSerialNumber_eq_none (by rw [own]; simp)
    simp [ids, serial]
  · rw [isLine.announcedProductName_eq_none own, ite_self]

theorem IsLine.readManufacturer_eq : readManufacturer line = announcedManufacturer line := by
  unfold readManufacturer
  by_cases own : kind = .manufacturer
  · have ids : ¬ describesIds line = true := by rw [isLine.describesIds_iff, own]; simp
    have serial := isLine.announcedSerialNumber_eq_none (by rw [own]; simp)
    have product := isLine.announcedProductName_eq_none (by rw [own]; simp)
    simp [ids, serial, product]
  · rw [isLine.announcedManufacturer_eq_none own, ite_self]

end ReadOfKind

/-- The information handler writes exactly what it reads. -/
theorem announce_eq (line : LogLine) (element : UsbInterface) :
    announce line element =
      { element with
        idVendor := (readIdVendor line).getD element.idVendor
        idProduct := (readIdProduct line).getD element.idProduct
        serialNumber := (readSerialNumber line).getD element.serialNumber
        productName := (readProductName line).getD element.productName
        manufacturer := (readManufacturer line).getD element.manufacturer } := by
  unfold announce readIdVendor readIdProduct readSerialNumber readProductName readManufacturer
  cases describesIds line with
  | true => simp
  | false =>
      cases announcedSerialNumber line with
      | some serialNumber => simp
      | none =>
          cases announcedProductName line with
          | some productName => simp
          | none => cases announcedManufacturer line <;> simp

/-! ## An open port hears a line -/

/-- The record of an open port after a line that neither opens nor closes it. -/
def heard (port : CppString) (element : UsbInterface) (line : LogLine) : UsbInterface :=
  match storagePort line with
  | some flaggedPort => if flaggedPort = port then flagged element else element
  | none => if usbPort line = some port then announce line element else element

/-- What `read` finds in a line for `port`. -/
def readOn {A : Type} (read : LogLine → Option A) (port : CppString) (line : LogLine) : Option A :=
  if storagePort line = none ∧ usbPort line = some port then read line else none

theorem heard_eq (port : CppString) (element : UsbInterface) (line : LogLine) :
    heard port element line =
      { element with
        isStorageDevice := element.isStorageDevice || decide (storagePort line = some port)
        idVendor := (readOn readIdVendor port line).getD element.idVendor
        idProduct := (readOn readIdProduct port line).getD element.idProduct
        serialNumber := (readOn readSerialNumber port line).getD element.serialNumber
        productName := (readOn readProductName port line).getD element.productName
        manufacturer := (readOn readManufacturer port line).getD element.manufacturer } := by
  unfold heard readOn
  cases storagePort line with
  | some flaggedPort =>
      by_cases here : flaggedPort = port
      · simp [here, flagged]
      · simp [here]
  | none =>
      by_cases here : usbPort line = some port
      · simp [here, announce_eq]
      · simp [here]

@[simp] theorem heard_isEmpty (port : CppString) (element : UsbInterface) (line : LogLine) :
    (heard port element line).isEmpty = element.isEmpty := by
  rw [heard_eq]

@[simp] theorem heard_connectionTime (port : CppString) (element : UsbInterface) (line : LogLine) :
    (heard port element line).connectionTime = element.connectionTime := by
  rw [heard_eq]

/-- The last value that `read` finds. -/
def lastRead {A : Type} (read : LogLine → Option A) (lines : List LogLine) : Option A :=
  (lines.filterMap read).getLast?

theorem lastRead_cons {A : Type} (read : LogLine → Option A) (line : LogLine) (lines : List LogLine)
    (unknown : A) :
    (lastRead read (line :: lines)).getD unknown =
      (lastRead read lines).getD ((read line).getD unknown) := by
  unfold lastRead
  cases here : read line with
  | none => rw [List.filterMap_cons_none here, Option.getD_none]
  | some a =>
      rw [List.filterMap_cons_some here, List.getLast?_cons, Option.getD_some, Option.getD_some]

theorem lastRead_congr {A : Type} {read read' : LogLine → Option A} {lines : List LogLine}
    (same : ∀ line ∈ lines, read line = read' line) : lastRead read lines = lastRead read' lines := by
  unfold lastRead
  rw [List.filterMap_congr same]

/-- The record of a port opened by `new` that has then heard `body`. -/
def sessionRecord (port : CppString) (new : LogLine) (body : List LogLine) : UsbInterface :=
  body.foldl (heard port) (connected new none)

theorem foldl_heard (port : CppString) :
    ∀ (body : List LogLine) (element : UsbInterface),
      body.foldl (heard port) element =
        { element with
          isStorageDevice := element.isStorageDevice ||
            body.any fun line => storagePort line = some port
          idVendor := (lastRead (readOn readIdVendor port) body).getD element.idVendor
          idProduct := (lastRead (readOn readIdProduct port) body).getD element.idProduct
          serialNumber := (lastRead (readOn readSerialNumber port) body).getD element.serialNumber
          productName := (lastRead (readOn readProductName port) body).getD element.productName
          manufacturer :=
            (lastRead (readOn readManufacturer port) body).getD element.manufacturer } := by
  intro body
  induction body with
  | nil => intro element; simp [lastRead]
  | cons line body ih =>
      intro element
      rw [List.foldl_cons, ih]
      simp only [heard_eq, lastRead_cons, List.any_cons, Bool.or_assoc]

/-- The record of a session, field by field. -/
theorem sessionRecord_eq (port : CppString) (new : LogLine) (body : List LogLine) :
    sessionRecord port new body =
      { initializeUsbInterface with
        isEmpty := false
        connectionTime := logTime new
        isStorageDevice := body.any fun line => storagePort line = some port
        idVendor := (lastRead (readOn readIdVendor port) body).getD 0
        idProduct := (lastRead (readOn readIdProduct port) body).getD 0
        serialNumber := (lastRead (readOn readSerialNumber port) body).getD []
        productName := (lastRead (readOn readProductName port) body).getD []
        manufacturer := (lastRead (readOn readManufacturer port) body).getD [] } := by
  unfold sessionRecord
  rw [foldl_heard]
  simp [connected, initializeUsbInterface]

theorem sessionRecord_snoc (port : CppString) (new : LogLine) (body : List LogLine)
    (line : LogLine) :
    sessionRecord port new (body ++ [line]) = heard port (sessionRecord port new body) line := by
  unfold sessionRecord
  rw [List.foldl_append]
  rfl

/-! ## A line of one kind and the record of its port -/

section PortStep
variable {kind : Kind} {port : CppString} {line : LogLine} (isLine : IsLine kind port line)
include isLine

/-- Lines that open or close a port announce nothing. -/
theorem IsLine.announce_id (other : kind = .new ∨ kind = .disconnect) (element : UsbInterface) :
    announce line element = element := by
  have ids : describesIds line = false := by
    rw [Bool.eq_false_iff, Ne, isLine.describesIds_iff]
    rcases other with rfl | rfl <;> simp
  have serial := isLine.announcedSerialNumber_eq_none (by rcases other with rfl | rfl <;> simp)
  have product := isLine.announcedProductName_eq_none (by rcases other with rfl | rfl <;> simp)
  have maker := isLine.announcedManufacturer_eq_none (by rcases other with rfl | rfl <;> simp)
  simp [announce, ids, serial, product, maker]

theorem IsLine.portNext_heard (inside : kind ≠ .new ∧ kind ≠ .disconnect)
    (old : Option UsbInterface) :
    portNext line old = old.map fun element => heard port element line := by
  have storage := isLine.storagePort_eq
  unfold portNext heard
  by_cases own : kind = .storage
  · rw [if_pos own] at storage
    simp [storage]
  · rw [if_neg own] at storage
    have new := isLine.newPort_eq
    rw [if_neg inside.1] at new
    have notDisconnect : disconnects line = false := by
      rw [Bool.eq_false_iff, Ne, isLine.disconnects_iff]
      exact inside.2
    simp [storage, isLine.usbPort_eq own, accepts, new, closes, notDisconnect]

theorem IsLine.portEmit_none (inside : kind ≠ .disconnect) (old : Option UsbInterface) :
    portEmit line old = none := by
  have notDisconnect : disconnects line = false := by
    rw [Bool.eq_false_iff, Ne, isLine.disconnects_iff]
    exact inside
  unfold portEmit
  split
  · simp [closes, notDisconnect]
  · rfl

end PortStep

theorem IsLine.portNext_new {port : CppString} {line : LogLine} (isLine : IsLine .new port line)
    (old : Option UsbInterface) :
    portNext line old =
      if old.all UsbInterface.isEmpty then some (connected line old) else old := by
  have storage := isLine.storagePort_eq
  have new := isLine.newPort_eq
  rw [if_neg (by simp)] at storage
  rw [if_pos rfl] at new
  have same : old.map (announce line) = old := by
    cases old with
    | none => rfl
    | some element => rw [Option.map_some, isLine.announce_id (.inl rfl)]
  have notDisconnect : disconnects line = false := by
    rw [Bool.eq_false_iff, Ne, isLine.disconnects_iff]
    simp
  simp [portNext, storage, same, accepts, new, closes, notDisconnect]

theorem IsLine.portNext_disconnect {port : CppString} {line : LogLine}
    (isLine : IsLine .disconnect port line) (old : Option UsbInterface) :
    portNext line old =
      if old.any UsbInterface.isOpenStorage then some initializeUsbInterface else old := by
  have storage := isLine.storagePort_eq
  have new := isLine.newPort_eq
  rw [if_neg (by simp)] at storage
  rw [if_neg (by simp)] at new
  have same : old.map (announce line) = old := by
    cases old with
    | none => rfl
    | some element => rw [Option.map_some, isLine.announce_id (.inr rfl)]
  have announced : disconnects line = true := isLine.disconnects_iff.mpr rfl
  simp only [portNext, storage, same, accepts, new, Option.isSome_none, Bool.false_and,
    Bool.false_eq_true, if_false, closes, announced, if_true]
  cases old with
  | none => rfl
  | some element => cases live : element.isOpenStorage <;> simp [Option.filter_some, live]

theorem IsLine.portEmit_disconnect {port : CppString} {line : LogLine}
    (isLine : IsLine .disconnect port line) (old : Option UsbInterface) :
    portEmit line old =
      (old.filter UsbInterface.isOpenStorage).map fun record => ⟨port, record, logTime line⟩ := by
  have storage := isLine.storagePort_eq
  have usb := isLine.usbPort_eq (by simp)
  have new := isLine.newPort_eq
  rw [if_neg (by simp)] at storage new
  have same : old.map (announce line) = old := by
    cases old with
    | none => rfl
    | some element => rw [Option.map_some, isLine.announce_id (.inr rfl)]
  have announced : disconnects line = true := isLine.disconnects_iff.mpr rfl
  simp [portEmit, storage, usb, same, accepts, new, closes, announced]

/-! ## Silent lines -/

section SilentLines
variable {line : LogLine} (silent : Silent line)
include silent

/-- A silent line can only reach the information handler, which finds nothing. -/
theorem Silent.effect_eq (interfaces : InterfacesMap) :
    effect line interfaces = .ignore ∨ ∃ port, effect line interfaces = .inform port := by
  have storage : storagePort line = none := by
    have failed := silent .storage
    rw [Kind.regex] at failed
    simp [storagePort, failed]
  have new : newPort line = none := by
    have failed := silent .new
    rw [Kind.regex] at failed
    simp [newPort, failed]
  have notDisconnect : disconnects line = false := by
    have failed := silent .disconnect
    rw [Kind.regex] at failed
    simp [disconnects, failed]
  cases usb : usbPort line with
  | none => exact .inl (effect_ignore storage usb)
  | some port =>
      exact .inr ⟨port, effect_inform storage usb (acceptedPort_of_none new)
        (closedRecord_of_quiet notDisconnect)⟩

theorem Silent.announce_id (element : UsbInterface) : announce line element = element := by
  have found := silent .found
  have serial := silent .serialNumber
  have product := silent .product
  have maker := silent .manufacturer
  simp only [Kind.regex] at found serial product maker
  simp [announce, describesIds, announcedSerialNumber, announcedProductName, announcedManufacturer,
    announcedText, found, serial, product, maker]

theorem Silent.stepInterfaces_eq (interfaces : InterfacesMap) :
    stepInterfaces line interfaces = interfaces := by
  unfold stepInterfaces
  rcases silent.effect_eq interfaces with here | ⟨port, here⟩
  · rw [here]
    rfl
  · rw [here]
    apply Std.ExtTreeMap.ext_getElem?
    intro k
    rw [apply_inform_getElem?]
    cases interfaces[k]? with
    | none => simp
    | some element => simp [silent.announce_id]

theorem Silent.closingOf_eq (interfaces : InterfacesMap) : closingOf line interfaces = none := by
  unfold closingOf
  rcases silent.effect_eq interfaces with here | ⟨port, here⟩ <;> rw [here] <;> rfl

end SilentLines

/-- The lines of a log that match the pattern of some kind. -/
def spoken (log : List LogLine) : List LogLine := log.filter fun line => decide (¬ Silent line)

theorem runInterfaces_spoken :
    ∀ (log : List LogLine) (interfaces : InterfacesMap),
      runInterfaces log interfaces = runInterfaces (spoken log) interfaces := by
  intro log
  induction log with
  | nil => intro interfaces; rfl
  | cons line log ih =>
      intro interfaces
      have unfolded : runInterfaces (line :: log) interfaces =
          runInterfaces log (stepInterfaces line interfaces) := rfl
      by_cases silent : Silent line
      · have dropped : spoken (line :: log) = spoken log := by simp [spoken, silent]
        rw [unfolded, dropped, silent.stepInterfaces_eq, ih]
      · have kept : spoken (line :: log) = line :: spoken log := by simp [spoken, silent]
        rw [unfolded, kept, ih]
        rfl

theorem runClosings_spoken :
    ∀ (log : List LogLine) (interfaces : InterfacesMap),
      runClosings log interfaces = runClosings (spoken log) interfaces := by
  intro log
  induction log with
  | nil => intro interfaces; rfl
  | cons line log ih =>
      intro interfaces
      by_cases silent : Silent line
      · have dropped : spoken (line :: log) = spoken log := by simp [spoken, silent]
        rw [dropped, runClosings, silent.closingOf_eq, silent.stepInterfaces_eq, ih]
        rfl
      · have kept : spoken (line :: log) = line :: spoken log := by simp [spoken, silent]
        rw [kept, runClosings, runClosings, ih]

/-! ## One line and one port -/

/-- A line that does not open the port: the record hears it, or is closed. -/
theorem step_unopened {line : LogLine} {interfaces : InterfacesMap} {port : CppString}
    (unopened : ∀ told, effect line interfaces ≠ .connect told port) :
    (∃ record, effect line interfaces = .disconnect port record ∧
      (stepInterfaces line interfaces)[port]? = some initializeUsbInterface) ∨
    (stepInterfaces line interfaces)[port]? =
      interfaces[port]?.map fun element => heard port element line := by
  have spec := effect_spec line interfaces
  unfold stepInterfaces
  cases here : effect line interfaces with
  | ignore =>
      rw [here] at spec
      cases spec with
      | ignore storage usb =>
          right
          simp [heard, storage, usb]
  | flag flaggedPort =>
      rw [here] at spec
      cases spec with
      | flag storage =>
          right
          rw [apply_flag_getElem?]
          by_cases own : flaggedPort = port
          · simp [heard, storage, own]
          · simp [heard, storage, own]
  | inform told =>
      rw [here] at spec
      cases spec with
      | inform storage usb refused kept =>
          right
          rw [apply_inform_getElem?]
          by_cases own : told = port
          · simp [heard, storage, usb, own]
          · simp [heard, storage, usb, own]
  | connect told opened =>
      rw [here] at spec
      cases spec with
      | connect storage usb new free =>
          right
          have other : opened ≠ port := fun same => unopened told (same ▸ here)
          rw [apply_connect_getElem?, if_neg other, informed_getElem?]
          by_cases own : told = port
          · simp [heard, storage, usb, own]
          · simp [heard, storage, usb, own]
  | disconnect told record =>
      rw [here] at spec
      cases spec with
      | disconnect storage usb refused announced present live =>
          rw [apply_disconnect_getElem?]
          by_cases own : told = port
          · left
            exact ⟨record, by rw [own], by rw [if_pos own]⟩
          · right
            simp [heard, storage, usb, own]

theorem connect_names {line : LogLine} {interfaces : InterfacesMap} {told port : CppString}
    (here : effect line interfaces = .connect told port) : NamesNew line port := by
  have spec := effect_spec line interfaces
  rw [here] at spec
  cases spec with
  | connect storage usb new free => exact newPort_some new

/-- A line that opens the port: the record hears it before. -/
theorem step_opened {line : LogLine} {interfaces : InterfacesMap} {told port : CppString}
    (here : effect line interfaces = .connect told port) :
    (stepInterfaces line interfaces)[port]? =
      some (connected line (interfaces[port]?.map fun element => heard port element line)) := by
  have spec := effect_spec line interfaces
  unfold stepInterfaces
  rw [here] at spec ⊢
  cases spec with
  | connect storage usb new free =>
      rw [apply_connect_getElem?, if_pos rfl, informed_getElem?]
      by_cases own : told = port
      · simp [heard, storage, usb, own]
      · simp [heard, storage, usb, own]

/-- The record that a disconnect line moves into the map has heard the line. -/
theorem closing_heard {line : LogLine} {interfaces : InterfacesMap} {closing : Closing}
    (found : closingOf line interfaces = some closing) :
    storagePort line = none ∧ ∃ element, interfaces[closing.port]? = some element ∧
      element.isOpenStorage = true ∧ closing.record = heard closing.port element line := by
  have spec := effect_spec line interfaces
  rw [(closingOf_disconnect found).1] at spec
  cases spec with
  | disconnect storage usb refused announced present live =>
      rw [informed_getElem?, if_pos rfl] at present
      obtain ⟨element, inside, image⟩ := Option.map_eq_some_iff.mp present
      rw [← image, announce_isOpenStorage] at live
      refine ⟨storage, element, inside, live, ?_⟩
      rw [← image]
      simp [heard, storage, usb]

/-- A non-empty record hears the line, and is closed or stays. -/
theorem step_open {line : LogLine} {interfaces : InterfacesMap} {port : CppString}
    {element : UsbInterface} (present : interfaces[port]? = some element)
    (live : element.isEmpty = false) :
    closingOf line interfaces = some ⟨port, heard port element line, logTime line⟩ ∧
      (stepInterfaces line interfaces)[port]? = some initializeUsbInterface ∨
    (stepInterfaces line interfaces)[port]? = some (heard port element line) := by
  have unopened : ∀ told, effect line interfaces ≠ .connect told port := by
    intro told here
    have spec := effect_spec line interfaces
    rw [here] at spec
    cases spec with
    | connect storage usb new free =>
        rw [informed_getElem?, present] at free
        by_cases own : told = port
        · simp [own, live] at free
        · simp [own, live] at free
  rcases step_unopened unopened with ⟨record, here, closed⟩ | kept
  · left
    have found : closingOf line interfaces = some ⟨port, record, logTime line⟩ := by
      simp [closingOf, here, Effect.closing]
    obtain ⟨_, element', present', _, image⟩ := closing_heard found
    simp only at present' image
    rw [present, Option.some.injEq] at present'
    refine ⟨?_, closed⟩
    rw [found, image, present']
  · right
    rw [kept, present, Option.map_some]

end StoringDevices
