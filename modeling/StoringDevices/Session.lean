import StoringDevices.Kinds
import StoringDevices.Provenance

/-! # Sessions of a port

A session is a connection line, the lines the port hears while open, and a
disconnect line or the end of the log.  From an idle port the local run of a
storage session emits one closing and leaves the port idle, or leaves the record
of the session open.  A log of such sessions, in any interleaving, therefore
closes the closed sessions in the order of their disconnect lines and keeps the
others for the flush. -/
set_option autoImplicit false

namespace StoringDevices

open Std (ExtTreeMap)
open Keyed (Machine)

/-! ## Sessions -/

structure Session where
  port : CppString
  new : LogLine
  body : List LogLine
  disconnect : Option LogLine
  isNew : IsLine .new port new
  isBody : ∀ line ∈ body, ∃ kind : Kind, (kind ≠ .new ∧ kind ≠ .disconnect) ∧ IsLine kind port line
  isDisconnect : ∀ line ∈ disconnect, IsLine .disconnect port line

def Session.lines (session : Session) : List LogLine :=
  session.new :: (session.body ++ session.disconnect.toList)

/-- A `usb-storage` line names the port. -/
def Session.isStorage (session : Session) : Bool :=
  session.body.any fun line => storagePort line = some session.port

def Session.isClosed (session : Session) : Bool := session.disconnect.isSome

def Session.isOpen (session : Session) : Bool := session.disconnect.isNone

/-- The port record while the session is open. -/
def Session.record (session : Session) : UsbInterface :=
  sessionRecord session.port session.new session.body

def Session.closing (session : Session) : Option Closing :=
  session.disconnect.map fun line => ⟨session.port, session.record, logTime line⟩

theorem Session.lines_isLine (session : Session) :
    ∀ line ∈ session.lines, ∃ kind : Kind, IsLine kind session.port line := by
  intro line member
  unfold Session.lines at member
  rcases List.mem_cons.mp member with same | member
  · rw [same]
    exact ⟨.new, session.isNew⟩
  · rcases List.mem_append.mp member with member | member
    · obtain ⟨kind, _, isLine⟩ := session.isBody line member
      exact ⟨kind, isLine⟩
    · exact ⟨.disconnect, session.isDisconnect line (Option.mem_toList.mp member)⟩

theorem Session.portLines_self (session : Session) :
    portLines session.port session.lines = session.lines := by
  apply List.filter_eq_self.mpr
  intro line member
  obtain ⟨kind, isLine⟩ := session.lines_isLine line member
  exact decide_eq_true isLine.named

theorem Session.portLines_other (session : Session) {port : CppString} (ne : port ≠ session.port) :
    portLines port session.lines = [] := by
  apply List.filter_eq_nil_iff.mpr
  intro line member named
  obtain ⟨kind, isLine⟩ := session.lines_isLine line member
  exact ne (isLine.only port (of_decide_eq_true named))

/-! ## What a session announced -/

def Session.serialNumber (session : Session) : CppString :=
  (lastRead announcedSerialNumber session.body).getD []

def Session.productName (session : Session) : CppString :=
  (lastRead announcedProductName session.body).getD []

def Session.manufacturer (session : Session) : CppString :=
  (lastRead announcedManufacturer session.body).getD []

def describedIdVendor (line : LogLine) : Option Int :=
  if describesIds line then parsedIdVendor line else none

def describedIdProduct (line : LogLine) : Option Int :=
  if describesIds line then parsedIdProduct line else none

def Session.idVendor (session : Session) : Int :=
  (lastRead describedIdVendor session.body).getD 0

def Session.idProduct (session : Session) : Int :=
  (lastRead describedIdProduct session.body).getD 0

/-- Both ids of the line have a decimal digit after the `=`. -/
def GivesIds (line : LogLine) : Prop :=
  (∃ d rest, isDigit d = true ∧
    regexSearch line.text idVendorRegex = some ("idVendor=".toList ++ d :: rest)) ∧
  ∃ d rest, isDigit d = true ∧
    regexSearch line.text idProductRegex = some ("idProduct=".toList ++ d :: rest)

def Session.GivesIds (session : Session) : Prop :=
  ∀ line ∈ session.body, describesIds line = true → StoringDevices.GivesIds line

theorem stringToInt_digit {d : Char} (digit : isDigit d = true) (rest : CppString) :
    ∃ value, stringToInt (d :: rest) = some value := by
  have start : (d :: rest).dropWhile isSpace = d :: rest := by
    rw [List.dropWhile_cons_of_neg (by rw [isSpace_of_isDigit digit]; simp)]
  unfold stringToInt
  rw [start]
  exact ⟨_, rfl⟩

theorem GivesIds.parsed {line : LogLine} (gives : GivesIds line) :
    (∃ vendor, parsedIdVendor line = some vendor) ∧
      ∃ product, parsedIdProduct line = some product := by
  obtain ⟨⟨d, rest, digit, vendor⟩, ⟨d', rest', digit', product⟩⟩ := gives
  constructor
  · unfold parsedIdVendor
    rw [vendor]
    exact stringToInt_digit digit rest
  · unfold parsedIdProduct
    rw [product]
    exact stringToInt_digit digit' rest'

/-- What the record of a session has read of its lines is what they announce. -/
theorem Session.lastRead_eq {A : Type} (session : Session) {read announced : LogLine → Option A}
    (same : ∀ line ∈ session.body, read line = announced line)
    (quiet : ∀ line, IsLine .storage session.port line → announced line = none) :
    lastRead (readOn read session.port) session.body = lastRead announced session.body := by
  apply lastRead_congr
  intro line member
  obtain ⟨kind, _, isLine⟩ := session.isBody line member
  unfold readOn
  rw [same line member]
  by_cases storage : kind = .storage
  · subst storage
    rw [quiet line isLine, ite_self]
  · have unflagged := isLine.storagePort_eq
    rw [if_neg storage] at unflagged
    rw [if_pos ⟨unflagged, isLine.usbPort_eq storage⟩]

theorem Session.record_serialNumber (session : Session) :
    session.record.serialNumber = session.serialNumber := by
  have told : lastRead (readOn readSerialNumber session.port) session.body =
      lastRead announcedSerialNumber session.body := by
    apply session.lastRead_eq
    · intro line member
      obtain ⟨kind, _, isLine⟩ := session.isBody line member
      exact isLine.readSerialNumber_eq
    · intro line isStorage
      exact isStorage.announcedSerialNumber_eq_none (by simp)
  unfold Session.record Session.serialNumber
  rw [sessionRecord_eq, ← told]

theorem Session.record_productName (session : Session) :
    session.record.productName = session.productName := by
  have told : lastRead (readOn readProductName session.port) session.body =
      lastRead announcedProductName session.body := by
    apply session.lastRead_eq
    · intro line member
      obtain ⟨kind, _, isLine⟩ := session.isBody line member
      exact isLine.readProductName_eq
    · intro line isStorage
      exact isStorage.announcedProductName_eq_none (by simp)
  unfold Session.record Session.productName
  rw [sessionRecord_eq, ← told]

theorem Session.record_manufacturer (session : Session) :
    session.record.manufacturer = session.manufacturer := by
  have told : lastRead (readOn readManufacturer session.port) session.body =
      lastRead announcedManufacturer session.body := by
    apply session.lastRead_eq
    · intro line member
      obtain ⟨kind, _, isLine⟩ := session.isBody line member
      exact isLine.readManufacturer_eq
    · intro line isStorage
      exact isStorage.announcedManufacturer_eq_none (by simp)
  unfold Session.record Session.manufacturer
  rw [sessionRecord_eq, ← told]

theorem Session.record_ids (session : Session) (gives : session.GivesIds) :
    session.record.idVendor = session.idVendor ∧ session.record.idProduct = session.idProduct := by
  have quiet : ∀ line, IsLine .storage session.port line → describesIds line ≠ true := by
    intro line isStorage
    rw [Ne, isStorage.describesIds_iff]
    simp
  have vendor : lastRead (readOn readIdVendor session.port) session.body =
      lastRead describedIdVendor session.body := by
    apply session.lastRead_eq
    · intro line member
      unfold readIdVendor describedIdVendor
      by_cases ids : describesIds line = true
      · obtain ⟨value, parsed⟩ := (gives line member ids).parsed.1
        rw [parsed, Option.getD_some]
      · rw [if_neg ids, if_neg ids]
    · intro line isStorage
      rw [describedIdVendor, if_neg (quiet line isStorage)]
  have product : lastRead (readOn readIdProduct session.port) session.body =
      lastRead describedIdProduct session.body := by
    apply session.lastRead_eq
    · intro line member
      unfold readIdProduct describedIdProduct
      by_cases ids : describesIds line = true
      · obtain ⟨value, parsed⟩ := (gives line member ids).parsed.2
        rw [parsed, Option.getD_some]
      · rw [if_neg ids, if_neg ids]
    · intro line isStorage
      rw [describedIdProduct, if_neg (quiet line isStorage)]
  unfold Session.record Session.idVendor Session.idProduct
  rw [sessionRecord_eq, ← vendor, ← product]
  exact ⟨rfl, rfl⟩

theorem Session.record_session (session : Session) :
    session.record.isEmpty = false ∧ session.record.isStorageDevice = session.isStorage ∧
      session.record.connectionTime = logTime session.new := by
  unfold Session.record Session.isStorage
  rw [sessionRecord_eq]
  exact ⟨rfl, rfl, rfl⟩

/-! ## The local run of a session -/

/-- A port that has no record, or the record of a closed session. -/
def Idle (old : Option UsbInterface) : Prop := old = none ∨ old = some initializeUsbInterface

theorem connected_of_idle {old : Option UsbInterface} (idle : Idle old) (line : LogLine) :
    connected line old = connected line none := by
  rcases idle with rfl | rfl <;> rfl

theorem idle_isEmpty {old : Option UsbInterface} (idle : Idle old) :
    old.all UsbInterface.isEmpty = true := by
  rcases idle with rfl | rfl <;> rfl

theorem body_run (port : CppString) :
    ∀ (body : List LogLine) (element : UsbInterface),
      (∀ line ∈ body, ∃ kind : Kind, (kind ≠ .new ∧ kind ≠ .disconnect) ∧ IsLine kind port line) →
      portMachine.localRun (some element) body = some (body.foldl (heard port) element) ∧
        portMachine.localOutputs body (some element) = [] := by
  intro body
  induction body with
  | nil => intro element _; exact ⟨rfl, rfl⟩
  | cons line body ih =>
      intro element isBody
      obtain ⟨kind, inside, isLine⟩ := isBody line (by simp)
      obtain ⟨run, silent⟩ := ih (heard port element line)
        fun other member => isBody other (List.mem_cons_of_mem _ member)
      have next : portMachine.next line (some element) = some (heard port element line) :=
        isLine.portNext_heard inside (some element)
      have emit : portMachine.emit line (some element) = none :=
        isLine.portEmit_none inside.2 (some element)
      constructor
      · unfold Machine.localRun at run ⊢
        rw [List.foldl_cons, next, run, List.foldl_cons]
      · rw [Machine.localOutputs, next, emit, silent]
        rfl

/-- The end of a session: a disconnect line closes the record of a storage device. -/
theorem Session.disconnect_run (session : Session) :
    portMachine.localRun (some session.record) session.disconnect.toList =
        some (if session.isOpen || !session.isStorage then session.record
          else initializeUsbInterface) ∧
      portMachine.localOutputs session.disconnect.toList (some session.record) =
        if session.isStorage then session.closing.toList else [] := by
  obtain ⟨live, flag, _⟩ := session.record_session
  have isOpenStorage : session.record.isOpenStorage = session.isStorage := by
    rw [UsbInterface.isOpenStorage, live, flag]
    rfl
  unfold Session.isOpen Session.closing
  cases closed : session.disconnect with
  | none => cases session.isStorage <;> exact ⟨rfl, rfl⟩
  | some line =>
      have isLine := session.isDisconnect line (by rw [closed]; rfl)
      have next := isLine.portNext_disconnect (some session.record)
      have emit := isLine.portEmit_disconnect (some session.record)
      rw [Option.any_some, isOpenStorage] at next
      rw [Option.filter_some, isOpenStorage] at emit
      have ran : portMachine.localRun (some session.record) (some line).toList =
          portNext line (some session.record) := rfl
      have emitted : portMachine.localOutputs (some line).toList (some session.record) =
          (portEmit line (some session.record)).toList ++ [] := rfl
      rw [ran, emitted, next, emit]
      cases session.isStorage <;> exact ⟨rfl, rfl⟩

section SessionRun
variable (session : Session) {old : Option UsbInterface} (idle : Idle old)
include idle

theorem Session.open_run :
    portMachine.localRun old (session.new :: session.body) = some session.record ∧
      portMachine.localOutputs (session.new :: session.body) old = [] := by
  obtain ⟨run, silent⟩ := body_run session.port session.body (connected session.new none)
    session.isBody
  have next : portMachine.next session.new old = some (connected session.new none) := by
    have stepped := session.isNew.portNext_new old
    rw [if_pos (idle_isEmpty idle), connected_of_idle idle] at stepped
    exact stepped
  have emit : portMachine.emit session.new old = none :=
    session.isNew.portEmit_none (by simp) old
  constructor
  · unfold Machine.localRun at run ⊢
    rw [List.foldl_cons, next]
    exact run
  · rw [Machine.localOutputs, next, emit, silent]
    rfl

/-- A storage session from an idle port. -/
theorem Session.run (storage : session.isStorage = true) :
    portMachine.localRun old session.lines =
        some (if session.isOpen then session.record else initializeUsbInterface) ∧
      portMachine.localOutputs session.lines old = session.closing.toList := by
  obtain ⟨run, silent⟩ := session.open_run idle
  obtain ⟨last, emitted⟩ := session.disconnect_run
  have split : session.lines = (session.new :: session.body) ++ session.disconnect.toList := rfl
  rw [split, Keyed.localRun_append, Keyed.localOutputs_append, run, silent, last, emitted, storage]
  simp

/-- A session without a `usb-storage` line: its record stays. -/
theorem Session.run_other (other : session.isStorage = false) :
    portMachine.localRun old session.lines = some session.record ∧
      portMachine.localOutputs session.lines old = [] := by
  obtain ⟨run, silent⟩ := session.open_run idle
  obtain ⟨last, emitted⟩ := session.disconnect_run
  have split : session.lines = (session.new :: session.body) ++ session.disconnect.toList := rfl
  rw [split, Keyed.localRun_append, Keyed.localOutputs_append, run, silent, last, emitted, other]
  simp

end SessionRun

/-- The sessions of a port one after the other: all but the last are closed. -/
theorem sessions_run :
    ∀ (sessions : List Session) (old : Option UsbInterface), Idle old →
      (∀ session ∈ sessions, session.isStorage = true) →
      (∀ session ∈ sessions.dropLast, session.isClosed = true) →
      portMachine.localOutputs (sessions.flatMap Session.lines) old =
          sessions.filterMap Session.closing ∧
        ((portMachine.localRun old (sessions.flatMap Session.lines)).filter
          fun element => !element.isEmpty).toList =
            (sessions.filter Session.isOpen).map Session.record := by
  intro sessions
  induction sessions with
  | nil =>
      intro old idle _ _
      refine ⟨rfl, ?_⟩
      rcases idle with rfl | rfl <;> rfl
  | cons session sessions ih =>
      intro old idle storage closed
      obtain ⟨run, outputs⟩ := session.run idle (storage session (by simp))
      have live := session.record_session.1
      rw [List.flatMap_cons, Keyed.localRun_append, Keyed.localOutputs_append, run, outputs]
      cases shape : sessions with
      | nil =>
          cases ended : session.disconnect with
          | none =>
              simp [Session.isOpen, ended, Session.closing, Machine.localRun, Machine.localOutputs,
                live]
          | some line =>
              simp [Session.isOpen, ended, Session.closing, Machine.localRun, Machine.localOutputs,
                initializeUsbInterface]
      | cons next rest =>
          have ended : session.isClosed = true := closed session (by rw [shape]; simp)
          obtain ⟨line, here⟩ := Option.isSome_iff_exists.mp ended
          have notOpen : session.isOpen = false := by simp [Session.isOpen, here]
          obtain ⟨restOutputs, restRun⟩ := ih (some initializeUsbInterface) (.inr rfl)
            (fun other member => storage other (List.mem_cons_of_mem _ member))
            (fun other member => closed other (by
              rw [shape] at member ⊢
              rw [List.dropLast_cons_cons]
              exact List.mem_cons_of_mem _ member))
          rw [notOpen, if_neg (by simp), ← shape, restOutputs, restRun]
          constructor
          · simp [Session.closing, here]
          · rw [List.filter_cons_of_neg (by simp [notOpen])]

/-! ## Logs of sessions -/

/-- The log interleaves the sessions of the ports, among lines of no kind. -/
structure SessionLog (log : List LogLine) (sessions : CppString → List Session) : Prop where
  lines : ∀ line ∈ log, Silent line ∨ ∃ kind port, IsLine kind port line
  ownPort : ∀ port, ∀ session ∈ sessions port, session.port = port
  ofPort : ∀ port, portLines port (spoken log) = (sessions port).flatMap Session.lines
  closed : ∀ port, ∀ session ∈ (sessions port).dropLast, session.isClosed = true

/-- The closed sessions, in the order of their disconnect lines. -/
structure InDisconnectOrder (log : List LogLine) (sessions : CppString → List Session)
    (closed : List Session) : Prop where
  lines : closed.map Session.disconnect = (log.filter fun line => disconnects line).map some
  ofPort : ∀ port, closed.filter (fun session => session.port = port) =
    (sessions port).filter Session.isClosed

/-- The open sessions, in the order of their ports. -/
structure InPortOrder (sessions : CppString → List Session) (opened : List Session) : Prop where
  ports : opened.Pairwise fun a b => compare a.port b.port = .lt
  ofPort : ∀ port, opened.filter (fun session => session.port = port) =
    (sessions port).filter Session.isOpen

/-- A line with the port it names, or without one when it is silent. -/
def Tagged (e : Option CppString × LogLine) : Prop :=
  e.1 = none ∧ Silent e.2 ∨ ∃ (kind : Kind) (port : CppString), e.1 = some port ∧ IsLine kind port e.2

theorem portLines_of_tags {tagged : List (Option CppString × LogLine)}
    (tags : ∀ e ∈ tagged, Tagged e) (port : CppString) :
    portLines port (spoken (tagged.map Prod.snd)) =
      (tagged.filter fun e => e.1 = some port).map Prod.snd := by
  unfold portLines spoken
  rw [List.filter_filter, List.filter_map]
  congr 1
  apply List.filter_congr
  intro e member
  rcases tags e member with ⟨tag, silent⟩ | ⟨kind, own, tag, isLine⟩
  · simp [tag, silent]
  · have named : port ∈ mentions e.2 ↔ own = port := by
      constructor
      · intro h
        exact (isLine.only port h).symm
      · intro same
        exact same ▸ isLine.named
    simp [tag, isLine.not_silent, named]

theorem sessionLog_of_tags {tagged : List (Option CppString × LogLine)}
    {sessions : CppString → List Session} (tags : ∀ e ∈ tagged, Tagged e)
    (ownPort : ∀ port, ∀ session ∈ sessions port, session.port = port)
    (ofPort : ∀ port, (tagged.filter fun e => e.1 = some port).map Prod.snd =
      (sessions port).flatMap Session.lines)
    (closed : ∀ port, ∀ session ∈ (sessions port).dropLast, session.isClosed = true) :
    SessionLog (tagged.map Prod.snd) sessions := by
  refine ⟨?_, ownPort, ?_, closed⟩
  · intro line member
    obtain ⟨e, inside, rfl⟩ := List.mem_map.mp member
    rcases tags e inside with ⟨_, silent⟩ | ⟨kind, port, _, isLine⟩
    · exact .inl silent
    · exact .inr ⟨kind, port, isLine⟩
  · intro port
    rw [portLines_of_tags tags, ofPort]

section Logs
variable {log : List LogLine} {sessions : CppString → List Session}
  (wellFormed : SessionLog log sessions)
include wellFormed

theorem SessionLog.kind {line : LogLine} (member : line ∈ spoken log) :
    ∃ kind port, IsLine kind port line := by
  obtain ⟨inside, loud⟩ := List.mem_filter.mp member
  rcases wellFormed.lines line inside with silent | isLine
  · exact absurd silent (of_decide_eq_true loud)
  · exact isLine

theorem SessionLog.single : ∀ line ∈ spoken log, SinglePort line := by
  intro line member
  obtain ⟨kind, port, isLine⟩ := wellFormed.kind member
  exact isLine.singlePort

theorem SessionLog.disconnectLines_of_port (port : CppString) :
    (log.filter fun line => disconnects line).filter
        (fun line => (linePort line).getD [] = port) =
      (sessions port).filterMap Session.disconnect := by
  have loud : (log.filter fun line => disconnects line) =
      (spoken log).filter fun line => disconnects line := by
    unfold spoken
    rw [List.filter_filter]
    apply List.filter_congr
    intro line member
    by_cases silent : Silent line
    · have failed := silent .disconnect
      rw [Kind.regex] at failed
      simp [disconnects, failed]
    · simp [silent]
  have atPort : (spoken log).filter (fun line => (linePort line).getD [] = port) =
      portLines port (spoken log) := by
    unfold portLines
    apply List.filter_congr
    intro line member
    obtain ⟨kind, own, isLine⟩ := wellFormed.kind member
    rw [isLine.linePort_eq, Option.getD_some]
    apply decide_eq_decide.mpr
    constructor
    · intro same
      exact same ▸ isLine.named
    · intro named
      exact (isLine.only port named).symm
  rw [loud, List.filter_comm, atPort, wellFormed.ofPort, List.filter_flatMap]
  have ofSession : ∀ session : Session,
      session.lines.filter (fun line => disconnects line) = session.disconnect.toList := by
    intro session
    have notNew : disconnects session.new = false := by
      rw [Bool.eq_false_iff, Ne, session.isNew.disconnects_iff]
      simp
    have notBody : session.body.filter (fun line => disconnects line) = [] := by
      apply List.filter_eq_nil_iff.mpr
      intro line member
      obtain ⟨kind, inside, isLine⟩ := session.isBody line member
      rw [isLine.disconnects_iff]
      exact inside.2
    unfold Session.lines
    rw [List.filter_cons_of_neg (by simp [notNew]), List.filter_append, notBody]
    cases ended : session.disconnect with
    | none => rfl
    | some line =>
        have yes := (session.isDisconnect line (by rw [ended]; rfl)).disconnects_iff.mpr rfl
        simp [yes]
  rw [List.filterMap_eq_flatMap_toList]
  exact List.flatMap_congr fun session _ => ofSession session

theorem SessionLog.exists_disconnect_order : ∃ closed, InDisconnectOrder log sessions closed := by
  have own : ∀ port, ∀ session ∈ (sessions port).filter Session.isClosed, session.port = port := by
    intro port session member
    exact wellFormed.ownPort port session (List.mem_filter.mp member).1
  have lifts : ∀ port, ((sessions port).filter Session.isClosed).map
        (fun session => session.disconnect.getD session.new) =
      (log.filter fun line => disconnects line).filter
        fun line => decide ((linePort line).getD [] = port) := by
    intro port
    rw [wellFormed.disconnectLines_of_port port]
    induction sessions port with
    | nil => rfl
    | cons session rest ih =>
        cases ended : session.disconnect with
        | none => simpa [Session.isClosed, ended] using ih
        | some line => simpa [Session.isClosed, ended] using ih
  obtain ⟨closed, images, ports⟩ := Keyed.exists_merge
    (fun line => (linePort line).getD []) Session.port
    (fun session => session.disconnect.getD session.new) _ _ own lifts
  refine ⟨closed, ?_, ports⟩
  rw [← images, List.map_map]
  apply List.map_congr_left
  intro session member
  have isClosed : session.isClosed = true := by
    have atPort : session ∈ closed.filter fun other => decide (other.port = session.port) :=
      List.mem_filter.mpr ⟨member, by simp⟩
    rw [ports session.port] at atPort
    exact (List.mem_filter.mp atPort).2
  obtain ⟨line, here⟩ := Option.isSome_iff_exists.mp isClosed
  simp [here]

end Logs

end StoringDevices
