import StoringDevices.Clock
import StoringDevices.SessionsShown
import StoringDevices.TimeRows
import StoringDevices.Timestamps

/-! # From the sessions to the page

When a session began and ended, and what the times tables of the page say of it.
The instants pass through the headers of the log, the date pattern, the port records,
the entries of the map and the conversions, and come out in local time, UTC and EST. -/
set_option autoImplicit false

namespace StoringDevices

/-! ## Lines of an instant -/

/-- The text leaves out the year. -/
theorem getStringFromTM_of_sameStamp {tm tm' : Tm} (same : SameStamp tm tm') :
    getStringFromTM tm = getStringFromTM tm' := by
  obtain ⟨month, day, hour, minute, second⟩ := same
  simp only [Tm.civil] at month day hour minute second
  unfold getStringFromTM
  rw [month, day, hour, minute, second]

/-- The header of the line names the instant `t` of the current year, and the date
pattern can begin there; the offset of the current time is the one in force at `t`, and at the reading
of its UTC time five hours earlier. -/
structure Clock.Dates (clock : Clock) (line : LogLine) (t : Int) : Prop where
  header : ∃ (time : SyslogTime) (rest : CppString), HasHeader line time rest ∧
    (ShowsDay time ∨ LaterClock (cStr line.text)) ∧
    SameStamp time.tm (localtime clock.zone t)
  year : (localtime clock.zone t).tmYear = (localtime clock.zone clock.now).tmYear
  offset : clock.zone.offset t = clock.zone.offset clock.now
  estOffset : clock.zone.offset (clock.estInstant t) = clock.zone.offset clock.now

section Dates
variable {clock : Clock} {line : LogLine} {t : Int} (dates : clock.Dates line t)
include dates

theorem Clock.Dates.names : clock.Names (convertSyslogTimestampToTm (logTime line)) t := by
  obtain ⟨time, rest, header, seen, instant⟩ := dates.header
  rw [cStr_header header] at seen
  have read : convertSyslogTimestampToTm (logTime line) = time.tm := by
    rw [← dateIn_seen seen, ← cStr_header header]
    rfl
  rw [← read] at instant
  exact ⟨instant, dates.year⟩

theorem Clock.Dates.localTimeText :
    localTimeText (logTime line) = getStringFromTM (localtime clock.zone t) :=
  getStringFromTM_of_sameStamp dates.names.fields

theorem Clock.Dates.utcText : utcText clock (logTime line) = getStringFromTM (gmtime t) :=
  getStringFromTM_of_sameStamp (dates.names.utc_iff.mpr dates.offset)

theorem Clock.Dates.estText :
    estText clock (logTime line) = getStringFromTM (gmtime (t - 5 * 3600)) := by
  have utc := dates.names.utc_iff.mpr dates.offset
  exact getStringFromTM_of_sameStamp ((dates.names.est_iff utc).mpr dates.estOffset)

end Dates

/-! ## Rows of sessions -/

/-- The cells of a session from `start` to `stop`, or of one that goes on. -/
def instantRow (zone : Zone) (start : Int) (stop : Option Int) : UsbTimes where
  usbLocaltimeConnection := getStringFromTM (localtime zone start)
  usbLocaltimeDisconnection := (stop.map fun t => getStringFromTM (localtime zone t)).getD []
  usbUtcConnection := getStringFromTM (gmtime start)
  usbUtcDisconnection := (stop.map fun t => getStringFromTM (gmtime t)).getD []
  usbEstConnection := getStringFromTM (gmtime (start - 5 * 3600))
  usbEstDisconnection := (stop.map fun t => getStringFromTM (gmtime (t - 5 * 3600))).getD []

def Session.row (zone : Zone) (instant : LogLine → Int) (session : Session) : UsbTimes :=
  instantRow zone (instant session.new) (session.disconnect.map instant)

/-- The lines at which the session begins and ends are dated. -/
def Session.DatedBy (clock : Clock) (instant : LogLine → Int) (session : Session) : Prop :=
  clock.Dates session.new (instant session.new) ∧
    ∀ line ∈ session.disconnect, clock.Dates line (instant line)

theorem Session.DatedBy.row_eq {clock : Clock} {instant : LogLine → Int} {session : Session}
    (dated : session.DatedBy clock instant) :
    rowOf clock (logTime session.new) (session.disconnect.map logTime) =
      session.row clock.zone instant := by
  obtain ⟨begins, ends⟩ := dated
  unfold Session.row instantRow rowOf
  rw [begins.localTimeText, begins.utcText, begins.estText]
  cases finished : session.disconnect with
  | none => rfl
  | some line =>
      have stop := ends line finished
      simp only [Option.map_some, Option.getD_some, stop.localTimeText, stop.utcText, stop.estText]

/-- The rows of sessions that are over, before those that go on. -/
theorem timeRows_sessions (clock : Clock) {closed opened : List Session}
    (finished : ∀ session ∈ closed, ∃ line, session.disconnect = some line)
    (goesOn : ∀ session ∈ opened, session.disconnect = none) :
    timeRows clock ((closed ++ opened).map fun session => logTime session.new)
        (closed.filterMap fun session => session.disconnect.map logTime) =
      (closed ++ opened).map fun session =>
        rowOf clock (logTime session.new) (session.disconnect.map logTime) := by
  induction closed with
  | nil =>
      rw [List.nil_append, List.filterMap_nil]
      induction opened with
      | nil => rfl
      | cons session opened ih =>
          rw [List.map_cons, List.map_cons, timeRows_cons, List.head?_nil,
            goesOn session List.mem_cons_self, Option.map_none]
          exact congrArg _ (ih fun other member => goesOn other (List.mem_cons_of_mem _ member))
  | cons session closed ih =>
      obtain ⟨line, here⟩ := finished session List.mem_cons_self
      have ended : session.disconnect.map logTime = some (logTime line) := by
        rw [here, Option.map_some]
      have first : (session :: closed).filterMap (fun session => session.disconnect.map logTime) =
          logTime line :: closed.filterMap fun session => session.disconnect.map logTime :=
        List.filterMap_cons_some ended
      rw [List.cons_append, List.map_cons, List.map_cons, first, timeRows_cons,
        List.head?_cons, ended]
      exact congrArg _ (ih fun other member => finished other (List.mem_cons_of_mem _ member))

theorem open_of_ports {sessions : CppString → List Session} {opened : List Session}
    (ports : InPortOrder sessions opened) : ∀ session ∈ opened, session.disconnect = none := by
  intro session member
  have atPort : session ∈ opened.filter fun other => decide (other.port = session.port) :=
    List.mem_filter.mpr ⟨member, by simp⟩
  rw [ports.ofPort session.port] at atPort
  exact Option.isNone_iff_eq_none.mp (List.mem_filter.mp atPort).2

/-! ## The page -/

/-- The times table of each sheet has the rows of the sessions that announced its
serial number, those that are over before those that go on. -/
structure ShowsInstants (log : List LogLine) (sessions : CppString → List Session) (clock : Clock)
    (instant : LogLine → Int) (usbs : List UsbSheet) : Prop where
  shown : ShowsSessions log sessions usbs
  tables : ∃ closed opened, InDisconnectOrder log sessions closed ∧ InPortOrder sessions opened ∧
    ∀ sheet ∈ usbs, sheet.html clock =
      (usbTable sheet.number sheet.connected sheet.cells).render ++ timesIntro ++
        (timesTable ((closed.filter (Session.announces sheet.serial) ++
          opened.filter (Session.announces sheet.serial)).map
            (Session.row clock.zone instant))).render ++ afterTable

theorem ShowsSessions.showsInstants {log : List LogLine} {sessions : CppString → List Session}
    {clock : Clock} {instant : LogLine → Int} {usbs : List UsbSheet}
    (shows : ShowsSessions log sessions usbs) (wellFormed : SessionLog log sessions)
    (dated : ∀ port, ∀ session ∈ sessions port, session.DatedBy clock instant) :
    ShowsInstants log sessions clock instant usbs := by
  obtain ⟨closed, opened, order, ports, times⟩ := shows.times
  refine ⟨shows, closed, opened, order, ports, ?_⟩
  intro sheet member
  obtain ⟨connections, disconnections⟩ := times sheet member
  have goesOn : ∀ session ∈ opened.filter (Session.announces sheet.serial),
      session.disconnect = none := fun session announced =>
    open_of_ports ports session (mem_announces.mp announced).1
  have rows := timeRows_sessions clock (announcers_ended order sheet.serial) goesOn
  have instants : ∀ session ∈ closed.filter (Session.announces sheet.serial) ++
      opened.filter (Session.announces sheet.serial),
      rowOf clock (logTime session.new) (session.disconnect.map logTime) =
        session.row clock.zone instant := by
    intro session announced
    rw [← List.filter_append] at announced
    obtain ⟨port, here⟩ := (mem_sessions wellFormed order ports session).mp (mem_announces.mp announced).1
    exact (dated port session here).row_eq
  rw [List.map_congr_left instants] at rows
  rw [UsbSheet.html_tables, connections, disconnections, rows]

/-- The page of a run on a syslog of storage sessions, each with its instants in the
headers of its lines, gives these instants in local time, UTC and EST. -/
theorem sessions_on_page {system : System} (root : system.geteuid = 0)
    {sessions : CppString → List Session} (wellFormed : SessionLog system.second.log sessions)
    (storage : ∀ port, ∀ session ∈ sessions port, session.isStorage = true)
    {instant : LogLine → Int}
    (dated : ∀ port, ∀ session ∈ sessions port, session.DatedBy system.clock instant)
    {process after : Process} (initial : process.shown = {}) (writable : system.reportOpens = true)
    {code : Int} (run : main system process = some (after, code)) :
    ∃ usbs disks, after.report = some (sheetsPage system.clock usbs disks) ∧
      ShowsInstants system.second.log sessions system.clock instant usbs ∧
      diskSheets system.libm system.second.disksMap = some disks := by
  obtain ⟨_, disks, _, shown, _, page, _, _⟩ := run_outcome root initial run
  rw [if_pos writable] at page
  exact ⟨_, disks, page,
    (usbSheets_show_sessions wellFormed storage).showsInstants wellFormed dated, shown⟩

/-! ### A log of one session -/

def Session.alone (session : Session) (port : CppString) : List Session :=
  if port = session.port then [session] else []

theorem Session.mem_alone {session other : Session} {port : CppString}
    (member : other ∈ session.alone port) : other = session ∧ port = session.port := by
  unfold Session.alone at member
  split at member
  · next own => exact ⟨List.mem_singleton.mp member, own⟩
  · cases member

theorem Session.sessionLog_lines (session : Session) : SessionLog session.lines session.alone := by
  have tags : ∀ e ∈ session.lines.map fun line => (some session.port, line), Tagged e := by
    intro e member
    obtain ⟨line, known, rfl⟩ := List.mem_map.mp member
    obtain ⟨kind, isLine⟩ := session.lines_isLine line known
    exact .inr ⟨kind, _, rfl, isLine⟩
  have log : session.lines = (session.lines.map fun line => (some session.port, line)).map Prod.snd := by
    rw [List.map_map]
    exact (List.map_id _).symm
  rw [log]
  refine sessionLog_of_tags tags ?_ ?_ ?_
  · intro port other member
    obtain ⟨rfl, rfl⟩ := Session.mem_alone member
    rfl
  · intro port
    unfold Session.alone
    by_cases own : port = session.port
    · subst own
      rw [if_pos rfl, List.flatMap_singleton, List.filter_eq_self.mpr, ← log]
      intro e member
      obtain ⟨line, _, rfl⟩ := List.mem_map.mp member
      exact decide_eq_true rfl
    · rw [if_neg own, List.flatMap_nil, List.map_eq_nil_iff]
      apply List.filter_eq_nil_iff.mpr
      intro e member here
      obtain ⟨line, _, rfl⟩ := List.mem_map.mp member
      exact own (Option.some.inj (of_decide_eq_true here)).symm
  · intro port other member
    unfold Session.alone at member
    split at member <;> cases member

/-- A stick that is used for nine minutes. -/
def usedStick : Session where
  port := "1-1".toList
  new := { text := "Jan 12 09:00:01 pc kernel: usb 1-1: new".toList }
  body :=
    [{ text := "Jan 12 09:00:02 pc kernel: usb 1-1: SerialNumber: 4C53".toList },
      { text := "Jan 12 09:00:02 pc kernel: usb-storage 1-1:1.0".toList }]
  disconnect := some { text := "Jan 12 09:09:30 pc kernel: usb 1-1: USB disconnect".toList }
  isNew := by decide +kernel
  isBody := by
    intro line member
    rcases List.mem_cons.mp member with rfl | member
    · exact ⟨.serialNumber, by decide, by decide +kernel⟩
    · have same := List.mem_singleton.mp member
      subst same
      exact ⟨.storage, by decide, by decide +kernel⟩
  isDisconnect := by
    intro line member
    cases member
    decide +kernel

def usedSessions : CppString → List Session := usedStick.alone

/-- The second of February 2026. -/
def winter : Clock := ⟨springZone, 1770000000⟩

/-- Eight o'clock UTC on the twelfth of January, and nine minutes later. -/
def usedInstant (line : LogLine) : Int := if disconnects line then 1768205370 else 1768204801

def ninthMinute : SyslogTime :=
  { twelfthOfJanuary with
    minute := 9
    second := 30
    minute_lt := by decide
    second_lt := by decide }

theorem usedStick_dated : usedStick.DatedBy winter usedInstant := by
  constructor
  · refine ⟨⟨twelfthOfJanuary, "pc kernel: usb 1-1: new".toList, ?_, .inl (.inr (by decide)), ?_⟩,
      ?_, ?_, ?_⟩
    · unfold HasHeader
      decide +kernel
    all_goals decide +kernel
  · intro line same
    cases same
    refine ⟨⟨ninthMinute, "pc kernel: usb 1-1: USB disconnect".toList, ?_, .inl (.inr (by decide)), ?_⟩,
      ?_, ?_, ?_⟩
    · unfold HasHeader
      decide +kernel
    all_goals decide +kernel

def winterSystem : System :=
  { busySystem with
    second :=
      { busySystem.second with
        syslog := some (Lines.unlines '\n' (usedStick.lines.map LogLine.text)) }
    clock := winter }

theorem usedStick_on_page :
    ∃ after code, main winterSystem {} = some (after, code) ∧
      ∃ usbs disks, after.report = some (sheetsPage winter usbs disks) ∧
        ShowsInstants winterSystem.second.log usedSessions winter usedInstant usbs ∧
        diskSheets winterSystem.libm winterSystem.second.disksMap = some disks := by
  obtain ⟨after, run⟩ := @run_exists winterSystem rfl {} rfl [] [] rfl rfl
  refine ⟨after, 0, run, ?_⟩
  have log : winterSystem.second.log = usedStick.lines := by
    apply Answers.log_unlines rfl
    · exact fun _ => rfl
    · decide +kernel
  have wellFormed : SessionLog winterSystem.second.log usedSessions := by
    rw [log]
    exact usedStick.sessionLog_lines
  have storage : ∀ port, ∀ session ∈ usedSessions port, session.isStorage = true := by
    intro port session member
    obtain ⟨rfl, _⟩ := Session.mem_alone member
    decide +kernel
  have dated : ∀ port, ∀ session ∈ usedSessions port, session.DatedBy winter usedInstant := by
    intro port session member
    obtain ⟨rfl, _⟩ := Session.mem_alone member
    exact usedStick_dated
  exact @sessions_on_page winterSystem rfl usedSessions wellFormed storage usedInstant dated {} _ rfl
    rfl 0 run

end StoringDevices
