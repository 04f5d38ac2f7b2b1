import Mathlib.Algebra.GroupWithZero.Nat
import StoringDevices.Html
import StoringDevices.Rotation

/-! # The clock while the page is written

Each conversion calls `time` anew, three calls for each time that is shown, so the
clock moves under the loops of `printHTML`.  A conversion takes the year and the
daylight flag of its call and nothing else: while these stay, the page is the one
of a single instant. -/
set_option autoImplicit false

namespace StoringDevices

/-! ## Calls of `time` -/

/-- The year and the daylight flag of two instants. -/
structure SameSeason (clock clock' : Clock) : Prop where
  zone : clock'.zone = clock.zone
  year : (localtime clock'.zone clock'.now).tmYear = (localtime clock.zone clock.now).tmYear
  isdst : (localtime clock'.zone clock'.now).tmIsdst = (localtime clock.zone clock.now).tmIsdst

section SameSeason
variable {clock clock' : Clock} (same : SameSeason clock clock')
include same

theorem SameSeason.withStamp (tm : Tm) : withStamp clock' tm = withStamp clock tm := by
  unfold StoringDevices.withStamp
  simp only [same.year, same.isdst]

theorem SameSeason.utc (localTime : Tm) :
    getUTCTimeFromLocalTime clock' localTime = getUTCTimeFromLocalTime clock localTime := by
  unfold getUTCTimeFromLocalTime
  rw [same.zone, same.withStamp]

theorem SameSeason.est (utc : Tm) :
    getESTTimeFromUTCTime clock' utc = getESTTimeFromUTCTime clock utc := by
  unfold getESTTimeFromUTCTime
  rw [same.zone, same.withStamp]

end SameSeason

/-- The calls from `call` on, `count` of them, all fall in the season of `clock`. -/
def TickingClock.StaysIn (ticking : TickingClock) (clock : Clock) (call count : Nat) : Prop :=
  ∀ i < count, SameSeason clock (ticking.reading (call + i))

theorem TickingClock.StaysIn.split {ticking : TickingClock} {clock : Clock} {call first second : Nat}
    (stays : ticking.StaysIn clock call (first + second)) :
    ticking.StaysIn clock call first ∧ ticking.StaysIn clock (call + first) second := by
  constructor
  · intro i below
    exact stays i (by omega)
  · intro i below
    rw [Nat.add_assoc]
    exact stays (first + i) (by omega)

/-- The three calls for one time. -/
theorem TickingClock.StaysIn.conversions {ticking : TickingClock} {clock : Clock} {call : Nat}
    (stays : ticking.StaysIn clock call 3) (date : Tm) :
    getUTCTimeFromLocalTime (ticking.reading call) date = getUTCTimeFromLocalTime clock date ∧
      getESTTimeFromUTCTime (ticking.reading (call + 2))
          (getUTCTimeFromLocalTime (ticking.reading (call + 1)) date) =
        getESTTimeFromUTCTime clock (getUTCTimeFromLocalTime clock date) := by
  have first := stays 0 (by omega)
  have second := stays 1 (by omega)
  have third := stays 2 (by omega)
  exact ⟨first.utc date, by rw [third.est, second.utc]⟩

/-! ## How many calls -/

/-- The times of an entry that the page shows: a disconnection time only beside a
connection time. -/
def UsbInfo.timesShown (entry : UsbInfo) : Nat :=
  entry.connectionTimes.length + min entry.connectionTimes.length entry.disconnectionTimes.length

def timesShown (usbsMap : UsbMap) : Nat :=
  (usbsMap.toList.map fun slot => slot.2.timesShown).sum

section Calls
variable (clock : TickingClock)

theorem printTimes_calls (connections : List CppString) :
    ∀ (disconnections : List CppString) (shown : UsbTimes) (written : CppString) (call : Nat),
      (printTimes clock connections disconnections shown written call).2 =
        call + 3 * (connections.length + min connections.length disconnections.length) := by
  induction connections with
  | nil =>
      intro disconnections shown written call
      simp [printTimes]
  | cons connection connections ih =>
      intro disconnections shown written call
      cases disconnections with
      | nil =>
          rw [printTimes]
          simp only [assignConnection, ih, List.length_cons, List.length_nil, Nat.min_zero]
          omega
      | cons disconnection disconnections =>
          rw [printTimes]
          simp only [assignConnection, assignDisconnection, ih, List.length_cons]
          omega

theorem printUSB_calls (page : Page) (entry : UsbInfo) (call : Nat) :
    (printUSB clock page entry call).2 = call + 3 * entry.timesShown := by
  unfold printUSB UsbInfo.timesShown
  simp only [printTimes_calls]

theorem foldl_printUSB_calls (slots : List (CppString × UsbInfo)) :
    ∀ (page : Page) (call : Nat),
      (slots.foldl (fun written slot => printUSB clock written.1 slot.2 written.2) (page, call)).2 =
        call + 3 * (slots.map fun slot => slot.2.timesShown).sum := by
  induction slots with
  | nil =>
      intro page call
      rfl
  | cons slot slots ih =>
      intro page call
      rw [List.foldl_cons, ih, printUSB_calls, List.map_cons, List.sum_cons]
      omega

end Calls

/-! ## Within one season -/

section Season
variable {ticking : TickingClock} {clock : Clock}

theorem assignConnection_of_stays (time : CppString) (shown : UsbTimes) {call : Nat}
    (stays : ticking.StaysIn clock call 3) :
    assignConnection ticking time shown call = assignConnection clock.steady time shown call := by
  obtain ⟨utc, est⟩ := stays.conversions (convertSyslogTimestampToTm time)
  unfold assignConnection
  simp only [utc, est, Clock.reading_steady]

theorem assignDisconnection_of_stays (time : CppString) (shown : UsbTimes) {call : Nat}
    (stays : ticking.StaysIn clock call 3) :
    assignDisconnection ticking time shown call =
      assignDisconnection clock.steady time shown call := by
  obtain ⟨utc, est⟩ := stays.conversions (convertSyslogTimestampToTm time)
  unfold assignDisconnection
  simp only [utc, est, Clock.reading_steady]

theorem printTimes_of_stays (connections : List CppString) :
    ∀ (disconnections : List CppString) (shown : UsbTimes) (written : CppString) (call : Nat),
      ticking.StaysIn clock call
        (3 * (connections.length + min connections.length disconnections.length)) →
      printTimes ticking connections disconnections shown written call =
        printTimes clock.steady connections disconnections shown written call := by
  induction connections with
  | nil =>
      intro disconnections shown written call _
      rfl
  | cons connection connections ih =>
      intro disconnections shown written call stays
      cases disconnections with
      | nil =>
          have calls : 3 * ((connection :: connections).length +
              min (connection :: connections).length ([] : List CppString).length) =
                3 + 3 * (connections.length + min connections.length ([] : List CppString).length) := by
            simp only [List.length_cons, List.length_nil, Nat.min_zero]
            omega
          rw [calls] at stays
          rw [printTimes, printTimes, assignConnection_of_stays connection shown stays.split.1]
          exact ih [] initializeUSBTimes _ _ stays.split.2
      | cons disconnection disconnections =>
          have calls : 3 * ((connection :: connections).length +
              min (connection :: connections).length (disconnection :: disconnections).length) =
                3 + (3 + 3 * (connections.length + min connections.length disconnections.length)) := by
            simp only [List.length_cons]
            omega
          rw [calls] at stays
          have later := stays.split.2
          rw [printTimes, printTimes, assignConnection_of_stays connection shown stays.split.1]
          cases first : assignConnection clock.steady connection shown call with
          | mk shown' call' =>
              have next : call + 3 = call' := congrArg Prod.snd first
              subst next
              simp only
              rw [assignDisconnection_of_stays disconnection shown' later.split.1]
              exact ih disconnections initializeUSBTimes _ _ later.split.2

theorem printUSB_of_stays (page : Page) (entry : UsbInfo) {call : Nat}
    (stays : ticking.StaysIn clock call (3 * entry.timesShown)) :
    printUSB ticking page entry call = printUSB clock.steady page entry call := by
  unfold printUSB
  rw [printTimes_of_stays entry.connectionTimes entry.disconnectionTimes _ _ call stays]

theorem foldl_printUSB_of_stays (slots : List (CppString × UsbInfo)) :
    ∀ (page : Page) (call : Nat),
      ticking.StaysIn clock call (3 * (slots.map fun slot => slot.2.timesShown).sum) →
      slots.foldl (fun written slot => printUSB ticking written.1 slot.2 written.2) (page, call) =
        slots.foldl (fun written slot => printUSB clock.steady written.1 slot.2 written.2)
          (page, call) := by
  induction slots with
  | nil =>
      intro page call _
      rw [List.foldl_nil, List.foldl_nil]
  | cons slot slots ih =>
      intro page call stays
      rw [List.map_cons, List.sum_cons, Nat.mul_add] at stays
      have calls := printUSB_calls clock.steady page slot.2 call
      have later := ih (printUSB clock.steady page slot.2 call).1
        (printUSB clock.steady page slot.2 call).2 (by
          rw [calls]
          exact stays.split.2)
      rw [List.foldl_cons, List.foldl_cons, printUSB_of_stays page slot.2 stays.split.1]
      exact later

end Season

/-- While the calls of `time` fall in the year and on the side of the daylight
change of one instant, the page is the one of this instant; and `time` is called
three times for each time shown. -/
theorem printHTMLAt_eq (libm : Libm) (ticking : TickingClock) (clock : Clock) (usbsMap : UsbMap)
    (disksMap : DisksMap) (shown : ReportVariables)
    (stays : ticking.StaysIn clock 0 (3 * timesShown usbsMap)) :
    printHTMLAt libm ticking usbsMap disksMap shown =
      (printHTML libm clock usbsMap disksMap shown).map fun written =>
        (written, 3 * timesShown usbsMap) := by
  have loop := foldl_printUSB_of_stays usbsMap.toList { out := startHTML, shown := shown } 0 stays
  have calls := foldl_printUSB_calls clock.steady usbsMap.toList
    { out := startHTML, shown := shown } 0
  rw [Nat.zero_add] at calls
  unfold printHTML printHTMLAt
  simp only [loop, calls]
  cases disksMap.toList.foldlM (printDisk libm)
      { (usbsMap.toList.foldl (fun written slot => printUSB clock.steady written.1 slot.2 written.2)
          ({ out := startHTML, shown := shown }, 0)).1 with
        out := (usbsMap.toList.foldl
          (fun written slot => printUSB clock.steady written.1 slot.2 written.2)
          ({ out := startHTML, shown := shown }, 0)).1.out ++ beforeHardDisks } with
  | none => rfl
  | some page => rfl

/-- A second passes at each call. -/
def tickingSummer : TickingClock := ⟨springZone, fun call => summer.now + call⟩

theorem stickSession_page_while_ticking :
    printHTMLAt Libm.exact tickingSummer (finalUsbMap stickSession) ∅ {} =
      (printHTML Libm.exact summer (finalUsbMap stickSession) ∅ {}).map fun written =>
        (written, 6) := by
  have calls : 3 * timesShown (finalUsbMap stickSession) = 6 := by decide +kernel
  have fields : ∀ i < 6,
      (localtime springZone (summer.now + (0 + i : Nat))).tmYear =
          (localtime springZone summer.now).tmYear ∧
        (localtime springZone (summer.now + (0 + i : Nat))).tmIsdst =
          (localtime springZone summer.now).tmIsdst := by
    decide +kernel
  rw [← calls]
  apply printHTMLAt_eq
  intro i below
  rw [calls] at below
  exact ⟨rfl, (fields i below).1, (fields i below).2⟩

end StoringDevices
