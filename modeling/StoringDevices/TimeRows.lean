import StoringDevices.Conservation
import StoringDevices.Terminal

/-! # The rows of the times tables

The loop of `printHTML` over the times of an entry walks two lists whose lengths
may differ.  It loses nothing because every disconnection time of the map has the
connection time of the same disconnect event at its place. -/
set_option autoImplicit false

namespace StoringDevices

/-! ## Rows and events -/

/-- The rows of an entry: one for each connection time, with the disconnection
time at the same place; and one for each disconnect event of the serial, in the
order of the log, with both times of the event. -/
structure RowsOf (log : List LogLine) (clock : Clock) (serial : CppString) (entry : UsbInfo)
    (rows : List UsbTimes) : Prop where
  count : rows.length = entry.connectionTimes.length
  cells : ∀ i : Nat, rows[i]? = entry.connectionTimes[i]?.map fun connection =>
    rowOf clock connection entry.disconnectionTimes[i]?
  events : ∃ events : List (Nat × Closing),
    events.Pairwise (fun a b => a.1 < b.1) ∧
    (∀ position closing, (position, closing) ∈ events ↔
      ClosedAt log position closing ∧ closing.record.serialNumber = serial) ∧
    entry.disconnectionTimes = events.map (fun e => e.2.time) ∧
    ∀ (k : Nat) (e : Nat × Closing), events[k]? = some e →
      rows[k]? = some (rowOf clock e.2.record.connectionTime (some e.2.time))

theorem timeRows_rowsOf {log : List LogLine} {serial : CppString} {entry : UsbInfo}
    (here : (finalUsbMap log)[serial]? = some entry) (clock : Clock) :
    RowsOf log clock serial entry
      (timeRows clock entry.connectionTimes entry.disconnectionTimes) := by
  obtain ⟨connections, disconnections⟩ := finalUsbMap_times here
  rw [← closingEventsOf_map_snd, List.map_map] at disconnections
  rw [← closingEventsOf_map_snd, List.map_map] at connections
  refine ⟨by simp [timeRows], timeRows_getElem? clock _ _, closingEventsOf serial log, ?_, ?_,
    disconnections, ?_⟩
  · exact (events_increasing closingOf log).sublist List.filter_sublist
  · intro position closing
    rw [closedAt_iff, closingEventsOf, List.mem_filter, decide_eq_true_eq]
  · intro k e event
    have inside : k < (closingEventsOf serial log).length := (List.getElem?_eq_some_iff.mp event).1
    rw [timeRows_getElem?, connections, disconnections, List.getElem?_append_left (by simpa using inside),
      List.getElem?_map, List.getElem?_map, event]
    rfl

/-- The page of a report: for each entry its table and a table with its rows, and
after them the disks. -/
def rowsPage (rows : UsbInfo → List UsbTimes) (usbMap : UsbMap) (disks : List DiskSheet) :
    CppString :=
  startHTML ++
    (usbMap.toList.mapIdx fun i slot =>
      let sheet := usbSheet (i + 1) slot.2
      (usbTable sheet.number sheet.connected sheet.cells).render ++ timesIntro ++
        (timesTable (rows slot.2)).render ++ afterTable).flatten ++
    beforeHardDisks ++
    (disks.flatMap fun disk => (diskTable disk.cells).render ++ afterTable) ++
    (if disks = [] then disksNotFound else []) ++ endHTML

theorem sheetsPage_rows (clock : Clock) (usbMap : UsbMap) (disks : List DiskSheet) :
    sheetsPage clock (usbSheets usbMap) disks =
      rowsPage (fun entry => timeRows clock entry.connectionTimes entry.disconnectionTimes) usbMap
        disks := by
  have disk : DiskSheet.html = fun sheet => (diskTable sheet.cells).render ++ afterTable :=
    funext DiskSheet.html_table
  rw [sheetsPage_eq, disk]
  unfold rowsPage usbSheets
  rw [List.flatMap_def, Lists.map_mapIdx]
  simp only [UsbSheet.html_tables]
  rfl

/-- Every report on the map of a log is the page on which each entry has the rows
of this entry and of its disconnect events, and no others. -/
theorem report_time_rows {log : List LogLine} {usbMap : UsbMap} {libm : Libm} {clock : Clock}
    {disksMap : DisksMap} {html : CppString} {left : ReportVariables}
    (read : getUSBsInfo log = some usbMap)
    (printed : printHTML libm clock usbMap disksMap {} = some (html, left)) :
    ∃ (rows : UsbInfo → List UsbTimes) (disks : List DiskSheet),
      diskSheets libm disksMap = some disks ∧ html = rowsPage rows usbMap disks ∧
      ∀ serial entry, usbMap[serial]? = some entry → RowsOf log clock serial entry (rows entry) := by
  rw [getUSBsInfo_eq, Option.some.injEq] at read
  subst read
  rw [printHTML_sheets] at printed
  obtain ⟨disks, shown, same⟩ := Option.map_eq_some_iff.mp printed
  obtain ⟨rfl, _⟩ := Prod.mk.inj same
  refine ⟨fun entry => timeRows clock entry.connectionTimes entry.disconnectionTimes, disks, shown,
    sheetsPage_rows clock (finalUsbMap log) disks, ?_⟩
  intro serial entry here
  exact timeRows_rowsOf here clock

/-- A device that is flagged as storage and disconnects. -/
def oneSession : List LogLine :=
  [{ text := "Jan 12 09:00:01 usb 1-6: new".toList },
    { text := "Jan 12 09:00:02 usb-storage 1-6".toList },
    { text := "Jan 12 09:00:09 usb 1-6: USB disconnect".toList }]

theorem oneSession_time_rows :
    ∃ (rows : UsbInfo → List UsbTimes) (disks : List DiskSheet),
      diskSheets Libm.exact ∅ = some disks ∧
      sheetsPage summer (usbSheets (finalUsbMap oneSession)) [] =
        rowsPage rows (finalUsbMap oneSession) disks ∧
      ∀ serial entry, (finalUsbMap oneSession)[serial]? = some entry →
        RowsOf oneSession summer serial entry (rows entry) := by
  have printed : printHTML Libm.exact summer (finalUsbMap oneSession) ∅ {} =
      some (sheetsPage summer (usbSheets (finalUsbMap oneSession)) [], {}) := by
    have noDisks : diskSheets Libm.exact ∅ = some [] := rfl
    rw [printHTML_sheets, noDisks, Option.map_some]
  exact report_time_rows (getUSBsInfo_eq oneSession) printed

end StoringDevices
