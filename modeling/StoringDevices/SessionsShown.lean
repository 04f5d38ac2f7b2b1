import StoringDevices.SessionMap
import StoringDevices.TerminalReadBack

/-! # From the sessions to the terminal

What a syslog of storage sessions says, and what is read off the terminal when the
program has run on it: one sheet for each serial number that was announced, with
the times of its sessions. -/
set_option autoImplicit false

namespace StoringDevices

open Std (ExtTreeMap)

/-! ## Sheets by serial number -/

def UsbSheet.serial (sheet : UsbSheet) : CppString := sheet.serialNumber.getD []

theorem serial_usbSheet (number : Nat) (entry : UsbInfo) :
    (usbSheet number entry).serial = entry.serialNumber := by
  have given : (usbSheet number entry).serial = (knownText entry.serialNumber).getD [] := rfl
  rw [given, knownText]
  split
  · next empty => rw [empty, Option.getD_none]
  · exact Option.getD_some

theorem usbSheets_serials {usbsMap : UsbMap}
    (keyed : ∀ (serial : CppString) (entry : UsbInfo), usbsMap[serial]? = some entry →
      entry.serialNumber = serial) : (usbSheets usbsMap).map UsbSheet.serial = usbsMap.keys := by
  rw [← ExtTreeMap.map_fst_toList_eq_keys]
  unfold usbSheets
  apply List.ext_getElem
  · simp
  · intro i inside inside'
    have slot : i < usbsMap.toList.length := by simpa using inside'
    have present : usbsMap[(usbsMap.toList[i]).1]? = some (usbsMap.toList[i]).2 :=
      ExtTreeMap.mem_toList_iff_getElem?_eq_some.mp (List.getElem_mem slot)
    rw [List.getElem_map, List.getElem_mapIdx, List.getElem_map, serial_usbSheet]
    exact keyed _ _ present

theorem mem_usbSheets {usbsMap : UsbMap} {sheet : UsbSheet} (member : sheet ∈ usbSheets usbsMap) :
    ∃ (serial : CppString) (entry : UsbInfo) (number : Nat),
      usbsMap[serial]? = some entry ∧ sheet = usbSheet number entry := by
  obtain ⟨i, inside, rfl⟩ := List.mem_mapIdx.mp member
  exact ⟨_, _, i + 1, ExtTreeMap.mem_toList_iff_getElem?_eq_some.mp (List.getElem_mem inside), rfl⟩

/-! ## Sessions -/

section Sessions
variable {log : List LogLine} {sessions : CppString → List Session}

/-- The sheets are those of the sessions, closed ones before open ones. -/
structure ShowsSessions (log : List LogLine) (sessions : CppString → List Session)
    (usbs : List UsbSheet) : Prop where
  serials : ∀ serial, serial ∈ usbs.map UsbSheet.serial ↔
    ∃ port, ∃ session ∈ sessions port, session.serialNumber = serial
  once : (usbs.map UsbSheet.serial).Nodup
  times : ∃ closed opened, InDisconnectOrder log sessions closed ∧ InPortOrder sessions opened ∧
    ∀ sheet ∈ usbs,
      sheet.connectionTimes =
          (closed.filter (Session.announces sheet.serial) ++
            opened.filter (Session.announces sheet.serial)).map
            (fun session => logTime session.new) ∧
        sheet.disconnectionTimes =
          (closed.filter (Session.announces sheet.serial)).filterMap
            fun session => session.disconnect.map logTime

theorem usbSheets_show_sessions (wellFormed : SessionLog log sessions)
    (storage : ∀ port, ∀ session ∈ sessions port, session.isStorage = true) :
    ShowsSessions log sessions (usbSheets (finalUsbMap log)) := by
  obtain ⟨closed, opened, order, ports, final⟩ := final_of_sessions wellFormed storage
  have entries : ∀ (serial : CppString) (entry : UsbInfo), (finalUsbMap log)[serial]? = some entry →
      entry.serialNumber = serial ∧
        entry.connectionTimes = (closed.filter (Session.announces serial) ++
          opened.filter (Session.announces serial)).map (fun session => logTime session.new) ∧
        entry.disconnectionTimes = (closed.filter (Session.announces serial)).filterMap
          fun session => session.disconnect.map logTime := by
    intro serial entry here
    rw [final serial] at here
    exact entry_times (announcers_ended order serial)
      (announcers_storage wellFormed storage order ports serial)
      (announcers_own closed opened serial) here
  have serials := usbSheets_serials fun serial entry here => (entries serial entry here).1
  refine ⟨?_, ?_, closed, opened, order, ports, ?_⟩
  · intro serial
    rw [serials, ExtTreeMap.mem_keys]
    exact session_serials wellFormed storage order ports final serial
  · rw [serials]
    exact ExtTreeMap.nodup_keys
  · intro sheet member
    obtain ⟨serial, entry, number, here, rfl⟩ := mem_usbSheets member
    obtain ⟨own, connections, disconnections⟩ := entries serial entry here
    rw [serial_usbSheet, own]
    exact ⟨connections, disconnections⟩

end Sessions

/-- The terminal of a run on a syslog of storage sessions, with any other lines
between them, reads as one sheet for each serial number with the times of the
sessions that announced it. -/
theorem sessions_on_terminal {system : System} (root : system.geteuid = 0)
    {sessions : CppString → List Session} (wellFormed : SessionLog system.first.log sessions)
    (storage : ∀ port, ∀ session ∈ sessions port, session.isStorage = true)
    {process after : Process} (initial : process.shown = {}) (fresh : process.stdout = [])
    (plain : system.first.OneLineDisks) {code : Int}
    (run : main system process = some (after, code)) :
    ∃ usbs disks, readTerminal after.stdout = some (usbs, disks) ∧
      ShowsSessions system.first.log sessions usbs ∧
      diskSheets system.libm system.first.disksMap = some disks := by
  obtain ⟨disks, _, shown, _, terminal, _, _, _⟩ := run_outcome root initial run
  refine ⟨usbSheets system.first.usbsMap, disks, ?_, usbSheets_show_sessions wellFormed storage, shown⟩
  rw [terminal, fresh, List.nil_append]
  exact readTerminal_answers plain shown

/-- Two sticks and no disk. -/
def twoSticksSystem : System :=
  { busySystem with
    first :=
      { busySystem.first with syslog := some (Lines.unlines '\n' (twoSticks.map LogLine.text)) } }

theorem twoSticksSystem_log : twoSticksSystem.first.log = twoSticks := by
  apply Answers.log_unlines rfl
  · exact fun _ => rfl
  · decide +kernel

theorem twoSticks_on_terminal :
    ∃ after code, main twoSticksSystem {} = some (after, code) ∧
      ∃ usbs disks, readTerminal after.stdout = some (usbs, disks) ∧
        ShowsSessions twoSticksSystem.first.log twoSticksSessions usbs ∧
        diskSheets twoSticksSystem.libm twoSticksSystem.first.disksMap = some disks := by
  obtain ⟨after, run⟩ := @run_exists twoSticksSystem rfl {} rfl [] [] rfl rfl
  refine ⟨after, 0, run, ?_⟩
  have wellFormed : SessionLog twoSticksSystem.first.log twoSticksSessions := by
    rw [twoSticksSystem_log]
    exact twoSticks_sessionLog
  exact @sessions_on_terminal twoSticksSystem rfl twoSticksSessions wellFormed twoSticks_storage {}
    _ rfl rfl busySystem_oneLineDisks 0 run

end StoringDevices
