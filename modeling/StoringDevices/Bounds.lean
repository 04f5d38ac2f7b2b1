import StoringDevices.Growth
import StoringDevices.Program

/-! # What is kept is bounded

A port record is kept under a key of one digit, a dash and one digit, however long
the log is.  An entry of the report stands for a session that was closed, or for a
port that is open at the end.  A listing of `/dev/` names a bounded number of
disks, however long it is. -/
set_option autoImplicit false

namespace StoringDevices

open Std (ExtTreeMap ExtTreeSet)

/-! ## Port records -/

def digits : List Char := "0123456789".toList

/-- All keys a port record may have. -/
def ports : List CppString :=
  digits.flatMap fun bus => digits.map fun number => [bus, '-', number]

theorem length_ports : ports.length = 100 := by decide +kernel

theorem mem_digits {c : Char} (digit : isDigit c = true) : c ∈ digits := by
  have all : ∀ n < 58, 48 ≤ n → Char.ofNat n ∈ digits := by decide
  unfold isDigit at digit
  rw [Bool.and_eq_true, decide_eq_true_eq, decide_eq_true_eq] at digit
  obtain ⟨low, high⟩ := digit
  have lower : 48 ≤ c.toNat := low
  have upper : c.toNat ≤ 57 := high
  rw [← Char.ofNat_toNat c]
  exact all c.toNat (Nat.lt_succ_of_le upper) lower

theorem IsPort.mem_ports {port : CppString} (isPort : IsPort port) : port ∈ ports := by
  obtain ⟨bus, number, isBus, isNumber, rfl⟩ := isPort
  apply List.mem_flatMap.mpr
  exact ⟨bus, mem_digits isBus, List.mem_map.mpr ⟨number, mem_digits isNumber, rfl⟩⟩

/-- Every key is a port. -/
def KeyedByPorts (interfaces : InterfacesMap) : Prop := ∀ port ∈ interfaces, IsPort port

section OneLine
variable {line : LogLine} {interfaces : InterfacesMap} (keyed : KeyedByPorts interfaces)
include keyed

theorem KeyedByPorts.informed (told : CppString) : KeyedByPorts (informed line told interfaces) := by
  intro port present
  rw [ExtTreeMap.mem_iff_isSome_getElem?, informed_getElem?] at present
  apply keyed port
  rw [ExtTreeMap.mem_iff_isSome_getElem?]
  split at present
  · rwa [Option.isSome_map] at present
  · exact present

/-- Only a connection line adds a key, and it names a port. -/
theorem KeyedByPorts.step : KeyedByPorts (stepInterfaces line interfaces) := by
  have spec := effect_spec line interfaces
  intro port present
  rw [ExtTreeMap.mem_iff_isSome_getElem?] at present
  unfold stepInterfaces at present
  cases here : effect line interfaces with
  | ignore =>
      rw [here] at present
      exact keyed port (ExtTreeMap.mem_iff_isSome_getElem?.mpr present)
  | flag told =>
      rw [here, apply_flag_getElem?] at present
      apply keyed port
      rw [ExtTreeMap.mem_iff_isSome_getElem?]
      split at present
      · rwa [Option.isSome_map] at present
      · exact present
  | inform told =>
      rw [here] at present
      exact keyed.informed told port (ExtTreeMap.mem_iff_isSome_getElem?.mpr present)
  | connect told opened =>
      rw [here] at spec present
      rw [apply_connect_getElem?] at present
      cases spec with
      | connect _ _ new _ =>
          split at present
          · next same =>
              rw [← same]
              exact (newPort_some new).1
          · exact keyed.informed told port (ExtTreeMap.mem_iff_isSome_getElem?.mpr present)
  | disconnect told record =>
      rw [here] at spec present
      rw [apply_disconnect_getElem?] at present
      cases spec with
      | disconnect _ _ _ _ known _ =>
          split at present
          · next same =>
              rw [← same]
              apply keyed.informed told told
              rw [ExtTreeMap.mem_iff_isSome_getElem?, known]
              rfl
          · exact keyed port (ExtTreeMap.mem_iff_isSome_getElem?.mpr present)

end OneLine

theorem runInterfaces_keyedByPorts (log : List LogLine) :
    ∀ interfaces : InterfacesMap, KeyedByPorts interfaces →
      KeyedByPorts (runInterfaces log interfaces) := by
  induction log with
  | nil =>
      intro interfaces keyed
      exact keyed
  | cons line log ih =>
      intro interfaces keyed
      exact ih (stepInterfaces line interfaces) keyed.step

theorem loopInterfaces_keyedByPorts (log : List LogLine) : KeyedByPorts (loopInterfaces log) := by
  apply runInterfaces_keyedByPorts
  intro port present
  exact absurd present ExtTreeMap.not_mem_empty

theorem loopInterfaces_size (log : List LogLine) : (loopInterfaces log).size ≤ 100 := by
  rw [← length_ports]
  exact Keyed.size_le_of_mem fun port present =>
    (loopInterfaces_keyedByPorts log port present).mem_ports

/-! ## Entries -/

theorem length_runClosings (log : List LogLine) :
    ∀ interfaces : InterfacesMap, (runClosings log interfaces).length ≤ log.countP disconnects := by
  induction log with
  | nil =>
      intro interfaces
      exact Nat.le_refl 0
  | cons line log ih =>
      intro interfaces
      rw [runClosings, List.length_append, List.countP_cons]
      have rest := ih (stepInterfaces line interfaces)
      cases found : closingOf line interfaces with
      | none =>
          rw [Option.toList_none, List.length_nil]
          omega
      | some closing =>
          have spec := effect_spec line interfaces
          rw [(closingOf_disconnect found).1] at spec
          cases spec with
          | disconnect _ _ _ announced _ _ =>
              rw [if_pos announced, Option.toList_some, List.length_singleton]
              omega

theorem mem_loopUsbMap {log : List LogLine} {serial : CppString} (present : serial ∈ loopUsbMap log) :
    serial ∈ (loopClosings log).map fun closing => closing.record.serialNumber := by
  obtain ⟨entry, here⟩ := Option.isSome_iff_exists.mp (ExtTreeMap.mem_iff_isSome_getElem?.mp present)
  rw [loopUsbMap_getElem?] at here
  obtain ⟨_, _, _, closing, member, _⟩ := closedEntry_some here
  obtain ⟨known, own⟩ := mem_closingsOf.mp member
  exact List.mem_map.mpr ⟨closing, known, own⟩

/-- The flush adds an entry for a port record at most. -/
theorem finalUsbMap_size (log : List LogLine) :
    (finalUsbMap log).size ≤ (loopUsbMap log).size + (loopInterfaces log).size := by
  have entries : (finalUsbMap log).size ≤ ((loopUsbMap log).keys ++
      (openRecords (loopInterfaces log)).map fun slot => slot.2.serialNumber).length := by
    apply Keyed.size_le_of_mem
    intro serial present
    unfold finalUsbMap at present
    rw [mem_flusher_run] at present
    rw [List.mem_append]
    rcases present with closed | ⟨slot, member, _, own⟩
    · exact .inl (ExtTreeMap.mem_keys.mpr closed)
    · exact .inr (List.mem_map.mpr ⟨slot, member, own⟩)
  have opened : (openRecords (loopInterfaces log)).length ≤ (loopInterfaces log).size := by
    rw [← ExtTreeMap.length_toList]
    exact List.length_filter_le _ _
  rw [List.length_append, List.length_map, ExtTreeMap.length_keys] at entries
  omega

/-- The records are kept under keys of a digit, a dash and a digit.  The state of the
reader does not grow with the log but for the entries of closed sessions, and the
flush adds at most one entry for each record. -/
theorem reader_bounded (log : List LogLine) :
    ∃ state final, readLines log {} = some state ∧ getUSBsInfo log = some final ∧
      KeyedByPorts state.usbInterfacesMap ∧
      state.usbInterfacesMap.size ≤ 100 ∧
      state.usbMap.size ≤ log.countP disconnects ∧
      final.size ≤ state.usbMap.size + state.usbInterfacesMap.size := by
  have closings : (loopClosings log).length ≤ log.countP disconnects := length_runClosings log ∅
  have entries : (loopUsbMap log).size ≤
      ((loopClosings log).map fun closing => closing.record.serialNumber).length :=
    Keyed.size_le_of_mem fun serial present => mem_loopUsbMap present
  rw [List.length_map] at entries
  exact ⟨_, _, readLines_log log, getUSBsInfo_eq log, loopInterfaces_keyedByPorts log,
    loopInterfaces_size log, entries.trans closings, finalUsbMap_size log⟩

/-! ## Disks -/

def letters : List Char := "abcdefghijklmnopqrstuvwxyz".toList

theorem mem_letters {c : Char} (lower : isLower c = true) : c ∈ letters := by
  have all : ∀ n < 123, 97 ≤ n → Char.ofNat n ∈ letters := by decide
  unfold isLower at lower
  rw [Bool.and_eq_true, decide_eq_true_eq, decide_eq_true_eq] at lower
  obtain ⟨low, high⟩ := lower
  have least : 97 ≤ c.toNat := low
  have most : c.toNat ≤ 122 := high
  rw [← Char.ofNat_toNat c]
  exact all c.toNat (Nat.lt_succ_of_le most) least

/-- All paths that the search in `/dev/` may give. -/
def diskPaths : List CppString :=
  (letters.map fun c => "/dev/sd".toList ++ [c]) ++
    digits.flatMap fun first => letters.flatMap fun letter => digits.map fun second =>
      "/dev/nvme".toList ++ [first, letter, second]

theorem length_diskPaths : diskPaths.length = 2626 := by decide +kernel

theorem Fragment.mem_diskPaths {piece : CppString} (fragment : Fragment piece) :
    "/dev/".toList ++ piece ∈ diskPaths := by
  unfold diskPaths
  rw [List.mem_append]
  cases fragment with
  | @sd c lower => exact .inl (List.mem_map.mpr ⟨c, mem_letters lower, rfl⟩)
  | @nvme first letter second digit lower digit' =>
      apply Or.inr
      apply List.mem_flatMap.mpr ⟨first, mem_digits digit, ?_⟩
      apply List.mem_flatMap.mpr ⟨letter, mem_letters lower, ?_⟩
      exact List.mem_map.mpr ⟨second, mem_digits digit', rfl⟩

theorem measured_le (answers : Answers) : answers.measured ≤ 2626 := by
  have inside : answers.disksSet.toList ⊆ diskPaths := by
    intro path member
    rw [ExtTreeSet.mem_toList] at member
    unfold Answers.disksSet at member
    cases listing : answers.dev.toOption with
    | none =>
        rw [listing] at member
        exact absurd member ExtTreeSet.not_mem_empty
    | some entries =>
        rw [listing, mem_getDisksSet] at member
        obtain ⟨_, _, piece, first, rfl⟩ := member
        exact first.1.mem_diskPaths
  have distinct : answers.disksSet.toList.Nodup :=
    ExtTreeSet.distinct_toList.imp Std.ReflCmp.ne_of_cmp_ne_eq
  calc
    answers.measured ≤ answers.disksSet.toList.length := List.countP_le_length
    _ ≤ diskPaths.length := (List.subperm_of_subset distinct inside).length_le
    _ = 2626 := length_diskPaths

/-- Whatever `/dev/` lists and the devices answer, a run keeps what was open and adds
a bounded number of descriptors. -/
theorem descriptors_bounded {system : System} (root : system.geteuid = 0)
    {process after : Process} (initial : process.shown = {}) {code : Int}
    (run : main system process = some (after, code)) :
    process.opened ⊆ after.opened ∧ after.opened.card ≤ process.opened.card + 5252 := by
  obtain ⟨_, _, _, _, _, _, kept, count⟩ := run_outcome root initial run
  have first := measured_le system.first
  have second := measured_le system.second
  exact ⟨kept, by omega⟩

theorem busySystem_descriptors :
    ∃ after code, main busySystem {} = some (after, code) ∧
      ({} : Process).opened ⊆ after.opened ∧
      after.opened.card ≤ ({} : Process).opened.card + 5252 := by
  obtain ⟨after, run⟩ := busySystem_runs
  exact ⟨after, 0, run, @descriptors_bounded busySystem rfl {} after rfl 0 run⟩

end StoringDevices
