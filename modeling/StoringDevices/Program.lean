import StoringDevices.Conservation
import StoringDevices.DiskNames
import StoringDevices.DiskProbe
import StoringDevices.History
import StoringDevices.Lib.Lines
import StoringDevices.Rotation
import StoringDevices.Terminal
import StoringDevices.UnsetIds

/-! # The whole program

`main` gathers everything twice: once for the terminal and once for the HTML
page.  Between the two the log may have grown and the disks may answer
differently, and the first probe leaves its descriptors behind.  The maps are
values here; their iterators are those of the reader's own model. -/
set_option autoImplicit false

namespace StoringDevices

open Lines (getline lines unlines Whole)

/-! ## The system and the process -/

/-- What the program meets when it gathers its devices once. -/
structure Answers where
  /-- The contents of `/var/log/syslog`; `none` when it cannot be opened. -/
  syslog : Option CppString
  /-- What `result` of `stringToInt` holds in its two calls on a line. -/
  unset : Nat → Int × Int
  /-- What `readdir` gives, or the reason why `/dev/` cannot be opened. -/
  dev : Except CppString (List DirName)
  devices : CppString → DiskAnswers

structure System where
  geteuid : UInt32
  first : Answers
  second : Answers
  /-- The order in which the arguments of `printHTML` are evaluated. -/
  usbsFirst : Bool
  /-- Whether `report.html` can be opened for writing. -/
  reportOpens : Bool
  clock : Clock
  libm : Libm

structure Process where
  stdout : CppString := []
  stderr : CppString := []
  /-- What the run has written to `report.html`. -/
  report : Option CppString := none
  shown : ReportVariables := {}
  opened : Descriptors := {0, 1, 2}

/-! ## Gathering -/

/-- The lines that `getline` gives. -/
def Answers.log (answers : Answers) : List LogLine :=
  match answers.syslog with
  | none => []
  | some contents =>
      (lines '\n' contents).mapIdx fun number text =>
        { text := text
          unsetVendor := (answers.unset number).1
          unsetProduct := (answers.unset number).2 }

/-- `getUSBsInfo` as the reader of its lines, with the descriptor of its file. -/
def gatherUSBs (reader : List LogLine → Option UsbMap) (answers : Answers) (opened : Descriptors) :
    Option (UsbMap × Descriptors) :=
  match answers.syslog with
  | none => (reader answers.log).map fun usbsMap => (usbsMap, opened)
  | some _ =>
      let (file, opened) := openFile opened
      (reader answers.log).map fun usbsMap => (usbsMap, closeFile file opened)

/-- What `getDisksInfo` writes to the standard error: the `perror` of `getDisksSet`,
and a line of `getInfoFromDisk` for each disk that does not open. -/
def probeErrors (answers : Answers) : CppString :=
  match answers.dev with
  | .error reason =>
      "Could not open /dev/ directory. Try with supersu rights.: ".toList ++ reason ++ endl
  | .ok _ =>
      (getDisksSet answers.dev.toOption ∅).1.toList.flatMap fun name =>
        if (answers.devices (cStr name)).opens then []
        else "Failed to open disk device file".toList ++ endl

/-- The two arguments of `printHTML`. -/
def gatherBoth (reader : List LogLine → Option UsbMap) (usbsFirst : Bool) (answers : Answers)
    (opened : Descriptors) : Option (UsbMap × DisksMap × Descriptors) :=
  if usbsFirst then do
    let (usbsMap, opened) ← gatherUSBs reader answers opened
    let (disksMap, opened) := getDisksInfo answers.devices answers.dev.toOption opened
    some (usbsMap, disksMap, opened)
  else do
    let (disksMap, opened) := getDisksInfo answers.devices answers.dev.toOption opened
    let (usbsMap, opened) ← gatherUSBs reader answers opened
    some (usbsMap, disksMap, opened)

/-- `main` over a reader of the lines: the process at its end, and the exit code. -/
def mainOver (reader : List LogLine → Option UsbMap) (system : System) (process : Process) :
    Option (Process × Int) :=
  if 0 < system.geteuid then
    some ({ process with stderr := process.stderr ++ "ERROR: Must be root to use\n".toList }, 1)
  else do
    let (usbsMap, opened) ← gatherUSBs reader system.first process.opened
    let stdout := process.stdout ++ printUSBsMapInTerminal usbsMap
    let (disksMap, opened) := getDisksInfo system.first.devices system.first.dev.toOption opened
    let disksText ← printDisksMapInTerminal system.libm disksMap
    let stdout := stdout ++ disksText
    let (usbsMap, disksMap, opened) ← gatherBoth reader system.usbsFirst system.second opened
    let (page, shown) ← printHTML system.libm system.clock usbsMap disksMap process.shown
    some
      ({ process with
          stdout := stdout
          stderr := process.stderr ++ probeErrors system.first ++ probeErrors system.second
          report := if system.reportOpens then some page else process.report
          shown := shown
          opened := opened }, 0)

/-- The program, its maps being values. -/
def main (system : System) (process : Process) : Option (Process × Int) :=
  mainOver getUSBsInfo system process

/-! ## What is gathered -/

namespace Answers
variable (answers : Answers)

def usbsMap : UsbMap := finalUsbMap answers.log

def disksSet : CppSet := (getDisksSet answers.dev.toOption ∅).1

def disksMap : DisksMap := (getDisksInfo answers.devices answers.dev.toOption ∅).1

/-- The disks on which a probe leaves a descriptor open. -/
def measured : Nat :=
  answers.disksSet.toList.countP fun name => (answers.devices (cStr name)).Measured

end Answers

theorem gatherUSBs_eq (answers : Answers) (opened : Descriptors) :
    gatherUSBs getUSBsInfo answers opened = some (answers.usbsMap, opened) := by
  unfold gatherUSBs
  rw [getUSBsInfo_eq]
  cases answers.syslog with
  | none => rfl
  | some contents =>
      simp only [Option.map_some]
      rw [closeFile_openFile]
      rfl

/-- `while (getline(file, line))`, for a number of turns, from the line `number`. -/
def readFile (unset : Nat → Int × Int) : Nat → Nat → CppString → State → Option State
  | 0, _, _, _ => none
  | turns + 1, number, contents, state =>
      match getline '\n' contents with
      | none => some state
      | some (text, rest) => do
          let state ← processLine
            { text := text, unsetVendor := (unset number).1, unsetProduct := (unset number).2 } state
          readFile unset turns (number + 1) rest state

/-- The loop reads the lines of the text and ends within a turn for each character
and one more. -/
theorem readFile_eq (unset : Nat → Int × Int) :
    ∀ (turns number : Nat) (contents : CppString) (state : State), contents.length < turns →
      readFile unset turns number contents state =
        readLines ((lines '\n' contents).mapIdx fun i text =>
          { text := text
            unsetVendor := (unset (number + i)).1
            unsetProduct := (unset (number + i)).2 }) state := by
  intro turns
  induction turns with
  | zero =>
      intro number contents state enough
      exact absurd enough (Nat.not_lt_zero _)
  | succ turns ih =>
      intro number contents state enough
      rw [readFile, Lines.lines_eq_getline]
      cases read : getline '\n' contents with
      | none => rfl
      | some split =>
          obtain ⟨text, rest⟩ := split
          have shorter := Lines.getline_length read
          have later := fun state' => ih (number + 1) rest state' (by omega)
          simp only [later, List.mapIdx_cons, Nat.add_zero, Nat.add_assoc, Nat.add_comm 1]
          rfl

theorem Answers.readFile_log {answers : Answers} {contents : CppString}
    (syslog : answers.syslog = some contents) :
    readFile answers.unset (contents.length + 1) 0 contents {} = readLines answers.log {} := by
  rw [readFile_eq _ _ _ _ _ (Nat.lt_succ_self _)]
  unfold Answers.log
  simp only [syslog, Nat.zero_add]

theorem getDisksSet_set (dev : Option (List DirName)) (opened opened' : Descriptors) :
    (getDisksSet dev opened).1 = (getDisksSet dev opened').1 := by
  cases dev <;> rfl

/-- The descriptors that are open are no part of what is found. -/
theorem getDisksInfo_disksMap (answers : Answers) (opened : Descriptors) :
    (getDisksInfo answers.devices answers.dev.toOption opened).1 = answers.disksMap := by
  unfold Answers.disksMap
  rw [getDisksInfo_eq, getDisksInfo_eq, getDisksSet_set answers.dev.toOption opened ∅]
  apply Std.ExtTreeMap.ext_getElem?
  intro name
  rw [getInfoFromDisks_getElem?, getInfoFromDisks_getElem?,
    getInfoFromDisk_info answers.devices name opened ∅]

theorem getDisksInfo_descriptors (answers : Answers) (opened : Descriptors) :
    opened ⊆ (getDisksInfo answers.devices answers.dev.toOption opened).2 ∧
      (getDisksInfo answers.devices answers.dev.toOption opened).2.card = opened.card + answers.measured := by
  rw [getDisksInfo_eq, getInfoFromDisks_eq]
  have grown := probeNames_descriptors answers.devices
    (getDisksSet answers.dev.toOption opened).1.toList (∅, opened)
  rw [getDisksSet_set answers.dev.toOption opened ∅] at grown ⊢
  exact grown

/-- The compiler may evaluate the arguments in any order. -/
theorem gatherBoth_eq (usbsFirst : Bool) (answers : Answers) (opened : Descriptors) :
    gatherBoth getUSBsInfo usbsFirst answers opened =
      some (answers.usbsMap, answers.disksMap,
        (getDisksInfo answers.devices answers.dev.toOption opened).2) := by
  rw [← getDisksInfo_disksMap answers opened]
  unfold gatherBoth
  cases usbsFirst with
  | true =>
      rw [if_pos rfl, gatherUSBs_eq]
      rfl
  | false =>
      rw [if_neg Bool.false_ne_true]
      simp only [gatherUSBs_eq]
      rfl

theorem not_lt_of_root {euid : UInt32} (root : euid = 0) : ¬ 0 < euid := by
  rw [root]
  exact UInt32.lt_irrefl 0

/-- A run of root, by the sheets of what is gathered first and second. -/
theorem main_root {system : System} (root : system.geteuid = 0) {process : Process}
    (initial : process.shown = {}) :
    ∃ opened, process.opened ⊆ opened ∧
      opened.card = process.opened.card + system.first.measured + system.second.measured ∧
      main system process =
        (diskSheets system.libm system.first.disksMap).bind fun disks =>
          (diskSheets system.libm system.second.disksMap).map fun disks' =>
            ({ process with
                stdout := process.stdout ++
                  (usbSheets system.first.usbsMap).flatMap UsbSheet.terminal ++
                  disks.flatMap DiskSheet.terminal
                stderr := process.stderr ++ probeErrors system.first ++ probeErrors system.second
                report :=
                  if system.reportOpens then
                    some (sheetsPage system.clock (usbSheets system.second.usbsMap) disks')
                  else process.report
                opened := opened }, 0) := by
  obtain ⟨firstKept, firstCount⟩ := getDisksInfo_descriptors system.first process.opened
  have firstDisks := getDisksInfo_disksMap system.first process.opened
  revert firstKept firstCount firstDisks
  generalize probe : getDisksInfo system.first.devices system.first.dev.toOption process.opened = found
  intro firstKept firstCount firstDisks
  obtain ⟨disksMap, opened⟩ := found
  obtain ⟨secondKept, secondCount⟩ := getDisksInfo_descriptors system.second opened
  refine ⟨_, firstKept.trans secondKept, ?_, ?_⟩
  · rw [secondCount]
    simp only at firstCount
    omega
  · unfold main mainOver
    simp only [if_neg (not_lt_of_root root), gatherUSBs_eq, Option.bind_eq_bind, Option.bind_some, probe,
      gatherBoth_eq, initial, printHTML_sheets, printUSBsMapInTerminal_eq,
      printDisksMapInTerminal_eq]
    simp only at firstDisks
    rw [firstDisks]
    cases diskSheets system.libm system.first.disksMap with
    | none => rfl
    | some disks =>
        cases diskSheets system.libm system.second.disksMap with
        | none => rfl
        | some disks' => rfl

theorem run_exists {system : System} (root : system.geteuid = 0) {process : Process}
    (initial : process.shown = {}) {disks disks' : List DiskSheet}
    (shown : diskSheets system.libm system.first.disksMap = some disks)
    (shown' : diskSheets system.libm system.second.disksMap = some disks') :
    ∃ after, main system process = some (after, 0) := by
  obtain ⟨opened, _, _, result⟩ := main_root root initial
  rw [shown, shown', Option.bind_some, Option.map_some] at result
  exact ⟨_, result⟩

/-- What a run of root has done when it ends. -/
theorem run_outcome {system : System} (root : system.geteuid = 0) {process after : Process}
    (initial : process.shown = {}) {code : Int} (run : main system process = some (after, code)) :
    ∃ disks disks', diskSheets system.libm system.first.disksMap = some disks ∧
      diskSheets system.libm system.second.disksMap = some disks' ∧
      after.stdout = process.stdout ++
        (usbSheets system.first.usbsMap).flatMap UsbSheet.terminal ++
        disks.flatMap DiskSheet.terminal ∧
      after.report =
        (if system.reportOpens then
          some (sheetsPage system.clock (usbSheets system.second.usbsMap) disks')
        else process.report) ∧
      process.opened ⊆ after.opened ∧
      after.opened.card = process.opened.card + system.first.measured + system.second.measured := by
  obtain ⟨opened, kept, count, result⟩ := main_root root initial
  rw [run] at result
  obtain ⟨disks, shown, rest⟩ := Option.bind_eq_some_iff.mp result.symm
  obtain ⟨disks', shown', same⟩ := Option.map_eq_some_iff.mp rest
  obtain ⟨rfl, _⟩ := Prod.mk.inj same
  exact ⟨disks, disks', shown, shown', rfl, rfl, kept, count⟩

/-! ## What the unset variables held -/

/-- A line that gives ids gives two numbers. -/
def GivesNumbers (line : LogLine) : Prop :=
  describesIds line = true →
    NumberFollows "idVendor=".toList line ∧ NumberFollows "idProduct=".toList line

theorem announce_bare {line : LogLine} (numbers : GivesNumbers line) :
    announce (bare line) = announce line := by
  funext element
  have same : describesIds (bare line) = describesIds line := rfl
  unfold announce
  rw [same]
  by_cases found : describesIds line = true
  · obtain ⟨vendor, product⟩ := numbers found
    obtain ⟨idVendor, vendorCut⟩ :=
      (idAfterEquals_assigned_iff line "idVendor".toList (by decide)).mpr vendor
    obtain ⟨idProduct, productCut⟩ :=
      (idAfterEquals_assigned_iff line "idProduct".toList (by decide)).mpr product
    have parsedVendor : parsedIdVendor line = some idVendor :=
      Option.some.inj ((parsedIdVendor_eq line).symm.trans vendorCut)
    have parsedProduct : parsedIdProduct line = some idProduct :=
      Option.some.inj ((parsedIdProduct_eq line).symm.trans productCut)
    have bareVendor : parsedIdVendor (bare line) = some idVendor := parsedVendor
    have bareProduct : parsedIdProduct (bare line) = some idProduct := parsedProduct
    rw [if_pos found, if_pos found, parsedVendor, parsedProduct, bareVendor, bareProduct]
    rfl
  · rw [if_neg found, if_neg found]
    rfl

theorem processLine_bare {line : LogLine} (numbers : GivesNumbers line) :
    processLine (bare line) = processLine line := by
  have information : checkIfInformationAboutDeviceFound (bare line) =
      checkIfInformationAboutDeviceFound line := by
    funext interfaces
    have port : usbPort (bare line) = usbPort line := rfl
    rw [checkIfInformationAboutDeviceFound_eq, checkIfInformationAboutDeviceFound_eq, port]
    unfold informed
    rw [announce_bare numbers]
  funext state
  unfold processLine
  rw [information]
  rfl

theorem getUSBsInfo_bare {log : List LogLine} (numbers : ∀ line ∈ log, GivesNumbers line) :
    getUSBsInfo (log.map bare) = getUSBsInfo log := by
  have loop : ∀ (lines : List LogLine) (state : State), (∀ line ∈ lines, GivesNumbers line) →
      readLines (lines.map bare) state = readLines lines state := by
    intro lines
    induction lines with
    | nil =>
        intro state _
        rfl
    | cons line lines ih =>
        intro state given
        unfold readLines at ih ⊢
        rw [List.map_cons, List.foldlM_cons, List.foldlM_cons,
          processLine_bare (given line List.mem_cons_self)]
        congr 1
        funext next
        exact ih next fun other member => given other (List.mem_cons_of_mem _ member)
  unfold getUSBsInfo
  rw [loop log {} numbers]

theorem finalUsbMap_bare {log : List LogLine} (numbers : ∀ line ∈ log, GivesNumbers line) :
    finalUsbMap (log.map bare) = finalUsbMap log := by
  have same := getUSBsInfo_bare numbers
  rw [getUSBsInfo_eq, getUSBsInfo_eq] at same
  exact Option.some.inj same

/-- The texts of the log are the lines of the file. -/
theorem log_bare (answers : Answers) :
    answers.log.map bare =
      (lines '\n' (answers.syslog.getD [])).map fun text => { text := text } := by
  unfold Answers.log
  cases answers.syslog with
  | none => rfl
  | some contents =>
      apply List.ext_getElem
      · rw [List.length_map, List.length_mapIdx, List.length_map]
        rfl
      · intro i first second
        rw [List.getElem_map, List.getElem_mapIdx, List.getElem_map]
        rfl

theorem givesNumbers_of_bare {log log' : List LogLine} (same : log'.map bare = log.map bare)
    (numbers : ∀ line ∈ log, GivesNumbers line) : ∀ line ∈ log', GivesNumbers line := by
  intro line member
  have inside : bare line ∈ log.map bare := by
    rw [← same]
    exact List.mem_map_of_mem member
  obtain ⟨other, known, equal⟩ := List.mem_map.mp inside
  have text : line.text = other.text := (congrArg LogLine.text equal).symm
  have given := numbers other known
  unfold GivesNumbers describesIds NumberFollows at given ⊢
  rw [text]
  exact given

/-- Two readings of one file differ only by ids that are not given as numbers. -/
theorem usbsMap_of_same_syslog {answers answers' : Answers}
    (same : answers'.syslog = answers.syslog)
    (numbers : ∀ line ∈ answers.log, GivesNumbers line) : answers'.usbsMap = answers.usbsMap := by
  have texts : answers'.log.map bare = answers.log.map bare := by
    rw [log_bare, log_bare, same]
  unfold Answers.usbsMap
  rw [← finalUsbMap_bare numbers, ← finalUsbMap_bare (givesNumbers_of_bare texts numbers), texts]

/-! ## Nothing changes between the readings -/

/-- Terminal and page show the same sheets when the second reading is answered as
the first, whatever descriptors the first one leaves open; the run ends with two
more descriptors for each measured disk. -/
theorem both_reports_same_sheets {system : System} (root : system.geteuid = 0)
    (writable : system.reportOpens = true) (syslog : system.second.syslog = system.first.syslog)
    (numbers : ∀ line ∈ system.first.log, GivesNumbers line)
    (dev : system.second.dev = system.first.dev)
    (devices : system.second.devices = system.first.devices) (process : Process)
    (initial : process.shown = {}) :
    ∃ opened, process.opened ⊆ opened ∧
      opened.card = process.opened.card + 2 * system.first.measured ∧
      main system process =
        (diskSheets system.libm system.first.disksMap).map fun disks =>
          ({ process with
              stdout := process.stdout ++
                (usbSheets system.first.usbsMap).flatMap UsbSheet.terminal ++
                disks.flatMap DiskSheet.terminal
              stderr := process.stderr ++ probeErrors system.first ++ probeErrors system.first
              report :=
                some (sheetsPage system.clock (usbSheets system.first.usbsMap) disks)
              opened := opened }, 0) := by
  obtain ⟨opened, kept, count, run⟩ := main_root root initial
  have usbs := usbsMap_of_same_syslog syslog numbers
  have disks : system.second.disksMap = system.first.disksMap := by
    unfold Answers.disksMap
    rw [dev, devices]
  have errors : probeErrors system.second = probeErrors system.first := by
    unfold probeErrors
    rw [dev, devices]
  have measured : system.second.measured = system.first.measured := by
    unfold Answers.measured Answers.disksSet
    rw [dev, devices]
  refine ⟨opened, kept, ?_, ?_⟩
  · rw [count, measured]
    omega
  · rw [run, disks, usbs, errors]
    cases diskSheets system.libm system.first.disksMap with
    | none => rfl
    | some disks => rw [Option.bind_some, Option.map_some, if_pos writable, Option.map_some]

/-- Lines without a newline, written out, are the lines of the log. -/
theorem Answers.log_unlines {answers : Answers} {ls : List LogLine}
    (syslog : answers.syslog = some (unlines '\n' (ls.map LogLine.text)))
    (unset : ∀ number, answers.unset number = (0, 0))
    (plain : ∀ line ∈ ls, '\n' ∉ line.text ∧ line = { text := line.text }) :
    answers.log = ls := by
  have clean : ∀ text ∈ ls.map LogLine.text, '\n' ∉ text := by
    intro text member
    obtain ⟨line, known, rfl⟩ := List.mem_map.mp member
    exact (plain line known).1
  unfold Answers.log
  simp only [syslog, Lines.lines_unlines clean, unset]
  apply List.ext_getElem
  · simp
  · intro i inside inside'
    rw [List.getElem_mapIdx, List.getElem_map]
    exact (plain ls[i] (List.getElem_mem inside')).2.symm

/-! ### A stick in the log and two disks -/

def stickSyslog : CppString := unlines '\n' (stickSession.map LogLine.text)

def stickAnswers : Answers where
  syslog := some stickSyslog
  unset _ := (0, 0)
  dev := .ok sdaAndSdb
  devices _ := healthyDisk

theorem stickAnswers_log : stickAnswers.log = stickSession := by
  apply Answers.log_unlines rfl
  · exact fun _ => rfl
  · decide +kernel

theorem stickAnswers_numbers : ∀ line ∈ stickAnswers.log, GivesNumbers line := by
  have noIds : ∀ line ∈ stickSession, describesIds line = false := by decide +kernel
  rw [stickAnswers_log]
  intro line member found
  rw [noIds line member] at found
  cases found

def stickSystem : System where
  geteuid := 0
  first := stickAnswers
  second := { stickAnswers with unset := fun _ => (7, 7) }
  usbsFirst := true
  reportOpens := true
  clock := summer
  libm := Libm.exact

theorem stickSystem_same_sheets :
    ∃ opened, ({} : Process).opened ⊆ opened ∧
      opened.card = ({} : Process).opened.card + 2 * stickAnswers.measured ∧
      main stickSystem {} =
        (diskSheets Libm.exact stickAnswers.disksMap).map fun disks =>
          ({ stdout := [] ++ (usbSheets stickAnswers.usbsMap).flatMap UsbSheet.terminal ++
                disks.flatMap DiskSheet.terminal
             stderr := [] ++ probeErrors stickAnswers ++ probeErrors stickAnswers
             report := some (sheetsPage summer (usbSheets stickAnswers.usbsMap) disks)
             opened := opened }, 0) :=
  @both_reports_same_sheets stickSystem rfl rfl rfl stickAnswers_numbers rfl rfl {} rfl

/-! ## The log grows between the readings -/

/-- The rows of an entry that have both times are the first rows of its entry in
the report of every longer log. -/
theorem completed_rows_kept (log more : List LogLine) {serial : CppString} {entry : UsbInfo}
    (present : (finalUsbMap log)[serial]? = some entry) (closed : entry.disconnectionTimes ≠ []) :
    ∃ later, (finalUsbMap (log ++ more))[serial]? = some later ∧
      entry.connectionTimes.take entry.disconnectionTimes.length <+: later.connectionTimes ∧
      entry.disconnectionTimes <+: later.disconnectionTimes := by
  obtain ⟨_, _, _, added, _, _, connections, disconnections⟩ := final_entry_flushed present
  cases before : (loopUsbMap log)[serial]? with
  | none =>
      simp only [before, Option.getD_none] at disconnections
      exact absurd disconnections closed
  | some earlier =>
      simp only [before, Option.getD_some] at connections disconnections
      have completed : entry.connectionTimes.take entry.disconnectionTimes.length =
          earlier.connectionTimes := by
        rw [disconnections, ← (loop_entry_aligned before).sameLength, connections,
          List.take_left]
      have loop : readLines more ⟨loopInterfaces log, loopUsbMap log⟩ =
          some ⟨loopInterfaces (log ++ more), loopUsbMap (log ++ more)⟩ := by
        have all := readLines_log (log ++ more)
        rw [readLines_append, readLines_log, Option.bind_some] at all
        exact all
      obtain ⟨interfaces, flush⟩ :=
        saveInterfacesInfoInUSBsMap_usbMap ⟨loopInterfaces (log ++ more), loopUsbMap (log ++ more)⟩
      obtain ⟨grown, inLoop, continues⟩ := readLines_grow loop serial earlier before
      obtain ⟨later, inReport, filled⟩ := flush_grows flush serial grown inLoop
      refine ⟨later, inReport, ?_, ?_⟩
      · rw [completed]
        exact continues.connections.trans filled.connections
      · rw [disconnections, filled.disconnections]
        exact continues.disconnections

/-- A file of whole lines to which something is appended. -/
theorem completed_rows_kept_of_syslog {answers answers' : Answers} {contents more : CppString}
    (syslog : answers.syslog = some contents) (whole : Whole '\n' contents)
    (syslog' : answers'.syslog = some (contents ++ more)) {serial : CppString} {entry : UsbInfo}
    (present : answers.usbsMap[serial]? = some entry) (closed : entry.disconnectionTimes ≠ []) :
    ∃ later, answers'.usbsMap[serial]? = some later ∧
      entry.connectionTimes.take entry.disconnectionTimes.length <+: later.connectionTimes ∧
      entry.disconnectionTimes <+: later.disconnectionTimes := by
  have texts : answers'.log.map bare = answers.log.map bare ++
      (lines '\n' more).map fun text => { text := text } := by
    rw [log_bare, log_bare, syslog, syslog', Option.getD_some, Option.getD_some, Lines.lines_append whole,
      List.map_append]
  obtain ⟨first, rest, split, sameFirst, _⟩ := List.map_eq_append_iff.mp texts
  -- the first lines are read as before, but for ids that are not given as numbers
  have same := finalUsbMap_withoutIds sameFirst serial
  have present' : (finalUsbMap answers.log)[serial]? = some entry := present
  rw [present', Option.map_some] at same
  obtain ⟨entry', here, equal⟩ := Option.map_eq_some_iff.mp same
  have connections : entry'.connectionTimes = entry.connectionTimes :=
    (congrArg UsbInfo.connectionTimes equal :)
  have disconnections : entry'.disconnectionTimes = entry.disconnectionTimes :=
    (congrArg UsbInfo.disconnectionTimes equal :)
  have kept := completed_rows_kept first rest here (by rw [disconnections]; exact closed)
  rw [connections, disconnections, ← split] at kept
  exact kept

/-- When whole lines are appended to the log between the readings, the page has,
for each USB of the terminal with a disconnection, the completed rows of the
terminal as its first ones. -/
theorem page_keeps_completed_rows {system : System} (root : system.geteuid = 0)
    (writable : system.reportOpens = true) {contents more : CppString}
    (syslog : system.first.syslog = some contents) (whole : Whole '\n' contents)
    (grown : system.second.syslog = some (contents ++ more)) {process after : Process}
    (initial : process.shown = {}) {code : Int} (run : main system process = some (after, code)) :
    ∃ disks disks', diskSheets system.libm system.first.disksMap = some disks ∧
      diskSheets system.libm system.second.disksMap = some disks' ∧
        after.stdout = process.stdout ++
          (usbSheets system.first.usbsMap).flatMap UsbSheet.terminal ++
          disks.flatMap DiskSheet.terminal ∧
        after.report = some (sheetsPage system.clock (usbSheets system.second.usbsMap) disks') ∧
        ∀ (serial : CppString) (entry : UsbInfo), system.first.usbsMap[serial]? = some entry →
          entry.disconnectionTimes ≠ [] →
          ∃ later, system.second.usbsMap[serial]? = some later ∧
            entry.connectionTimes.take entry.disconnectionTimes.length <+:
              later.connectionTimes ∧
            entry.disconnectionTimes <+: later.disconnectionTimes := by
  obtain ⟨disks, disks', shown, shown', terminal, page, _, _⟩ := run_outcome root initial run
  rw [if_pos writable] at page
  refine ⟨disks, disks', shown, shown', terminal, page, ?_⟩
  intro serial entry present closed
  exact completed_rows_kept_of_syslog syslog whole grown present closed

/-- Between the readings the stick comes and goes once more. -/
def busySystem : System :=
  { stickSystem with
    first := { stickAnswers with dev := .ok [] }
    second := { stickAnswers with syslog := some (stickSyslog ++ stickSyslog), dev := .ok [] } }

theorem busySystem_runs : ∃ after, main busySystem {} = some (after, 0) :=
  @run_exists busySystem rfl {} rfl [] [] rfl rfl

theorem busySystem_keeps_rows :
    ∃ after code, main busySystem {} = some (after, code) ∧
      ∃ disks disks', diskSheets busySystem.libm busySystem.first.disksMap = some disks ∧
        diskSheets busySystem.libm busySystem.second.disksMap = some disks' ∧
        after.stdout = [] ++ (usbSheets busySystem.first.usbsMap).flatMap UsbSheet.terminal ++
          disks.flatMap DiskSheet.terminal ∧
        after.report = some (sheetsPage summer (usbSheets busySystem.second.usbsMap) disks') ∧
        ∀ (serial : CppString) (entry : UsbInfo), busySystem.first.usbsMap[serial]? = some entry →
          entry.disconnectionTimes ≠ [] →
          ∃ later, busySystem.second.usbsMap[serial]? = some later ∧
            entry.connectionTimes.take entry.disconnectionTimes.length <+:
              later.connectionTimes ∧
            entry.disconnectionTimes <+: later.disconnectionTimes := by
  obtain ⟨after, run⟩ := busySystem_runs
  refine ⟨after, 0, run, ?_⟩
  have whole : Whole '\n' stickSyslog := Lines.whole_unlines _
  exact @page_keeps_completed_rows busySystem rfl rfl stickSyslog stickSyslog rfl whole rfl {} _ rfl
    0 run

end StoringDevices
