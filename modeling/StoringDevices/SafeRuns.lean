import StoringDevices.Bounds
import StoringDevices.ReaderIterators
import StoringDevices.TinyDisks

/-! # Runs with their iterators

`main` over a reader that walks its maps with iterators.  Two things can go wrong
in a run of root: the flush of a reading advances an iterator to an element that is
gone, and a disk of less than a thousand bytes is shown.  Where neither happens the
run is the one over maps that are values. -/
set_option autoImplicit false

namespace StoringDevices

namespace SafeRuns

/-! ## Runs over a reader -/

section Reader
variable {reader reader' : List LogLine → Option UsbMap}

theorem gatherUSBs_congr {answers : Answers} (same : reader answers.log = reader' answers.log)
    (opened : Descriptors) :
    gatherUSBs reader answers opened = gatherUSBs reader' answers opened := by
  unfold gatherUSBs
  rw [same]

theorem gatherUSBs_none {answers : Answers} (fails : reader answers.log = none)
    (opened : Descriptors) : gatherUSBs reader answers opened = none := by
  unfold gatherUSBs
  rw [fails]
  cases answers.syslog <;> rfl

/-- A run depends on its reader at the two logs. -/
theorem mainOver_congr {system : System} (first : reader system.first.log = reader' system.first.log)
    (second : reader system.second.log = reader' system.second.log) (process : Process) :
    mainOver reader system process = mainOver reader' system process := by
  have both : ∀ opened, gatherBoth reader system.usbsFirst system.second opened =
      gatherBoth reader' system.usbsFirst system.second opened := by
    intro opened
    unfold gatherBoth
    simp only [gatherUSBs_congr second]
  unfold mainOver
  simp only [gatherUSBs_congr first, both]

/-- Root needs both readings. -/
theorem mainOver_none {system : System} (root : system.geteuid = 0)
    (fails : reader system.first.log = none ∨ reader system.second.log = none) (process : Process) :
    mainOver reader system process = none := by
  unfold mainOver
  rw [if_neg (not_lt_of_root root)]
  rcases fails with fails | fails
  · rw [gatherUSBs_none fails]
    rfl
  · have both : ∀ opened, gatherBoth reader system.usbsFirst system.second opened = none := by
      intro opened
      unfold gatherBoth
      simp only [gatherUSBs_none fails]
      split <;> rfl
    simp only [both, Option.bind_eq_bind, Option.bind_none, Option.bind_fun_none]

end Reader

/-! ## The reader with its iterators -/

/-- The map that is returned, when the iterators stay valid and the flush is over
after a number of turns. -/
def readUSBs (turns : Nat) (log : List LogLine) : Option UsbMap :=
  match ReaderIterators.getUSBsInfo turns log with
  | some (.reachedEnd _ final) => some final.usbMap.toMap
  | _ => none

/-- The log closes as many sessions as it opens. -/
def ClosesAll (log : List LogLine) : Prop :=
  {i | AcceptedAt log i}.ncard = {i | ∃ closing, ClosedAt log i closing}.ncard

theorem closesAll_iff (log : List LogLine) : ClosesAll log ↔ openPorts (loopInterfaces log) = [] := by
  unfold ClosesAll
  rw [ReaderIterators.openPorts_count, ← List.length_eq_zero_iff]
  omega

theorem readUSBs_eq_some {turns : Nat} {log : List LogLine} {usbsMap : UsbMap}
    (read : readUSBs turns log = some usbsMap) :
    ClosesAll log ∧ getUSBsInfo log = some usbsMap := by
  rw [closesAll_iff]
  unfold readUSBs at read
  rcases ReaderIterators.reader_outcome log with ⟨closed, final, represents, outcome⟩ |
      ⟨port, empties, first, inside, outcome⟩
  · rw [outcome] at read
    refine ⟨closed, ?_⟩
    rw [getUSBsInfo_eq, ← represents.toMap_eq]
    split at read
    · next ends =>
        split at ends
        · cases ends
        · cases ends
          exact read
    · cases read
  · rw [outcome] at read
    split at read
    · next ends => split at ends <;> cases ends
    · cases read

theorem readUSBs_eq_none {turns : Nat} {log : List LogLine} (leaves : ¬ ClosesAll log) :
    readUSBs turns log = none := by
  rw [Option.eq_none_iff_forall_ne_some]
  intro usbsMap read
  exact leaves (readUSBs_eq_some read).1

/-- A turn for each port is enough. -/
theorem readUSBs_of_closesAll {turns : Nat} (enough : 100 ≤ turns) {log : List LogLine}
    (closes : ClosesAll log) : readUSBs turns log = getUSBsInfo log := by
  rw [closesAll_iff] at closes
  unfold readUSBs
  rcases ReaderIterators.reader_outcome log with ⟨_, final, represents, outcome⟩ |
      ⟨port, empties, first, _, _⟩
  · have ports : (loopInterfaces log).keys.length ≤ 100 := by
      rw [Std.ExtTreeMap.length_keys]
      exact loopInterfaces_size log
    rw [outcome, if_neg (by omega), getUSBsInfo_eq, ← represents.toMap_eq]
  · rw [closes] at first
    cases first

/-! ## Whole runs -/

/-- The sheets of the first reading are on the terminal and those of the second in
`report.html`. -/
def WritesReports (system : System) (process after : Process) : Prop :=
  ∃ disks disks', diskSheets system.libm system.first.disksMap = some disks ∧
    diskSheets system.libm system.second.disksMap = some disks' ∧
    after.stdout = process.stdout ++
      (usbSheets system.first.usbsMap).flatMap UsbSheet.terminal ++
      disks.flatMap DiskSheet.terminal ∧
    after.report = some (sheetsPage system.clock (usbSheets system.second.usbsMap) disks')

section WholeRun
variable {system : System} (root : system.geteuid = 0) (exact : system.libm.Exact)
  {process : Process} (initial : process.shown = {}) {turns : Nat} (enough : 100 ≤ turns)
include root initial

/-- Every run of root that ends writes the terminal, and the page when it opens. -/
theorem writesReports_iff (unwritten : process.report = none) {after : Process} {code : Int}
    (run : main system process = some (after, code)) :
    WritesReports system process after ↔ system.reportOpens = true := by
  obtain ⟨disks, disks', shown, shown', terminal, page, _, _⟩ := run_outcome root initial run
  constructor
  · intro writes
    obtain ⟨_, _, _, _, _, written⟩ := writes
    by_contra shut
    rw [if_neg shut, unwritten, written] at page
    cases page
  · intro opens
    rw [if_pos opens] at page
    exact ⟨disks, disks', shown, shown', terminal, page⟩

include exact enough

/-- A run of root with its iterators ends exactly when each reading closes every
session that it opens and shows no disk of 3 to 999 bytes; it is then the run over
values. -/
theorem mainOver_readUSBs :
    ((mainOver (readUSBs turns) system process).isSome = true ↔
      ClosesAll system.first.log ∧ ClosesAll system.second.log ∧
        system.first.Sized ∧ system.second.Sized) ∧
    ∀ ending, mainOver (readUSBs turns) system process = some ending →
      main system process = some ending := by
  by_cases closes : ClosesAll system.first.log ∧ ClosesAll system.second.log
  · have values : mainOver (readUSBs turns) system process = main system process :=
      mainOver_congr (readUSBs_of_closesAll enough closes.1)
        (readUSBs_of_closesAll enough closes.2) process
    rw [values, main_defined_iff root exact initial]
    exact ⟨⟨fun sized => ⟨closes.1, closes.2, sized⟩, fun safe => safe.2.2⟩, fun _ ends => ends⟩
  · have fails := (not_and_or.mp closes).imp (@readUSBs_eq_none turns _) (@readUSBs_eq_none turns _)
    rw [mainOver_none root fails process]
    refine ⟨iff_of_false Bool.false_ne_true ?_, ?_⟩
    · intro safe
      exact closes ⟨safe.1, safe.2.1⟩
    · intro ending ends
      cases ends

/-- A run of root with its iterators, which has written no page before, writes both
reports exactly when `report.html` opens, each reading closes every session that it
opens, and none shows a disk of 3 to 999 bytes.  With or without the page it ends
as the run over values. -/
theorem run_safe_iff :
    (process.report = none →
      ((∃ after code, mainOver (readUSBs turns) system process = some (after, code) ∧
          WritesReports system process after) ↔
        system.reportOpens = true ∧ ClosesAll system.first.log ∧ ClosesAll system.second.log ∧
          system.first.Sized ∧ system.second.Sized)) ∧
    ((mainOver (readUSBs turns) system process).isSome = true ↔
      ClosesAll system.first.log ∧ ClosesAll system.second.log ∧
        system.first.Sized ∧ system.second.Sized) ∧
    ∀ ending, mainOver (readUSBs turns) system process = some ending →
      main system process = some ending := by
  obtain ⟨ends, values⟩ := mainOver_readUSBs root exact initial enough
  refine ⟨?_, ends, values⟩
  intro unwritten
  rw [← ends]
  constructor
  · intro h
    obtain ⟨after, code, run, writes⟩ := h
    exact ⟨(writesReports_iff root initial unwritten (values _ run)).mp writes, by rw [run]; rfl⟩
  · intro h
    obtain ⟨opens, safe⟩ := h
    obtain ⟨⟨after, code⟩, run⟩ := Option.isSome_iff_exists.mp safe
    exact ⟨after, code, run, (writesReports_iff root initial unwritten (values _ run)).mpr opens⟩

end WholeRun

/-- Nothing changes between the readings. -/
def quietSystem : System := { stickSystem with second := stickAnswers }

theorem quietSystem_runs_safely :
    ∃ after code, mainOver (readUSBs 100) quietSystem {} = some (after, code) ∧
      WritesReports quietSystem {} after := by
  have closes : ClosesAll stickAnswers.log := by
    rw [closesAll_iff, stickAnswers_log]
    decide +kernel
  have sized : stickAnswers.Sized := by
    have size : 1000 ≤ (sizeOfDisk healthyDisk).toNat := by decide +kernel
    exact fun _ _ _ => .inr size
  exact ((@run_safe_iff quietSystem rfl Libm.exact_exact {} rfl 100 le_rfl).1 rfl).mpr
    ⟨rfl, closes, closes, sized, sized⟩

end SafeRuns

end StoringDevices
