import StoringDevices.Program

/-! # What a run depends on

`readdir` gives the entries of `/dev/` in any order, the compiler evaluates the
arguments of `printHTML` in any order, and an unset variable holds anything.  None
of this reaches the terminal, the page or the descriptors. -/
set_option autoImplicit false

namespace StoringDevices

open Std (ExtTreeMap ExtTreeSet)

/-! ## Listings -/

/-- The same names, or the same reason for having none. -/
inductive SameListing : Except CppString (List DirName) → Except CppString (List DirName) → Prop where
  | failed (reason : CppString) : SameListing (.error reason) (.error reason)
  | listed {names names' : List DirName} (same : ∀ name, name ∈ names' ↔ name ∈ names) :
      SameListing (.ok names) (.ok names')

theorem getDisksSet_of_sameListing {dev dev' : Except CppString (List DirName)}
    (same : SameListing dev dev') (opened : Descriptors) :
    getDisksSet dev'.toOption opened = getDisksSet dev.toOption opened := by
  cases same with
  | failed reason => rfl
  | @listed names names' same =>
      have sets : (getDisksSet (some names') opened).1 = (getDisksSet (some names) opened).1 := by
        apply ExtTreeSet.ext_mem
        intro path
        simp only [mem_getDisksSet, same]
      have descriptors : (getDisksSet (some names') opened).2 = (getDisksSet (some names) opened).2 := by
        rw [getDisksSet_descriptors, getDisksSet_descriptors]
      exact Prod.ext sets descriptors

/-! ## Probes -/

/-- A probe asks the devices that were found, and no others. -/
theorem probeNames_congr {devices devices' : CppString → DiskAnswers} :
    ∀ (names : List CppString) (start : DisksMap × Descriptors),
      (∀ name ∈ names, devices' (cStr name) = devices (cStr name)) →
      probeNames devices' names start = probeNames devices names start := by
  intro names
  induction names with
  | nil =>
      intro start _
      rfl
  | cons name names ih =>
      intro start agree
      have here : getInfoFromDisk devices' name start.2 = getInfoFromDisk devices name start.2 := by
        unfold getInfoFromDisk
        rw [agree name List.mem_cons_self]
      rw [probeNames_cons, probeNames_cons, here]
      exact ih _ fun other member => agree other (List.mem_cons_of_mem _ member)

/-- One file, one listing up to order and repetition, and the same answers of the
disks that are found. -/
structure Alike (answers answers' : Answers) : Prop where
  syslog : answers'.syslog = answers.syslog
  numbers : ∀ line ∈ answers.log, GivesNumbers line
  dev : SameListing answers.dev answers'.dev
  devices : ∀ path ∈ answers.disksSet, answers'.devices (cStr path) = answers.devices (cStr path)

section Alike
variable {answers answers' : Answers} (alike : Alike answers answers')
include alike

theorem Alike.disksSet : answers'.disksSet = answers.disksSet :=
  congrArg Prod.fst (getDisksSet_of_sameListing alike.dev ∅)

theorem Alike.gatherUSBs (opened : Descriptors) :
    gatherUSBs getUSBsInfo answers' opened = gatherUSBs getUSBsInfo answers opened := by
  rw [gatherUSBs_eq, gatherUSBs_eq, usbsMap_of_same_syslog alike.syslog alike.numbers]

theorem Alike.getDisksInfo (opened : Descriptors) :
    getDisksInfo answers'.devices answers'.dev.toOption opened =
      getDisksInfo answers.devices answers.dev.toOption opened := by
  rw [getDisksInfo_eq, getDisksInfo_eq, getDisksSet_of_sameListing alike.dev, getInfoFromDisks_eq,
    getInfoFromDisks_eq]
  apply probeNames_congr
  intro name member
  apply alike.devices name
  rw [ExtTreeSet.mem_toList, getDisksSet_set _ opened ∅] at member
  exact member

theorem Alike.probeErrors : probeErrors answers' = probeErrors answers := by
  have errors : ∀ names : List CppString, (∀ name ∈ names, name ∈ answers.disksSet) →
      (names.flatMap fun name =>
        if (answers'.devices (cStr name)).opens then []
        else "Failed to open disk device file".toList ++ endl) =
      names.flatMap fun name =>
        if (answers.devices (cStr name)).opens then []
        else "Failed to open disk device file".toList ++ endl := by
    intro names inside
    apply List.flatMap_congr
    intro name member
    rw [alike.devices name (inside name member)]
  have sets := getDisksSet_of_sameListing alike.dev ∅
  have found := errors answers.disksSet.toList fun name member => ExtTreeSet.mem_toList.mp member
  unfold Answers.disksSet at found
  unfold StoringDevices.probeErrors
  rw [sets]
  revert found
  have listing := alike.dev
  revert listing
  generalize answers.dev = dev
  generalize answers'.dev = dev'
  intro listing found
  cases listing with
  | failed reason => rfl
  | listed same => exact found

end Alike

/-- A run is determined by the user, the syslog at both readings, the names in
`/dev/`, what the found disks answer, the clock, the C library and whether the page
can be written. -/
theorem main_determined {system system' : System} (user : system'.geteuid = system.geteuid)
    (first : Alike system.first system'.first) (second : Alike system.second system'.second)
    (page : system'.reportOpens = system.reportOpens) (clock : system'.clock = system.clock)
    (libm : system'.libm = system.libm) (process : Process) :
    main system' process = main system process := by
  have both : ∀ opened, gatherBoth getUSBsInfo system'.usbsFirst system'.second opened =
      gatherBoth getUSBsInfo system.usbsFirst system.second opened := by
    intro opened
    have disksMap : system'.second.disksMap = system.second.disksMap :=
      congrArg Prod.fst (second.getDisksInfo ∅)
    rw [gatherBoth_eq, gatherBoth_eq, second.getDisksInfo, disksMap,
      usbsMap_of_same_syslog second.syslog second.numbers]
  unfold main mainOver
  simp only [user, page, clock, libm, first.gatherUSBs, first.getDisksInfo, both,
    first.probeErrors, second.probeErrors]

/-- The stick and the disks, met in another order by another build. -/
def shuffledAnswers : Answers :=
  { stickAnswers with
    unset := fun number => (number, 7)
    dev := .ok (sdaAndSdb.reverse ++ sdaAndSdb) }

theorem shuffledAnswers_alike : Alike stickAnswers shuffledAnswers where
  syslog := rfl
  numbers := stickAnswers_numbers
  dev := .listed fun name => by simp
  devices _ _ := rfl

def shuffledSystem : System :=
  { stickSystem with
    first := shuffledAnswers
    second := stickAnswers
    usbsFirst := false }

theorem shuffledSystem_same_run : main shuffledSystem {} = main stickSystem {} := by
  have texts : stickSystem.second.log.map bare = stickAnswers.log.map bare := by
    rw [log_bare, log_bare]
    rfl
  have second : Alike stickSystem.second shuffledSystem.second :=
    ⟨rfl, givesNumbers_of_bare texts stickAnswers_numbers, .listed fun name => Iff.rfl,
      fun _ _ => rfl⟩
  exact @main_determined stickSystem shuffledSystem rfl shuffledAnswers_alike second rfl rfl rfl {}

end StoringDevices
