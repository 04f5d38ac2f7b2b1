import StoringDevices.HardDisk

/-! # The descriptors and the entries of a probe

Three of the four exits of `getInfoFromDisk` come before `open` or after
`close`; the last one, where the size is read, leaves the descriptor open. -/
set_option autoImplicit false

namespace StoringDevices

open Std (ExtTreeMap ExtTreeSet)

/-- The device does not open, or neither identify call succeeds on it. -/
def DiskAnswers.Unidentified (answers : DiskAnswers) : Prop :=
  answers.opens = false ∨
    answers.hdioGetIdentity.isNone = true ∧ answers.nvmeIdentify.isNone = true

instance (answers : DiskAnswers) : Decidable answers.Unidentified :=
  inferInstanceAs (Decidable (_ ∨ _ ∧ _))

/-- The device opens, an identify call and the first `BLKGETSIZE` succeed on it. -/
def DiskAnswers.Measured (answers : DiskAnswers) : Prop :=
  ¬ answers.Unidentified ∧ answers.firstBlkgetsize.isSome = true

instance (answers : DiskAnswers) : Decidable answers.Measured :=
  inferInstanceAs (Decidable (_ ∧ _))

/-! ## One disk -/

/-- Neither identify call succeeds, or one of them fills the entry. -/
theorem identifyDisk_cases (answers : DiskAnswers) (start : HardDiskInfo) :
    (answers.hdioGetIdentity.isNone = true ∧ answers.nvmeIdentify.isNone = true ∧
      identifyDisk answers start = none) ∨
    ¬ (answers.hdioGetIdentity.isNone = true ∧ answers.nvmeIdentify.isNone = true) ∧
      ∃ info, identifyDisk answers start = some info ∧ info.isEmpty = false := by
  unfold identifyDisk
  cases answers.hdioGetIdentity with
  | some driveInfo => exact .inr ⟨by simp, _, rfl, rfl⟩
  | none =>
      cases answers.nvmeIdentify with
      | none => exact .inl ⟨rfl, rfl, rfl⟩
      | some buf => exact .inr ⟨by simp, _, rfl, rfl⟩

section OneDisk
variable {devices : CppString → DiskAnswers} {deviceName : CppString}

/-- The exits before the disk is identified. -/
theorem getInfoFromDisk_unidentified (unidentified : (devices (cStr deviceName)).Unidentified)
    (opened : Descriptors) :
    getInfoFromDisk devices deviceName opened = (initializeHardDiskInfoStructure, opened) := by
  unfold getInfoFromDisk
  cases opens : (devices (cStr deviceName)).opens with
  | false => simp [opens]
  | true =>
      rcases unidentified with closed | failed
      · rw [opens] at closed
        cases closed
      · rcases identifyDisk_cases (devices (cStr deviceName)) initializeHardDiskInfoStructure with
          ⟨_, _, none⟩ | ⟨identified, _⟩
        · simp [opens, none, closeFile_openFile]
        · exact absurd failed identified

/-- The exits after it: only the first one closes the descriptor. -/
theorem getInfoFromDisk_identified (identified : ¬ (devices (cStr deviceName)).Unidentified) :
    ∃ info, identifyDisk (devices (cStr deviceName)) initializeHardDiskInfoStructure = some info ∧
      info.isEmpty = false ∧ ∀ opened,
        getInfoFromDisk devices deviceName opened =
          if (devices (cStr deviceName)).firstBlkgetsize.isSome then
            ({ info with size := sizeOfDisk (devices (cStr deviceName)) }, (openFile opened).2)
          else (info, opened) := by
  unfold DiskAnswers.Unidentified at identified
  rw [not_or] at identified
  rcases identifyDisk_cases (devices (cStr deviceName)) initializeHardDiskInfoStructure with
    ⟨noIdentity, noController, _⟩ | ⟨_, info, filled, notEmpty⟩
  · exact absurd ⟨noIdentity, noController⟩ identified.2
  · refine ⟨info, filled, notEmpty, fun opened => ?_⟩
    have opens : (devices (cStr deviceName)).opens = true := by simpa using identified.1
    unfold getInfoFromDisk
    simp only [opens, filled]
    cases (devices (cStr deviceName)).firstBlkgetsize <;> simp [closeFile_openFile]

/-- The entry of a disk does not depend on the descriptors. -/
theorem getInfoFromDisk_info (devices : CppString → DiskAnswers) (deviceName : CppString)
    (opened opened' : Descriptors) :
    (getInfoFromDisk devices deviceName opened).1 =
      (getInfoFromDisk devices deviceName opened').1 := by
  by_cases unidentified : (devices (cStr deviceName)).Unidentified
  · rw [getInfoFromDisk_unidentified unidentified, getInfoFromDisk_unidentified unidentified]
  · obtain ⟨info, _, _, result⟩ := getInfoFromDisk_identified unidentified
    rw [result, result]
    split <;> rfl

theorem getInfoFromDisk_isEmpty_iff (devices : CppString → DiskAnswers) (deviceName : CppString)
    (opened : Descriptors) :
    (getInfoFromDisk devices deviceName opened).1.isEmpty = true ↔
      (devices (cStr deviceName)).Unidentified := by
  by_cases unidentified : (devices (cStr deviceName)).Unidentified
  · rw [getInfoFromDisk_unidentified unidentified]
    exact iff_of_true rfl unidentified
  · obtain ⟨info, _, notEmpty, result⟩ := getInfoFromDisk_identified unidentified
    rw [result]
    split <;> simp [notEmpty, unidentified]

theorem getInfoFromDisk_measured (measured : (devices (cStr deviceName)).Measured)
    (opened : Descriptors) :
    (getInfoFromDisk devices deviceName opened).2 = (openFile opened).2 ∧
      (getInfoFromDisk devices deviceName opened).1.size = sizeOfDisk (devices (cStr deviceName)) := by
  obtain ⟨info, _, _, result⟩ := getInfoFromDisk_identified measured.1
  rw [result, if_pos measured.2]
  exact ⟨rfl, rfl⟩

theorem getInfoFromDisk_unmeasured (unmeasured : ¬ (devices (cStr deviceName)).Measured)
    (opened : Descriptors) : (getInfoFromDisk devices deviceName opened).2 = opened := by
  by_cases unidentified : (devices (cStr deviceName)).Unidentified
  · rw [getInfoFromDisk_unidentified unidentified]
  · obtain ⟨info, _, _, result⟩ := getInfoFromDisk_identified unidentified
    rw [result, if_neg fun some => unmeasured ⟨unidentified, some⟩]

end OneDisk

/-! ## All disks -/

/-- The loop over a list of names, from a map and descriptors. -/
def probeNames (devices : CppString → DiskAnswers) (names : List CppString)
    (start : DisksMap × Descriptors) : DisksMap × Descriptors :=
  names.foldl (fun (disksMap, opened) it =>
    let (hardDiskInfo, opened) := getInfoFromDisk devices it opened
    (disksMap.insertIfNew it hardDiskInfo, opened)) start

theorem probeNames_cons (devices : CppString → DiskAnswers) (name : CppString)
    (names : List CppString) (start : DisksMap × Descriptors) :
    probeNames devices (name :: names) start =
      probeNames devices names
        (start.1.insertIfNew name (getInfoFromDisk devices name start.2).1,
          (getInfoFromDisk devices name start.2).2) := rfl

theorem getInfoFromDisks_eq (devices : CppString → DiskAnswers) (disksSet : CppSet)
    (opened : Descriptors) :
    getInfoFromDisks devices disksSet opened = probeNames devices disksSet.toList (∅, opened) := rfl

theorem openFile_card (opened : Descriptors) : (openFile opened).2.card = opened.card + 1 :=
  Finset.card_insert_of_notMem (lowestFree_not_mem opened)

/-- The descriptors grow by one for each measured disk. -/
theorem probeNames_descriptors (devices : CppString → DiskAnswers) :
    ∀ (names : List CppString) (start : DisksMap × Descriptors),
      start.2 ⊆ (probeNames devices names start).2 ∧
        (probeNames devices names start).2.card =
          start.2.card + names.countP fun name => (devices (cStr name)).Measured := by
  intro names
  induction names with
  | nil => intro start; exact ⟨Finset.Subset.refl _, rfl⟩
  | cons name names ih =>
      intro start
      rw [probeNames_cons, List.countP_cons]
      obtain ⟨larger, count⟩ := ih (start.1.insertIfNew name
        (getInfoFromDisk devices name start.2).1, (getInfoFromDisk devices name start.2).2)
      by_cases measured : (devices (cStr name)).Measured
      · rw [(getInfoFromDisk_measured measured start.2).1] at larger count ⊢
        have inside : start.2 ⊆ (openFile start.2).2 := Finset.subset_insert _ _
        refine ⟨inside.trans larger, ?_⟩
        rw [count, openFile_card, if_pos (decide_eq_true measured)]
        omega
      · rw [getInfoFromDisk_unmeasured measured] at larger count ⊢
        refine ⟨larger, ?_⟩
        rw [count, if_neg (by simpa using measured)]
        omega

theorem probeNames_getElem? (devices : CppString → DiskAnswers) (name : CppString) :
    ∀ (names : List CppString) (start : DisksMap × Descriptors),
      (probeNames devices names start).1[name]? = start.1[name]?.or
        (if name ∈ names then some (getInfoFromDisk devices name start.2).1 else none) := by
  intro names
  induction names with
  | nil => intro start; simp [probeNames]
  | cons first names ih =>
      intro start
      rw [probeNames_cons, ih, ExtTreeMap.getElem?_insertIfNew,
        getInfoFromDisk_info devices name (getInfoFromDisk devices first start.2).2 start.2]
      by_cases own : first = name
      · subst own
        cases known : start.1[first]? with
        | some info =>
            have present : first ∈ start.1 := by
              rw [ExtTreeMap.mem_iff_isSome_getElem?, known]
              rfl
            simp [present]
        | none =>
            have absent : first ∉ start.1 := by
              rw [ExtTreeMap.mem_iff_isSome_getElem?, known]
              simp
            simp [absent]
      · simp [own, Ne.symm own]

theorem getInfoFromDisks_getElem? (devices : CppString → DiskAnswers) (disksSet : CppSet)
    (opened : Descriptors) (name : CppString) :
    (getInfoFromDisks devices disksSet opened).1[name]? =
      if name ∈ disksSet then some (getInfoFromDisk devices name opened).1 else none := by
  rw [getInfoFromDisks_eq, probeNames_getElem?]
  simp [ExtTreeSet.mem_toList]

theorem descriptors_kept_iff (devices : CppString → DiskAnswers) (disksSet : CppSet)
    (opened : Descriptors) :
    (getInfoFromDisks devices disksSet opened).2 = opened ↔
      ∀ name ∈ disksSet, ¬ (devices (cStr name)).Measured := by
  obtain ⟨larger, count⟩ := probeNames_descriptors devices disksSet.toList (∅, opened)
  have none : (disksSet.toList.countP fun name => (devices (cStr name)).Measured) = 0 ↔
      ∀ name ∈ disksSet, ¬ (devices (cStr name)).Measured := by
    rw [List.countP_eq_zero]
    simp [ExtTreeSet.mem_toList]
  rw [getInfoFromDisks_eq, ← none]
  constructor
  · intro same
    rw [same] at count
    simp only at count
    omega
  · intro zero
    apply (Finset.eq_of_subset_of_card_le larger ?_).symm
    rw [count, zero]
    simp

theorem getDisksSet_descriptors (dev : Option (List DirName)) (opened : Descriptors) :
    (getDisksSet dev opened).2 = opened := by
  cases dev with
  | none => rfl
  | some entries => exact closeFile_openFile opened

theorem getDisksInfo_eq (devices : CppString → DiskAnswers) (dev : Option (List DirName))
    (opened : Descriptors) :
    getDisksInfo devices dev opened =
      getInfoFromDisks devices (getDisksSet dev opened).1 opened := by
  have unfolded : getDisksInfo devices dev opened =
      getInfoFromDisks devices (getDisksSet dev opened).1 (getDisksSet dev opened).2 := rfl
  rw [unfolded, getDisksSet_descriptors]

/-! ## A clean probe -/

/-- The probe of a set of disks leaves the open descriptors as they were, and its
empty entries are those of the unidentified disks. -/
structure CleanProbe (devices : CppString → DiskAnswers) (disksSet : CppSet)
    (opened : Descriptors) : Prop where
  descriptors : (getInfoFromDisks devices disksSet opened).2 = opened
  keys : ∀ name, name ∈ (getInfoFromDisks devices disksSet opened).1 ↔ name ∈ disksSet
  empty : ∀ (name : CppString) (info : HardDiskInfo),
    (getInfoFromDisks devices disksSet opened).1[name]? = some info →
    (info.isEmpty = true ↔ (devices (cStr name)).Unidentified)
  cleared : ∀ (name : CppString) (info : HardDiskInfo),
    (getInfoFromDisks devices disksSet opened).1[name]? = some info →
    info.isEmpty = true → info.diskType = [] ∧ info.product = [] ∧ info.serialNumber = [] ∧
      info.version = [] ∧ info.firmware = [] ∧ info.size = 0

section Entries
variable {devices : CppString → DiskAnswers} {disksSet : CppSet} {opened : Descriptors}
  {name : CppString}

theorem mem_getInfoFromDisks :
    name ∈ (getInfoFromDisks devices disksSet opened).1 ↔ name ∈ disksSet := by
  rw [ExtTreeMap.mem_iff_isSome_getElem?, getInfoFromDisks_getElem?]
  split <;> simp [*]

variable {info : HardDiskInfo}
  (here : (getInfoFromDisks devices disksSet opened).1[name]? = some info)
include here

theorem entry_of_disk : info = (getInfoFromDisk devices name opened).1 := by
  rw [getInfoFromDisks_getElem?] at here
  split at here
  · exact (Option.some.inj here).symm
  · cases here

/-- Whatever the calls on the disks return. -/
theorem entry_isEmpty_iff : info.isEmpty = true ↔ (devices (cStr name)).Unidentified := by
  rw [entry_of_disk here, getInfoFromDisk_isEmpty_iff]

theorem empty_entry_initial (empty : info.isEmpty = true) :
    info = initializeHardDiskInfoStructure := by
  rw [entry_of_disk here,
    getInfoFromDisk_unidentified ((entry_isEmpty_iff here).mp empty)]

end Entries

/-- The probe of any set of disks, and so of the disks found in `/dev/`, is clean
exactly when no disk is measured. -/
theorem probe_clean_iff (devices : CppString → DiskAnswers) (opened : Descriptors) :
    (∀ disksSet, CleanProbe devices disksSet opened ↔
      ∀ name ∈ disksSet, ¬ (devices (cStr name)).Measured) ∧
    ∀ dev, getDisksInfo devices dev opened =
      getInfoFromDisks devices (getDisksSet dev opened).1 opened := by
  refine ⟨fun disksSet => ⟨fun clean => ?_, fun unmeasured => ?_⟩, fun dev =>
    getDisksInfo_eq devices dev opened⟩
  · exact (descriptors_kept_iff devices disksSet opened).mp clean.descriptors
  · refine ⟨(descriptors_kept_iff devices disksSet opened).mpr unmeasured,
      fun name => mem_getInfoFromDisks, fun name info here => entry_isEmpty_iff here, ?_⟩
    intro name info here empty
    rw [empty_entry_initial here empty]
    exact ⟨rfl, rfl, rfl, rfl, rfl, rfl⟩

/-- A device on which every call succeeds. -/
def healthyDisk : DiskAnswers where
  opens := true
  hdioGetIdentity := some
    { serialNo := ⟨List.replicate 20 'S', by simp⟩
      fwRev := ⟨List.replicate 8 'F', by simp⟩
      model := ⟨List.replicate 40 'M', by simp⟩ }
  nvmeIdentify := none
  firstBlkgetsize := some 2048
  blkgetsize64 := some 1048576
  blksszget := some 512
  blkgetsize := some 2048

theorem healthy_disk_stays_open :
    ¬ CleanProbe (fun _ => healthyDisk) ((∅ : CppSet).insert "/dev/sda".toList) {0, 1, 2} := by
  intro clean
  have unmeasured := (descriptors_kept_iff _ _ _).mp clean.descriptors "/dev/sda".toList (by simp)
  exact unmeasured ⟨by simp [DiskAnswers.Unidentified, healthyDisk], rfl⟩

end StoringDevices
