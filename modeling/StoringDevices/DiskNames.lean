import Mathlib.Data.List.TakeWhile
import StoringDevices.HardDisk

/-! # The disks found in /dev/

The search takes from each name its first piece of the form `sd` and a letter, or
`nvme`, a digit, a letter and a digit.  The names of whole disks have no fixed
length, so a longer name gives the path of another disk or none at all. -/
set_option autoImplicit false

namespace StoringDevices

open Std (ExtTreeSet)

/-! ## Names of devices -/

def isLower (c : Char) : Bool := 'a' ≤ c && c ≤ 'z'

inductive WholeDisk : CppString → Prop where
  | sd {letters : CppString} (some : letters ≠ []) (lower : ∀ c ∈ letters, isLower c = true) :
      WholeDisk ("sd".toList ++ letters)
  | nvme {controller space : CppString} (first : IsNumber controller) (second : IsNumber space) :
      WholeDisk ("nvme".toList ++ (controller ++ 'n' :: space))

/-- A whole disk followed by its partition suffix. -/
inductive PartitionOf : CppString → CppString → Prop where
  | sd {letters number : CppString} (disk : WholeDisk ("sd".toList ++ letters))
      (suffix : IsNumber number) :
      PartitionOf ("sd".toList ++ letters) ("sd".toList ++ letters ++ number)
  | nvme {rest number : CppString} (disk : WholeDisk ("nvme".toList ++ rest))
      (suffix : IsNumber number) :
      PartitionOf ("nvme".toList ++ rest) ("nvme".toList ++ rest ++ 'p' :: number)

/-- One letter, or one digit for the controller and one for the namespace. -/
inductive ShortDisk : CppString → Prop where
  | sd {c : Char} (lower : isLower c = true) : ShortDisk ("sd".toList ++ [c])
  | nvme {controller space : Char} (first : isDigit controller = true)
      (second : isDigit space = true) : ShortDisk ("nvme".toList ++ [controller, 'n', space])

/-- What the expression of the search describes. -/
inductive Fragment : CppString → Prop where
  | sd {c : Char} (lower : isLower c = true) : Fragment ("sd".toList ++ [c])
  | nvme {first letter second : Char} (digit : isDigit first = true)
      (lower : isLower letter = true) (digit' : isDigit second = true) :
      Fragment ("nvme".toList ++ [first, letter, second])

/-- The first piece of the name that is a fragment. -/
def FirstFragment (name piece : CppString) : Prop :=
  Fragment piece ∧ ∃ before after, name = before ++ (piece ++ after) ∧
    ∀ before' piece' after', name = before' ++ (piece' ++ after') → Fragment piece' →
      before.length ≤ before'.length

theorem PartitionOf.wholeDisk {parent name : CppString} (partition : PartitionOf parent name) :
    WholeDisk parent := by
  cases partition with
  | sd disk _ => exact disk
  | nvme disk _ => exact disk

theorem PartitionOf.begins {parent name : CppString} (partition : PartitionOf parent name) :
    parent <+: name := by
  cases partition with
  | sd _ _ => exact List.prefix_append _ _
  | nvme _ _ => exact List.prefix_append _ _

theorem ShortDisk.fragment {name : CppString} (short : ShortDisk name) : Fragment name := by
  cases short with
  | sd lower => exact .sd lower
  | nvme first second => exact .nvme first (by decide) second

theorem ShortDisk.wholeDisk {name : CppString} (short : ShortDisk name) : WholeDisk name := by
  cases short with
  | sd lower => exact .sd (by simp) (by simpa using lower)
  | @nvme controller space first second =>
      have number : ∀ c, isDigit c = true → IsNumber [c] :=
        fun c digit => ⟨by simp, by simpa using digit⟩
      exact .nvme (number controller first) (number space second)

/-- A whole disk whose name is a fragment has a short name. -/
theorem WholeDisk.short_of_fragment {name : CppString} (whole : WholeDisk name)
    (fragment : Fragment name) : ShortDisk name := by
  generalize shape : name = fragmentName at fragment
  cases fragment with
  | sd lower => exact .sd lower
  | @nvme first letter second digit lower digit' =>
      cases whole with
      | sd _ _ => simp at shape
      | @nvme controller space number number' =>
          have rest := List.append_cancel_left shape
          have pos := List.length_pos_iff.mpr number.1
          have pos' := List.length_pos_iff.mpr number'.1
          have length := congrArg List.length rest
          simp only [List.length_append, List.length_cons, List.length_nil] at length
          obtain ⟨c, rfl⟩ := List.length_eq_one_iff.mp (by omega : controller.length = 1)
          obtain ⟨n, rfl⟩ := List.length_eq_one_iff.mp (by omega : space.length = 1)
          rw [← rest]
          exact .nvme (number.2 c (by simp)) (number'.2 n (by simp))

/-! ## The search -/

theorem matches_sdRegex_iff (w : CppString) : Regex.Matches sdRegex w ↔ Fragment w := by
  unfold sdRegex digit
  simp only [Regex.matches_alt_iff, Regex.matches_seq_iff, Regex.matches_literal_iff,
    Regex.matches_one_iff]
  constructor
  · intro run
    rcases run with ⟨_, _, rfl, rfl, c, lower, rfl⟩ |
      ⟨_, _, rfl, rfl, _, _, rfl, ⟨first, digit, rfl⟩, _, _, rfl, ⟨letter, lower, rfl⟩, second,
        digit', rfl⟩
    · exact .sd lower
    · exact .nvme digit lower digit'
  · intro fragment
    cases fragment with
    | @sd c lower => exact .inl ⟨_, _, rfl, rfl, c, lower, rfl⟩
    | @nvme first letter second digit lower digit' =>
        exact .inr ⟨_, _, rfl, rfl, [first], [letter, second], rfl, ⟨first, digit, rfl⟩, [letter],
          [second], rfl, ⟨letter, lower, rfl⟩, second, digit', rfl⟩

theorem fragment_unique {piece piece' after after' : CppString} (fragment : Fragment piece)
    (fragment' : Fragment piece') (same : piece ++ after = piece' ++ after') : piece = piece' := by
  cases fragment with
  | sd lower =>
      cases fragment' with
      | sd lower' => simp_all
      | nvme _ _ _ => simp at same
  | nvme digit lower digit' =>
      cases fragment' with
      | sd _ => simp at same
      | nvme _ _ _ => simp_all

theorem FirstFragment.unique {name piece piece' : CppString} (first : FirstFragment name piece)
    (first' : FirstFragment name piece') : piece = piece' := by
  obtain ⟨fragment, before, after, split, earliest⟩ := first
  obtain ⟨fragment', before', after', split', earliest'⟩ := first'
  have length := Nat.le_antisymm (earliest before' piece' after' split' fragment')
    (earliest' before piece after split fragment)
  have same := split.symm.trans split'
  obtain ⟨_, rest⟩ := List.append_inj same length
  exact fragment_unique fragment fragment' rest

/-- A fragment that a name begins with is its first one. -/
theorem Fragment.first {piece : CppString} (fragment : Fragment piece) (after : CppString) :
    FirstFragment (piece ++ after) piece :=
  ⟨fragment, [], after, rfl, fun _ _ _ _ _ => Nat.zero_le _⟩

theorem cStr_of_name (name : DirName) : cStr name.1 = name.1 := by
  unfold cStr
  apply List.takeWhile_eq_self_iff.mpr
  intro c member
  apply decide_eq_true
  rintro rfl
  exact name.2 member

theorem search_iff_first (name : DirName) (piece : CppString) :
    regexSearch name.1 sdRegex = some piece ↔ FirstFragment name.1 piece := by
  have sound : ∀ found : CppString, regexSearch name.1 sdRegex = some found →
      FirstFragment name.1 found := by
    intro text success
    unfold regexSearch at success
    rw [cStr_of_name] at success
    obtain ⟨found, search, rfl⟩ := Option.map_eq_some_iff.mp success
    obtain ⟨split, run⟩ := Regex.search_sound _ _ _ search
    refine ⟨(matches_sdRegex_iff _).mp run, found.before, found.after, by simpa using split, ?_⟩
    intro before piece after split' fragment
    by_contra later
    -- an earlier fragment would begin before the match
    have overlap : before ++ (piece ++ after) = found.before ++ (found.text ++ found.after) := by
      rw [← split', split, List.append_assoc]
    obtain ⟨gap, inFront, tail⟩ : ∃ gap, found.before = before ++ gap ∧
        piece ++ after = gap ++ (found.text ++ found.after) := by
      rcases List.append_eq_append_iff.mp overlap with ⟨gap, h, h'⟩ | ⟨gap, h, h'⟩
      · exact ⟨gap, h, h'⟩
      · have longer := congrArg List.length h
        simp only [List.length_append] at longer
        omega
    have ne : gap ≠ [] := by
      rintro rfl
      rw [List.append_nil] at inFront
      rw [inFront] at later
      exact later (Nat.le_refl _)
    exact Regex.search_leftmost search before gap piece inFront ne ⟨after, tail⟩
      ((matches_sdRegex_iff piece).mpr fragment)
  constructor
  · exact sound piece
  · intro first
    have here := first
    obtain ⟨fragment, before, after, split, _⟩ := here
    have occurs : Regex.Occurs sdRegex (cStr name.1) :=
      ⟨before, piece, after, by rw [cStr_of_name, split, List.append_assoc],
        (matches_sdRegex_iff piece).mpr fragment⟩
    have found := (Regex.search_isSome_iff _ _).mpr occurs
    obtain ⟨text, success⟩ : ∃ text, regexSearch name.1 sdRegex = some text := by
      obtain ⟨whole, search⟩ := Option.isSome_iff_exists.mp found
      exact ⟨whole.text, by rw [regexSearch, search]; rfl⟩
    rw [success, (sound text success).unique first]

theorem mem_getDisksSet (entries : List DirName) (opened : Descriptors) (path : CppString) :
    path ∈ (getDisksSet (some entries) opened).1 ↔
      ∃ name ∈ entries, ∃ piece, FirstFragment name.1 piece ∧ path = "/dev/".toList ++ piece := by
  have loop : ∀ (entries : List DirName) (disks : CppSet),
      path ∈ entries.foldl insertDisk disks ↔ path ∈ disks ∨
      ∃ name ∈ entries, ∃ piece, FirstFragment name.1 piece ∧ path = "/dev/".toList ++ piece := by
    intro entries
    induction entries with
    | nil => intro disks; simp
    | cons ent entries ih =>
        intro disks
        rw [List.foldl_cons, ih]
        simp only [List.mem_cons, exists_eq_or_imp, ← search_iff_first, ← or_assoc]
        apply or_congr_left
        unfold insertDisk
        cases found : regexSearch ent.1 sdRegex with
        | none => simp
        | some piece =>
            rw [ExtTreeSet.mem_insert, Std.LawfulEqCmp.compare_eq_iff_eq, or_comm, eq_comm]
            simp
  exact (loop entries ∅).trans (or_iff_right ExtTreeSet.not_mem_empty)

/-! ## When the discovery is exact -/

/-- The set holds the paths of the whole disks in the listing, and no other. -/
def ExactDisks (entries : List DirName) (disks : CppSet) : Prop :=
  ∀ path, path ∈ disks ↔ ∃ name ∈ entries, WholeDisk name.1 ∧ path = "/dev/".toList ++ name.1

/-- Every whole disk has a short name, and a name of neither a whole disk nor a
partition has no fragment, or its first one is the name of a listed whole disk. -/
structure PlainListing (entries : List DirName) : Prop where
  short : ∀ name ∈ entries, WholeDisk name.1 → ShortDisk name.1
  others : ∀ name ∈ entries, ¬ WholeDisk name.1 → (∀ parent, ¬ PartitionOf parent name.1) →
    ∀ piece, FirstFragment name.1 piece → WholeDisk piece ∧ ∃ disk ∈ entries, disk.1 = piece

theorem disks_exact_iff (entries : List DirName) (opened : Descriptors)
    (parents : ∀ name ∈ entries, ∀ parent, PartitionOf parent name.1 →
      ∃ disk ∈ entries, disk.1 = parent) :
    ExactDisks entries (getDisksSet (some entries) opened).1 ↔ PlainListing entries := by
  constructor
  · intro exactly
    refine ⟨?_, ?_⟩
    · intro name member whole
      have inside := (exactly ("/dev/".toList ++ name.1)).mpr ⟨name, member, whole, rfl⟩
      obtain ⟨_, _, piece, first, same⟩ := (mem_getDisksSet entries opened _).mp inside
      have own := List.append_cancel_left same
      exact whole.short_of_fragment (own ▸ first.1)
    · intro name member _ _ piece first
      have inside := (mem_getDisksSet entries opened _).mpr ⟨name, member, piece, first, rfl⟩
      obtain ⟨disk, listed, whole, same⟩ := (exactly _).mp inside
      have own := List.append_cancel_left same
      exact ⟨own ▸ whole, disk, listed, own.symm⟩
  · intro plain path
    rw [mem_getDisksSet]
    constructor
    · intro found
      obtain ⟨name, member, piece, first, rfl⟩ := found
      by_cases whole : WholeDisk name.1
      · have own := (plain.short name member whole).fragment.first []
        rw [List.append_nil] at own
        rw [first.unique own]
        exact ⟨name, member, whole, rfl⟩
      · by_cases partition : ∃ parent, PartitionOf parent name.1
        · -- a partition begins with the name of its disk, which is short
          obtain ⟨parent, partition⟩ := partition
          obtain ⟨disk, listed, rfl⟩ := parents name member parent partition
          obtain ⟨suffix, split⟩ := partition.begins
          have short := plain.short disk listed partition.wholeDisk
          have own := short.fragment.first suffix
          rw [split] at own
          rw [first.unique own]
          exact ⟨disk, listed, partition.wholeDisk, rfl⟩
        · obtain ⟨ofDisk, disk, listed, own⟩ := plain.others name member whole
            (fun parent here => partition ⟨parent, here⟩) piece first
          subst own
          exact ⟨disk, listed, ofDisk, rfl⟩
    · intro listed
      obtain ⟨name, member, whole, rfl⟩ := listed
      have own := (plain.short name member whole).fragment.first []
      rw [List.append_nil] at own
      exact ⟨name, member, name.1, own, rfl⟩

/-! ## Two listings -/

theorem PartitionOf.last_digit {parent name : CppString} (partition : PartitionOf parent name) :
    ∃ c, name.getLast? = some c ∧ isDigit c = true := by
  have ends : ∀ (front number : CppString), IsNumber number →
      ∃ c, (front ++ number).getLast? = some c ∧ isDigit c = true := by
    intro front number suffix
    have last := List.getLast?_eq_some_getLast suffix.1
    refine ⟨number.getLast suffix.1, ?_, suffix.2 _ (List.getLast_mem _)⟩
    rw [List.getLast?_append, last]
    rfl
  cases partition with
  | sd _ suffix => exact ends _ _ suffix
  | @nvme rest number _ suffix =>
      have moved : "nvme".toList ++ rest ++ 'p' :: number =
          ("nvme".toList ++ rest ++ ['p']) ++ number := by simp
      rw [moved]
      exact ends _ _ suffix

/-- `sd` and the letters. -/
def sdName (letters : CppString) (noNul : '\x00' ∉ "sd".toList ++ letters) : DirName :=
  ⟨"sd".toList ++ letters, noNul⟩

def sdaAndSdb : List DirName := [sdName ['a'] (by decide), sdName ['b'] (by decide)]

def sdaAndSdaa : List DirName := [sdName ['a'] (by decide), sdName ['a', 'a'] (by decide)]

theorem no_partition {parent name : CppString} (letter : name.getLast?.all isDigit = false) :
    ¬ PartitionOf parent name := by
  intro partition
  obtain ⟨c, last, digit⟩ := partition.last_digit
  rw [last, Option.all_some, digit] at letter
  cases letter

theorem no_partitions {entries : List DirName}
    (letters : ∀ name ∈ entries, name.1.getLast?.all isDigit = false) :
    ∀ name ∈ entries, ∀ parent, PartitionOf parent name.1 → ∃ disk ∈ entries, disk.1 = parent :=
  fun name member _ partition => absurd partition (no_partition (letters name member))

theorem isLower_of_isDigit {c : Char} (digit : isDigit c = true) : isLower c = false := by
  unfold isDigit at digit
  unfold isLower
  rw [Bool.and_eq_true, decide_eq_true_eq, decide_eq_true_eq] at digit
  rw [Bool.and_eq_false_iff, decide_eq_false_iff_not]
  left
  intro lower
  have high : c.toNat ≤ 57 := digit.2
  have low : 97 ≤ c.toNat := lower
  omega

theorem takeWhile_letters {letters number : CppString} (lower : ∀ c ∈ letters, isLower c = true)
    (suffix : IsNumber number) : (letters ++ number).takeWhile isLower = letters := by
  rw [List.takeWhile_append_of_pos lower]
  cases number with
  | nil => exact absurd rfl suffix.1
  | cons d rest =>
      have digit := isLower_of_isDigit (suffix.2 d List.mem_cons_self)
      rw [List.takeWhile_cons_of_neg (by rw [digit]; exact Bool.false_ne_true), List.append_nil]

/-- The disk of a partition is its name up to the number. -/
theorem PartitionOf.parent_eq {parent letters number : CppString}
    (lower : ∀ c ∈ letters, isLower c = true) (suffix : IsNumber number)
    (partition : PartitionOf parent ("sd".toList ++ letters ++ number)) :
    parent = "sd".toList ++ letters := by
  generalize shape : "sd".toList ++ letters ++ number = name at partition
  cases partition with
  | @sd letters' number' disk suffix' =>
      have lower' : ∀ c ∈ letters', isLower c = true := by
        generalize whole : "sd".toList ++ letters' = name at disk
        cases disk with
        | sd _ lower' => rwa [List.append_cancel_left whole]
        | nvme _ _ => simp at whole
      rw [List.append_assoc, List.append_assoc] at shape
      have same := congrArg (List.takeWhile isLower) (List.append_cancel_left shape)
      rw [takeWhile_letters lower suffix, takeWhile_letters lower' suffix'] at same
      rw [same]
  | nvme _ _ => simp at shape

/-- Two disks, and a partition on the first. -/
def sdaSda1AndSdb : List DirName :=
  [sdName ['a'] (by decide), sdName ['a', '1'] (by decide), sdName ['b'] (by decide)]

theorem letter_a : ∀ c ∈ ['a'], isLower c = true := by simp [isLower]

theorem number_1 : IsNumber ['1'] := by simp [IsNumber, isDigit]

theorem sda1_partition : PartitionOf ("sd".toList ++ ['a']) ("sd".toList ++ ['a'] ++ ['1']) :=
  .sd (.sd (by simp) letter_a) number_1

theorem sda_and_sdb_found :
    ExactDisks sdaSda1AndSdb (getDisksSet (some sdaSda1AndSdb) ∅).1 := by
  have parents : ∀ name ∈ sdaSda1AndSdb, ∀ parent, PartitionOf parent name.1 →
      ∃ disk ∈ sdaSda1AndSdb, disk.1 = parent := by
    intro name member parent partition
    simp only [sdaSda1AndSdb, List.mem_cons, List.not_mem_nil, or_false] at member
    rcases member with rfl | rfl | rfl
    · exact absurd partition (no_partition (by decide))
    · have own : parent = "sd".toList ++ ['a'] :=
        partition.parent_eq letter_a number_1
      exact ⟨sdName ['a'] (by decide), by simp [sdaSda1AndSdb], own.symm⟩
    · exact absurd partition (no_partition (by decide))
  have notWhole : ¬ WholeDisk ("sd".toList ++ ['a', '1']) := by
    generalize shape : "sd".toList ++ ['a', '1'] = name
    intro whole
    cases whole with
    | sd _ lower =>
        have digit := lower '1' (by rw [← List.append_cancel_left shape]; simp)
        cases digit
    | nvme _ _ => simp at shape
  apply (disks_exact_iff sdaSda1AndSdb ∅ parents).mpr
  constructor
  · intro name member whole
    simp only [sdaSda1AndSdb, List.mem_cons, List.not_mem_nil, or_false] at member
    rcases member with rfl | rfl | rfl
    · exact .sd (by decide)
    · exact absurd whole notWhole
    · exact .sd (by decide)
  · intro name member other alone
    simp only [sdaSda1AndSdb, List.mem_cons, List.not_mem_nil, or_false] at member
    rcases member with rfl | rfl | rfl
    · exact absurd (ShortDisk.sd (by decide)).wholeDisk other
    · exact absurd sda1_partition (alone _)
    · exact absurd (ShortDisk.sd (by decide)).wholeDisk other

/-- The 27th disk is taken for the first one. -/
theorem sdaa_missed :
    (∀ name ∈ sdaAndSdaa, ∀ parent, PartitionOf parent name.1 →
      ∃ disk ∈ sdaAndSdaa, disk.1 = parent) ∧
    ¬ ExactDisks sdaAndSdaa (getDisksSet (some sdaAndSdaa) ∅).1 := by
  refine ⟨no_partitions (by decide), fun exactly => ?_⟩
  have lower : ∀ c ∈ ['a', 'a'], isLower c = true := by
    intro c member
    rcases List.mem_pair.mp member with rfl | rfl <;> rfl
  have whole : WholeDisk ("sd".toList ++ ['a', 'a']) := .sd (by simp) lower
  have inside := (exactly ("/dev/".toList ++ ("sd".toList ++ ['a', 'a']))).mpr
    ⟨sdName ['a', 'a'] (by decide), by simp [sdaAndSdaa], whole, rfl⟩
  obtain ⟨_, _, piece, ⟨fragment, _⟩, same⟩ := (mem_getDisksSet _ _ _).mp inside
  have own := List.append_cancel_left same
  cases fragment with
  | sd _ => simp at own
  | nvme _ _ _ => simp at own

end StoringDevices
