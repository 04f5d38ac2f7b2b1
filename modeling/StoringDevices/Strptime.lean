import Mathlib.Data.Fintype.Basic
import Mathlib.Data.List.DropRight
import Mathlib.Data.List.FinRange
import Mathlib.Tactic.FinCases
import StoringDevices.Clock
import StoringDevices.Lib.Lists
import StoringDevices.Line

/-! # Parsing a syslog time

`strptime` with the format of `convertSyslogTimestampToTm`, as glibc reads it: a
month name in full or abbreviated, in any case; numbers after optional white
space, up to two digits; and what was parsed before a failure is kept, but of the
time of day all or nothing.  The fifteen characters of a syslog header are read
back, whatever follows them. -/
set_option autoImplicit false

namespace StoringDevices

/-! ## strptime -/

/-- The directives without a recursive call. -/
inductive Directive where
  | month
  | day
  | hour
  | minute
  | second
  | blank
  | literal (c : Char)

def abMonth : List String :=
  ["Jan", "Feb", "Mar", "Apr", "May", "Jun", "Jul", "Aug", "Sep", "Oct", "Nov", "Dec"]

/-- What is left after a name, in any case. -/
def matchString (name s : CppString) : Option CppString :=
  if (s.take name.length).map Char.toLower = name.map Char.toLower then some (s.drop name.length)
  else none

/-- A longer name takes the place of the one found before. -/
def tryName (s : CppString) (m : Fin 12) (best : Option (Fin 12 × CppString)) (name : String) :
    Option (Fin 12 × CppString) :=
  match matchString name.toList s, best with
  | none, best => best
  | some rest, none => some (m, rest)
  | some rest, some (m', rest') =>
      if rest.length < rest'.length then some (m, rest) else some (m', rest')

/-- The longest month name that `s` begins with. -/
def parseMonth (s : CppString) : Option (Fin 12 × CppString) :=
  (List.finRange 12).foldl
    (fun best m => [month.get m, abMonth.get m].foldl (tryName s m) best) none

/-- Up to `digits` digits, stopping when another one would exceed `upper`. -/
def takeNumber (upper : Nat) : Nat → Nat → CppString → Nat × CppString
  | 0, value, s => (value, s)
  | _ + 1, value, [] => (value, [])
  | digits + 1, value, c :: s =>
      if isDigit c ∧ value * 10 ≤ upper then
        takeNumber upper digits (value * 10 + (c.toNat - '0'.toNat)) s
      else (value, c :: s)

def getNumber (lower upper : Nat) (s : CppString) : Option (Nat × CppString) :=
  match s.dropWhile isSpace with
  | [] => none
  | c :: rest =>
      if isDigit c then
        let (value, left) := takeNumber upper 2 0 (c :: rest)
        if lower ≤ value ∧ value ≤ upper then some (value, left) else none
      else none

def matchChar (c : Char) : CppString → Option CppString
  | [] => none
  | d :: rest => if d = c then some rest else none

/-- What is left, and the fields with what the directive sets. -/
def Directive.read (s : CppString) (tm : Tm) : Directive → Option (CppString × Tm)
  | .month => (parseMonth s).map fun (m, rest) => (rest, { tm with tmMon := m })
  | .day => (getNumber 1 31 s).map fun (value, rest) => (rest, { tm with tmMday := value })
  | .hour => (getNumber 0 23 s).map fun (value, rest) => (rest, { tm with tmHour := value })
  | .minute => (getNumber 0 59 s).map fun (value, rest) => (rest, { tm with tmMin := value })
  | .second => (getNumber 0 61 s).map fun (value, rest) => (rest, { tm with tmSec := value })
  | .blank => some (s.dropWhile isSpace, tm)
  | .literal c => (matchChar c s).map fun rest => (rest, tm)

/-- A recursive call works on a copy of the fields, which is kept only when all
of its format is read. -/
def recursive : List Directive → CppString → Tm → Option (CppString × Tm)
  | [], s, tm => some (s, tm)
  | directive :: format, s, tm =>
      (directive.read s tm).bind fun (rest, tm) => recursive format rest tm

inductive Conversion where
  | plain (directive : Directive)
  | nested (format : List Directive)

def Conversion.read (s : CppString) (tm : Tm) : Conversion → Option (CppString × Tm)
  | .plain directive => directive.read s tm
  | .nested format => recursive format s tm

/-- The fields after as much of the format as can be read. -/
def strptime : List Conversion → CppString → Tm → Tm
  | [], _, tm => tm
  | conversion :: format, s, tm =>
      match conversion.read s tm with
      | none => tm
      | some (rest, tm) => strptime format rest tm

/-- `%H:%M:%S`, which `%T` stands for. -/
def timeFormat : List Directive := [.hour, .literal ':', .minute, .literal ':', .second]

/-- `%b %d %T`. -/
def syslogFormat : List Conversion :=
  [.plain .month, .plain .blank, .plain .day, .plain .blank, .nested timeFormat]

def convertSyslogTimestampToTm (inputStr : CppString) : Tm := strptime syslogFormat (cStr inputStr) {}

/-! ## Digits -/

def digitChar (d : Nat) : Char := Char.ofNat (48 + d)

theorem digitChar_all : ∀ d < 10, isDigit (digitChar d) = true ∧
    isSpace (digitChar d) = false ∧ (digitChar d).toNat - 48 = d := by
  decide

theorem isDigit_digitChar {d : Nat} (small : d < 10) : isDigit (digitChar d) = true :=
  (digitChar_all d small).1

theorem not_isSpace_digitChar {d : Nat} (small : d < 10) : isSpace (digitChar d) = false :=
  (digitChar_all d small).2.1

theorem value_digitChar {d : Nat} (small : d < 10) : (digitChar d).toNat - 48 = d :=
  (digitChar_all d small).2.2

theorem exists_digitChar {c : Char} (digit : isDigit c = true) : ∃ d < 10, c = digitChar d := by
  simp only [isDigit, Bool.and_eq_true, decide_eq_true_eq] at digit
  have low : 48 ≤ c.toNat := digit.1
  have high : c.toNat ≤ 57 := digit.2
  refine ⟨c.toNat - 48, by omega, ?_⟩
  rw [digitChar, Nat.add_sub_cancel' low, Char.ofNat_toNat]

def twoDigits (n : Nat) : CppString := [digitChar (n / 10), digitChar (n % 10)]

/-! ## Numbers -/

def IsBlank (s : CppString) : Prop := ∀ c ∈ s, isSpace c = true

/-- `n` in two digits, or in one that no second digit can follow. -/
def Numeral (upper n : Nat) (word rest : CppString) : Prop :=
  n < 100 ∧ word = twoDigits n ∨
    n < 10 ∧ word = [digitChar n] ∧ (upper < n * 10 ∨ ∀ c ∈ rest.head?, isDigit c = false)

/-- `s` is `n`, after white space, and `rest`. -/
def SpellsNumber (upper n : Nat) (s rest : CppString) : Prop :=
  ∃ blanks word, s = blanks ++ (word ++ rest) ∧ IsBlank blanks ∧ n ≤ upper ∧
    Numeral upper n word rest

theorem takeNumber_two {upper first : Nat} (second : Nat) (small : first < 10) (small' : second < 10)
    (fits : first * 10 ≤ upper) (s : CppString) :
    takeNumber upper 2 0 (digitChar first :: digitChar second :: s) = (first * 10 + second, s) := by
  simp [takeNumber, isDigit_digitChar small, isDigit_digitChar small', value_digitChar small,
    value_digitChar small', fits]

theorem takeNumber_one {upper first : Nat} (small : first < 10) {s : CppString}
    (last : upper < first * 10 ∨ ∀ c ∈ s.head?, isDigit c = false) :
    takeNumber upper 2 0 (digitChar first :: s) = (first, s) := by
  have here : takeNumber upper 2 0 (digitChar first :: s) = takeNumber upper 1 first s := by
    simp [takeNumber, isDigit_digitChar small, value_digitChar small]
  rw [here]
  cases s with
  | nil => rfl
  | cons c s =>
      have barred : ¬ (isDigit c = true ∧ first * 10 ≤ upper) := by
        rintro ⟨digit, fits⟩
        rcases last with full | other
        · omega
        · rw [other c rfl] at digit
          cases digit
      rw [takeNumber, if_neg barred]

theorem Numeral.takeNumber {upper n : Nat} {word rest : CppString} (fits : n ≤ upper)
    (numeral : Numeral upper n word rest) : takeNumber upper 2 0 (word ++ rest) = (n, rest) := by
  rcases numeral with ⟨small, rfl⟩ | ⟨small, rfl, last⟩
  · have value : n / 10 * 10 + n % 10 = n := by omega
    have two := @takeNumber_two upper (n / 10) (n % 10) (by omega) (by omega) (by omega) rest
    rwa [value] at two
  · exact takeNumber_one small last

theorem Numeral.starts {upper n : Nat} {word rest : CppString} (numeral : Numeral upper n word rest) :
    ∃ d < 10, ∃ more, word = digitChar d :: more := by
  rcases numeral with ⟨small, rfl⟩ | ⟨small, rfl, _⟩
  · exact ⟨n / 10, by omega, _, rfl⟩
  · exact ⟨n, small, _, rfl⟩

theorem numeral_of_digit {upper d : Nat} (small : d < 10) (s : CppString) :
    ∃ n word rest, digitChar d :: s = word ++ rest ∧ Numeral upper n word rest ∧
      takeNumber upper 2 0 (digitChar d :: s) = (n, rest) := by
  by_cases last : upper < d * 10 ∨ ∀ c ∈ s.head?, isDigit c = false
  · exact ⟨d, [digitChar d], s, rfl, .inr ⟨small, rfl, last⟩, takeNumber_one small last⟩
  · simp only [not_or, Nat.not_lt, not_forall, Bool.not_eq_false] at last
    obtain ⟨fits, c, member, digit⟩ := last
    obtain ⟨rest, rfl⟩ := List.head?_eq_some_iff.mp member
    obtain ⟨e, small', rfl⟩ := exists_digitChar digit
    have tens : (d * 10 + e) / 10 = d := by omega
    have units : (d * 10 + e) % 10 = e := by omega
    have word : twoDigits (d * 10 + e) = [digitChar d, digitChar e] := by
      rw [twoDigits, tens, units]
    exact ⟨d * 10 + e, twoDigits (d * 10 + e), rest, by rw [word]; rfl, .inl ⟨by omega, rfl⟩,
      takeNumber_two e small small' fits rest⟩

/-- What `getNumber` reads is a number in one digit or two. -/
theorem getNumber_eq_some_iff {lower upper n : Nat} {s rest : CppString} :
    getNumber lower upper s = some (n, rest) ↔ SpellsNumber upper n s rest ∧ lower ≤ n := by
  constructor
  · intro read
    have split := List.takeWhile_append_dropWhile (p := isSpace) (l := s)
    have blanks : IsBlank (s.takeWhile isSpace) := by
      intro c member
      exact List.mem_takeWhile_imp member
    unfold getNumber at read
    cases start : s.dropWhile isSpace with
    | nil =>
        rw [start] at read
        cases read
    | cons c more =>
        rw [start] at read
        cases digit : isDigit c with
        | false => simp [digit] at read
        | true =>
            obtain ⟨d, small, rfl⟩ := exists_digitChar digit
            obtain ⟨value, word, left, shape, numeral, taken⟩ :=
              @numeral_of_digit upper d small more
            simp only [digit, if_true, taken, Option.ite_none_right_eq_some, Option.some.injEq,
              Prod.mk.injEq] at read
            obtain ⟨⟨low, high⟩, rfl, rfl⟩ := read
            exact ⟨⟨_, word, by rw [← shape, ← start, split], blanks, high, numeral⟩, low⟩
  · rintro ⟨⟨blanks, word, rfl, isBlank, high, numeral⟩, low⟩
    obtain ⟨d, small, more, shape⟩ := numeral.starts
    have taken := numeral.takeNumber high
    have start : (blanks ++ (word ++ rest)).dropWhile isSpace = digitChar d :: (more ++ rest) := by
      rw [List.dropWhile_append_of_pos isBlank, shape, List.cons_append,
        List.dropWhile_cons_of_neg (by simp [not_isSpace_digitChar small])]
    rw [shape, List.cons_append] at taken
    unfold getNumber
    rw [start]
    simp only [isDigit_digitChar small, if_true, taken]
    simp [low, high]

theorem getNumber_dropWhile (lower upper : Nat) (s : CppString) :
    getNumber lower upper (s.dropWhile isSpace) = getNumber lower upper s := by
  unfold getNumber
  rw [List.dropWhile_idempotent]

/-! ## Month names -/

def isLetter (c : Char) : Bool := ('A' ≤ c && c ≤ 'Z') || ('a' ≤ c && c ≤ 'z')

theorem isLetter_of_toLower {c : Char} (letter : isLetter c.toLower = true) : isLetter c = true := by
  by_cases upper : 'A' ≤ c ∧ c ≤ 'Z'
  · simp [isLetter, upper]
  · have same : c.toLower = c := dif_neg upper
    rwa [same] at letter

/-- A name of the month, in full or abbreviated, in any case. -/
def SpellsMonth (m : Fin 12) (name : CppString) : Prop :=
  ∃ full ∈ [month.get m, abMonth.get m], name.map Char.toLower = full.toList.map Char.toLower

theorem SpellsMonth.letters {m : Fin 12} {name : CppString} (spelt : SpellsMonth m name) :
    ∀ c ∈ name, isLetter c = true := by
  obtain ⟨full, known, same⟩ := spelt
  have lower : ∀ m : Fin 12, ∀ full ∈ [month.get m, abMonth.get m],
      (full.toList.map Char.toLower).all isLetter = true := by
    decide +kernel
  intro c member
  apply isLetter_of_toLower
  apply List.all_eq_true.mp (lower m full known)
  rw [← same]
  exact List.mem_map_of_mem member

/-- No two months have a name in common. -/
theorem SpellsMonth.unique {m m' : Fin 12} {name : CppString} (spelt : SpellsMonth m name)
    (spelt' : SpellsMonth m' name) : m = m' := by
  have apart : ∀ m m' : Fin 12, ∀ full ∈ [month.get m, abMonth.get m],
      ∀ full' ∈ [month.get m', abMonth.get m'],
        full.toList.map Char.toLower = full'.toList.map Char.toLower → m = m' := by
    decide +kernel
  obtain ⟨full, known, same⟩ := spelt
  obtain ⟨full', known', same'⟩ := spelt'
  exact apart m m' full known full' known' (same.symm.trans same')

theorem matchString_eq_some_iff {name s rest : CppString} : matchString name s = some rest ↔
    ∃ front, s = front ++ rest ∧ front.map Char.toLower = name.map Char.toLower := by
  unfold matchString
  constructor
  · intro matched
    rw [Option.ite_none_right_eq_some] at matched
    obtain ⟨same, left⟩ := matched
    rw [← Option.some.inj left]
    exact ⟨s.take name.length, (List.take_append_drop _ _).symm, same⟩
  · rintro ⟨front, rfl, same⟩
    have width : front.length = name.length := by
      simpa using congrArg List.length same
    rw [← width, List.take_left, if_pos same, List.drop_left]

/-- What is kept while the names are tried. -/
def BestSpells (s : CppString) (best : Option (Fin 12 × CppString)) : Prop :=
  ∀ m rest, best = some (m, rest) → ∃ name, s = name ++ rest ∧ SpellsMonth m name

theorem BestSpells.tryName {s : CppString} {best : Option (Fin 12 × CppString)} (kept : BestSpells s best)
    {m : Fin 12} {full : String} (known : full ∈ [month.get m, abMonth.get m]) :
    BestSpells s (tryName s m best full) := by
  unfold StoringDevices.tryName
  cases matched : matchString full.toList s with
  | none => exact kept
  | some rest =>
      obtain ⟨front, split, same⟩ := matchString_eq_some_iff.mp matched
      have new : BestSpells s (some (m, rest)) := by
        intro m' rest' here
        cases here
        exact ⟨front, split, full, known, same⟩
      cases best with
      | none => exact new
      | some old =>
          dsimp only
          split
          · exact new
          · exact kept

theorem parseMonth_spells (s : CppString) : BestSpells s (parseMonth s) := by
  apply List.foldlRecOn
  · intro m rest absent
    cases absent
  · intro best kept m _
    apply List.foldlRecOn
    · exact kept
    · intro best kept full known
      exact kept.tryName known

/-- Something was found that leaves at most `most` characters. -/
def Leaves (most : Nat) (best : Option (Fin 12 × CppString)) : Prop :=
  ∃ m rest, best = some (m, rest) ∧ rest.length ≤ most

theorem leaves_tryName {s : CppString} {m : Fin 12} {best : Option (Fin 12 × CppString)}
    {full : String} {most : Nat}
    (here : Leaves most best ∨ ∃ rest, matchString full.toList s = some rest ∧ rest.length ≤ most) :
    Leaves most (tryName s m best full) := by
  unfold StoringDevices.tryName
  cases matched : matchString full.toList s with
  | none =>
      rcases here with before | ⟨rest, found, _⟩
      · exact before
      · rw [matched] at found
        cases found
  | some rest =>
      cases best with
      | none =>
          rcases here with ⟨_, _, absent, _⟩ | ⟨rest', found, short⟩
          · cases absent
          · rw [matched] at found
            cases found
            exact ⟨m, rest, rfl, short⟩
      | some old =>
          obtain ⟨m', rest'⟩ := old
          dsimp only
          rcases here with ⟨_, _, before, short⟩ | ⟨_, found, short⟩
          · cases before
            split
            · exact ⟨m, rest, rfl, by omega⟩
            · exact ⟨m', rest', rfl, short⟩
          · rw [matched] at found
            cases found
            split
            · exact ⟨m, rest, rfl, short⟩
            · exact ⟨m', rest', rfl, by omega⟩

theorem leaves_parseMonth {s rest : CppString} {m : Fin 12} {full : String}
    (known : full ∈ [month.get m, abMonth.get m]) (matched : matchString full.toList s = some rest) :
    Leaves rest.length (parseMonth s) := by
  apply Lists.foldl_of_mem (List.mem_finRange m)
  · intro best
    apply Lists.foldl_of_mem known
    · intro best
      exact leaves_tryName (.inr ⟨rest, matched, le_rfl⟩)
    · intro best kept full
      exact leaves_tryName (.inl kept)
  · intro best kept m'
    apply List.foldlRecOn
    · exact kept
    · intro best kept full _
      exact leaves_tryName (.inl kept)

/-- A name with no letter after it is read as its month. -/
theorem parseMonth_of_spells {m : Fin 12} {name : CppString} (spelt : SpellsMonth m name) {c : Char}
    (ends : isLetter c = false) (rest : CppString) :
    parseMonth (name ++ c :: rest) = some (m, c :: rest) := by
  obtain ⟨full, known, same⟩ := id spelt
  obtain ⟨m', rest', found, short⟩ :=
    leaves_parseMonth known (matchString_eq_some_iff.mpr ⟨name, rfl, same⟩)
  obtain ⟨name', split, spelt'⟩ := parseMonth_spells _ m' rest' found
  rcases List.append_eq_append_iff.mp split with ⟨more, rfl, whole⟩ | ⟨more, rfl, whole⟩
  · cases more with
    | nil =>
        rw [List.append_nil] at spelt'
        rw [found, spelt.unique spelt', whole, List.nil_append]
    | cons d more =>
        cases whole
        have letter := spelt'.letters c (by simp)
        rw [ends] at letter
        cases letter
  · cases more with
    | nil =>
        rw [List.append_nil] at spelt
        rw [found, spelt.unique spelt', whole, List.nil_append]
    | cons d more =>
        rw [whole, List.length_append] at short
        simp at short

/-! ## A date and time of day -/

/-- A time of day, as `%T` reads it. -/
def SpellsClock (hour minute second : Nat) (s : CppString) : Prop :=
  ∃ fromMinute fromSecond rest, SpellsNumber 23 hour s (':' :: fromMinute) ∧
    SpellsNumber 59 minute fromMinute (':' :: fromSecond) ∧ SpellsNumber 61 second fromSecond rest

theorem matchChar_eq_some_iff {c : Char} {s rest : CppString} :
    matchChar c s = some rest ↔ s = c :: rest := by
  cases s with
  | nil => simp [matchChar]
  | cons d s => simp [matchChar]

theorem SpellsClock.recursive {hour minute second : Nat} {s : CppString}
    (spelt : SpellsClock hour minute second s) (tm : Tm) :
    ∃ rest, recursive timeFormat s tm =
      some (rest, { tm with tmHour := hour, tmMin := minute, tmSec := second }) := by
  obtain ⟨fromMinute, fromSecond, rest, first, next, last⟩ := spelt
  have readHour := getNumber_eq_some_iff.mpr ⟨first, Nat.zero_le hour⟩
  have readMinute := getNumber_eq_some_iff.mpr ⟨next, Nat.zero_le minute⟩
  have readSecond := getNumber_eq_some_iff.mpr ⟨last, Nat.zero_le second⟩
  refine ⟨rest, ?_⟩
  simp [timeFormat, StoringDevices.recursive, Directive.read, readHour, readMinute, readSecond,
    matchChar]

theorem spells_of_recursive {s rest : CppString} {tm read : Tm}
    (success : recursive timeFormat s tm = some (rest, read)) :
    ∃ hour minute second, SpellsClock hour minute second s ∧
      read = { tm with tmHour := hour, tmMin := minute, tmSec := second } := by
  simp only [timeFormat, recursive, Directive.read, Option.bind_eq_some_iff, Option.map_eq_some_iff,
    Prod.exists, Prod.mk.injEq, matchChar_eq_some_iff, Option.some.injEq, getNumber_eq_some_iff]
    at success
  obtain ⟨_, _, ⟨hour, fromHour, ⟨readHour, _⟩, rfl, rfl⟩, _, _, ⟨fromMinute, rfl, rfl, rfl⟩, _, _,
    ⟨minute, fromMinute', ⟨readMinute, _⟩, rfl, rfl⟩, _, _, ⟨fromSecond, rfl, rfl, rfl⟩, _, _,
    ⟨second, left, ⟨readSecond, _⟩, rfl, rfl⟩, _, rfl⟩ := success
  exact ⟨hour, minute, second, ⟨_, _, _, readHour, readMinute, readSecond⟩, rfl⟩

theorem recursive_dropWhile (s : CppString) (tm : Tm) :
    recursive timeFormat (s.dropWhile isSpace) tm = recursive timeFormat s tm := by
  simp only [timeFormat, recursive, Directive.read, getNumber_dropWhile]

theorem SpellsNumber.starts {upper n : Nat} {s rest : CppString} (spelt : SpellsNumber upper n s rest) :
    ∃ c more, s = c :: more ∧ isLetter c = false := by
  obtain ⟨blanks, word, rfl, isBlank, _, numeral⟩ := spelt
  cases blanks with
  | nil =>
      obtain ⟨d, small, more, rfl⟩ := numeral.starts
      have noLetter : ∀ d < 10, isLetter (digitChar d) = false := by decide
      exact ⟨digitChar d, more ++ rest, rfl, noLetter d small⟩
  | cons c blanks =>
      have space := isBlank c List.mem_cons_self
      simp only [isSpace, Bool.or_eq_true, decide_eq_true_eq] at space
      refine ⟨c, _, rfl, ?_⟩
      rcases space with ((((rfl | rfl) | rfl) | rfl) | rfl) | rfl <;> decide

/-- The month and the day are kept, whatever comes of the time of day. -/
theorem strptime_of_spells {m : Fin 12} {name afterName afterDay : CppString} {n : Nat}
    (month : SpellsMonth m name) (day : SpellsNumber 31 n afterName afterDay) (pos : 1 ≤ n) :
    strptime syslogFormat (name ++ afterName) {} =
      ((recursive timeFormat afterDay { tmMon := m, tmMday := n }).map Prod.snd).getD
        { tmMon := m, tmMday := n } := by
  obtain ⟨c, more, rfl, ends⟩ := day.starts
  have readMonth := parseMonth_of_spells month ends more
  have readDay := getNumber_eq_some_iff.mpr ⟨day, pos⟩
  simp only [syslogFormat, strptime, Conversion.read, Directive.read, readMonth, Option.map_some,
    getNumber_dropWhile, readDay, recursive_dropWhile]
  cases recursive timeFormat afterDay { tmMon := m, tmMday := n } <;> rfl

theorem spells_of_strptime {s : CppString} (day : (strptime syslogFormat s {}).tmMday ≠ 0) :
    ∃ m n name afterName afterDay, s = name ++ afterName ∧ SpellsMonth m name ∧
      SpellsNumber 31 n afterName afterDay ∧ 1 ≤ n := by
  simp only [syslogFormat, strptime, Conversion.read, Directive.read] at day
  cases readMonth : parseMonth s with
  | none =>
      rw [readMonth] at day
      exact absurd rfl day
  | some found =>
      obtain ⟨m, afterName⟩ := found
      obtain ⟨name, split, spelt⟩ := parseMonth_spells s m afterName readMonth
      simp only [readMonth, Option.map_some, getNumber_dropWhile] at day
      cases readDay : getNumber 1 31 afterName with
      | none =>
          rw [readDay] at day
          exact absurd rfl day
      | some read =>
          obtain ⟨n, afterDay⟩ := read
          obtain ⟨number, pos⟩ := getNumber_eq_some_iff.mp readDay
          exact ⟨m, n, name, afterName, afterDay, split, spelt, number, pos⟩

/-! ## The header of a line -/

def paddedDay (n : Nat) : CppString := if n < 10 then [' ', digitChar n] else twoDigits n

/-- A date and time of day as the header of a line gives it. -/
structure SyslogTime where
  month : Fin 12
  day : Nat
  hour : Nat
  minute : Nat
  second : Nat
  day_pos : 1 ≤ day
  day_le : (day : Int) ≤
    Calendar.daysBeforeMonth true (month + 1) - Calendar.daysBeforeMonth true month
  hour_lt : hour < 24
  minute_lt : minute < 60
  second_lt : second < 60

namespace SyslogTime
variable (time : SyslogTime)

def clockText : CppString :=
  twoDigits time.hour ++ (':' :: (twoDigits time.minute ++ (':' :: twoDigits time.second)))

def text : CppString :=
  (abMonth.get time.month).toList ++ (' ' :: (paddedDay time.day ++ (' ' :: time.clockText)))

def tm : Tm where
  tmSec := time.second
  tmMin := time.minute
  tmHour := time.hour
  tmMday := time.day
  tmMon := time.month

theorem day_le_31 : time.day ≤ 31 := by
  have lengths : ∀ m : Fin 12, Calendar.daysBeforeMonth true (m + 1) -
      Calendar.daysBeforeMonth true m ≤ 31 := by decide
  have here := lengths time.month
  have day := time.day_le
  omega

end SyslogTime

/-! ## Reading the header back -/

/-- `s` is the month and the day of `time`, and a time of day as `time` has it;
or it has no time of day, and `time` is midnight. -/
def SpellsStamp (time : SyslogTime) (s : CppString) : Prop :=
  ∃ name afterName afterDay, s = name ++ afterName ∧ SpellsMonth time.month name ∧
    SpellsNumber 31 time.day afterName afterDay ∧
    (SpellsClock time.hour time.minute time.second afterDay ∨
      (time.hour = 0 ∧ time.minute = 0 ∧ time.second = 0) ∧
        ∀ hour minute second, ¬ SpellsClock hour minute second afterDay)

theorem sameStamp_tm_iff {time : SyslogTime} {read : Tm} : SameStamp read time.tm ↔
    read.tmMon = time.month ∧ read.tmMday = time.day ∧ read.tmHour = time.hour ∧
      read.tmMin = time.minute ∧ read.tmSec = time.second := Iff.rfl

/-- What is read has the fields of the header just where the text spells them. -/
theorem strptime_iff (time : SyslogTime) (s : CppString) :
    SameStamp (strptime syslogFormat s {}) time.tm ↔ SpellsStamp time s := by
  have pos := time.day_pos
  rw [sameStamp_tm_iff]
  constructor
  · intro same
    obtain ⟨m, n, name, afterName, afterDay, rfl, month, day, pos'⟩ := spells_of_strptime (s := s) (by
      rw [same.2.1]
      omega)
    rw [strptime_of_spells month day pos'] at same
    cases read : recursive timeFormat afterDay { tmMon := m, tmMday := n } with
    | none =>
        rw [read] at same
        obtain ⟨rfl, sameDay, hour, minute, second⟩ := same
        cases Int.ofNat.inj sameDay
        refine ⟨name, afterName, afterDay, rfl, month, day, .inr ⟨⟨?_, ?_, ?_⟩, ?_⟩⟩
        · exact (Int.ofNat.inj hour).symm
        · exact (Int.ofNat.inj minute).symm
        · exact (Int.ofNat.inj second).symm
        · intro hour minute second spelt
          obtain ⟨rest, success⟩ := spelt.recursive { tmMon := time.month, tmMday := time.day }
          rw [read] at success
          cases success
    | some parsed =>
        obtain ⟨rest, fields⟩ := parsed
        obtain ⟨hour, minute, second, spelt, rfl⟩ := spells_of_recursive read
        rw [read] at same
        obtain ⟨rfl, sameDay, sameHour, sameMinute, sameSecond⟩ := same
        cases Int.ofNat.inj sameDay
        cases Int.ofNat.inj sameHour
        cases Int.ofNat.inj sameMinute
        cases Int.ofNat.inj sameSecond
        exact ⟨name, afterName, afterDay, rfl, month, day, .inl spelt⟩
  · rintro ⟨name, afterName, afterDay, rfl, month, day, clock⟩
    rw [strptime_of_spells month day pos]
    rcases clock with spelt | ⟨⟨hour, minute, second⟩, noClock⟩
    · obtain ⟨rest, success⟩ := spelt.recursive { tmMon := time.month, tmMday := time.day }
      rw [success]
      exact ⟨rfl, rfl, rfl, rfl, rfl⟩
    · cases read : recursive timeFormat afterDay { tmMon := time.month, tmMday := time.day } with
      | none => exact ⟨rfl, rfl, by rw [hour]; rfl, by rw [minute]; rfl, by rw [second]; rfl⟩
      | some parsed =>
          obtain ⟨hour, minute, second, spelt, _⟩ := spells_of_recursive read
          exact absurd spelt (noClock hour minute second)

theorem spellsNumber_twoDigits {upper n : Nat} (high : n ≤ upper) (small : n < 100)
    (rest : CppString) : SpellsNumber upper n (twoDigits n ++ rest) rest :=
  ⟨[], twoDigits n, rfl, by simp [IsBlank], high, .inl ⟨small, rfl⟩⟩

theorem SpellsNumber.blank {upper n : Nat} {s rest : CppString} (spelt : SpellsNumber upper n s rest) :
    SpellsNumber upper n (' ' :: s) rest := by
  obtain ⟨blanks, word, rfl, isBlank, high, numeral⟩ := spelt
  exact ⟨' ' :: blanks, word, rfl, List.forall_mem_cons.mpr ⟨rfl, isBlank⟩, high, numeral⟩

theorem spellsNumber_paddedDay {n : Nat} (high : n ≤ 31) (rest : CppString) :
    SpellsNumber 31 n (paddedDay n ++ (' ' :: rest)) (' ' :: rest) := by
  unfold paddedDay
  split
  · next small =>
      have ends : ∀ c ∈ (' ' :: rest).head?, isDigit c = false := by
        intro c first
        cases first
        rfl
      exact ⟨[' '], [digitChar n], rfl, by simp [IsBlank, isSpace], high,
        .inr ⟨small, rfl, .inr ends⟩⟩
  · exact spellsNumber_twoDigits high (by omega) _

/-- The header is read, whatever follows it. -/
theorem strptime_text (time : SyslogTime) (more : CppString) :
    strptime syslogFormat (time.text ++ more) {} = time.tm := by
  have hour := time.hour_lt
  have minute := time.minute_lt
  have second := time.second_lt
  have split : time.text ++ more = (abMonth.get time.month).toList ++ (' ' ::
      (paddedDay time.day ++ (' ' :: (twoDigits time.hour ++ (':' :: (twoDigits time.minute ++
        (':' :: (twoDigits time.second ++ more)))))))) := by
    simp [SyslogTime.text, SyslogTime.clockText]
  have month : SpellsMonth time.month (abMonth.get time.month).toList := ⟨_, by simp, rfl⟩
  have day := (spellsNumber_paddedDay time.day_le_31 (twoDigits time.hour ++ (':' ::
    (twoDigits time.minute ++ (':' :: (twoDigits time.second ++ more)))))).blank
  have clock : SpellsClock time.hour time.minute time.second (' ' :: (twoDigits time.hour ++ (':' ::
      (twoDigits time.minute ++ (':' :: (twoDigits time.second ++ more)))))) :=
    ⟨_, _, _, (spellsNumber_twoDigits (by omega) (by omega) _).blank,
      spellsNumber_twoDigits (by omega) (by omega) _, spellsNumber_twoDigits (by omega) (by omega) _⟩
  obtain ⟨rest, success⟩ := clock.recursive { tmMon := time.month, tmMday := time.day }
  rw [split, strptime_of_spells month day time.day_pos, success]
  rfl

/-- Neither a line terminator nor a NUL. -/
def isInLine (c : Char) : Bool := c ≠ '\n' && c ≠ '\r' && c ≠ '\x00'

theorem isInLine_of_isDigit {c : Char} (digit : isDigit c = true) : isInLine c = true := by
  cases inLine : isInLine c with
  | true => rfl
  | false =>
      exfalso
      simp only [isInLine, Bool.and_eq_false_iff, decide_eq_false_iff_not, not_not] at inLine
      rcases inLine with (rfl | rfl) | rfl <;> revert digit <;> decide

theorem isInLine_twoDigits {n : Nat} (small : n < 100) : ∀ c ∈ twoDigits n, isInLine c = true := by
  intro c member
  simp only [twoDigits, List.mem_cons, List.not_mem_nil, or_false] at member
  rcases member with rfl | rfl
  · exact isInLine_of_isDigit (isDigit_digitChar (by omega))
  · exact isInLine_of_isDigit (isDigit_digitChar (by omega))

theorem abMonth_letters (m : Fin 12) : ∃ a b c : Char, (abMonth.get m).toList = [a, b, c] ∧
    (isLetter a = true ∧ isLetter b = true ∧ isLetter c = true) ∧
    (isInLine a = true ∧ isInLine b = true ∧ isInLine c = true) := by
  fin_cases m <;> exact ⟨_, _, _, rfl, by decide, by decide⟩

theorem clockText_inLine (time : SyslogTime) : ∀ c ∈ time.clockText, isInLine c = true := by
  have hour := time.hour_lt
  have minute := time.minute_lt
  have second := time.second_lt
  intro c member
  unfold SyslogTime.clockText at member
  rcases List.mem_append.mp member with inHour | rest
  · exact isInLine_twoDigits (by omega) c inHour
  · rcases List.mem_cons.mp rest with rfl | rest
    · decide
    · rcases List.mem_append.mp rest with inMinute | rest
      · exact isInLine_twoDigits (by omega) c inMinute
      · rcases List.mem_cons.mp rest with rfl | inSecond
        · decide
        · exact isInLine_twoDigits (by omega) c inSecond

theorem paddedDay_inLine (time : SyslogTime) : ∀ c ∈ paddedDay time.day, isInLine c = true := by
  have high := time.day_le_31
  intro c member
  unfold paddedDay at member
  split at member
  · next small =>
      rcases List.mem_cons.mp member with rfl | unit
      · decide
      · rw [List.mem_singleton.mp unit]
        exact isInLine_of_isDigit (isDigit_digitChar small)
  · exact isInLine_twoDigits (by omega) c member

theorem text_inLine (time : SyslogTime) : ∀ c ∈ time.text, isInLine c = true := by
  obtain ⟨x, y, z, letters, _, inLine⟩ := abMonth_letters time.month
  intro c member
  unfold SyslogTime.text at member
  rw [letters] at member
  rcases List.mem_append.mp member with inMonth | rest
  · simp only [List.mem_cons, List.not_mem_nil, or_false] at inMonth
    rcases inMonth with rfl | rfl | rfl
    · exact inLine.1
    · exact inLine.2.1
    · exact inLine.2.2
  · rcases List.mem_cons.mp rest with rfl | rest
    · decide
    · rcases List.mem_append.mp rest with inDay | rest
      · exact paddedDay_inLine time c inDay
      · rcases List.mem_cons.mp rest with rfl | inClock
        · decide
        · exact clockText_inLine time c inClock

theorem text_noNul (time : SyslogTime) : '\x00' ∉ time.text := by
  intro member
  exact absurd (text_inLine time _ member) (by decide)

theorem convert_text (time : SyslogTime) (more : CppString) :
    convertSyslogTimestampToTm (time.text ++ more) = time.tm := by
  have noNul : ∀ c ∈ time.text, c ≠ '\x00' := by
    intro c member nul
    exact text_noNul time (nul ▸ member)
  unfold convertSyslogTimestampToTm
  rw [cStr_append noNul, strptime_text]

end StoringDevices
