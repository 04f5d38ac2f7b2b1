import Mathlib.Algebra.Order.Group.Int
import Mathlib.Data.Fin.Basic
import Mathlib.Order.Monotone.Basic

/-! # The proleptic Gregorian calendar

Dates and times of day as numbers of seconds from 1970 on.  `toSeconds` is linear
in the day and the time of day, so it also reads fields that are out of range;
`ofSeconds` gives the fields of an instant, and is its inverse on valid fields. -/
set_option autoImplicit false

namespace Calendar

/-! ## The step of an increasing sequence that holds a value -/

/-- The last index up to `n` whose value is at most `x`. -/
def locate (f : Nat → Int) (x : Int) : Nat → Nat
  | 0 => 0
  | n + 1 => if f (n + 1) ≤ x then n + 1 else locate f x n

theorem locate_le (f : Nat → Int) (x : Int) (n : Nat) : locate f x n ≤ n := by
  induction n with
  | zero => exact Nat.le_refl 0
  | succ n ih =>
      rw [locate]
      split
      · exact Nat.le_refl _
      · omega

theorem locate_lower {f : Nat → Int} {x : Int} (start : f 0 ≤ x) (n : Nat) :
    f (locate f x n) ≤ x := by
  induction n with
  | zero => exact start
  | succ n ih =>
      rw [locate]
      split
      · next here => exact here
      · exact ih

theorem locate_upper {f : Nat → Int} {x : Int} (n : Nat) (beyond : x < f (n + 1)) :
    x < f (locate f x n + 1) := by
  induction n with
  | zero => exact beyond
  | succ n ih =>
      rw [locate]
      split
      · exact beyond
      · next here => exact ih (by omega)

/-- Steps of an increasing sequence do not overlap. -/
theorem step_unique {f : Int → Int} (rises : ∀ n, f n < f (n + 1)) {a b x : Int} (lower : f a ≤ x)
    (upper : x < f (a + 1)) (lower' : f b ≤ x) (upper' : x < f (b + 1)) : a = b := by
  have increasing := strictMono_int_of_lt_succ rises
  have below : a < b + 1 := increasing.lt_iff_lt.mp (by omega)
  have above : b < a + 1 := increasing.lt_iff_lt.mp (by omega)
  omega

/-! ## Years -/

def isLeapYear (year : Int) : Bool := year % 4 = 0 ∧ (year % 100 ≠ 0 ∨ year % 400 = 0)

def leapDay (year : Int) : Int := if isLeapYear year then 1 else 0

/-- The days from 1970 to the start of a year. -/
def daysBeforeYear (year : Int) : Int :=
  365 * (year - 1970) + ((year - 1) / 4 - (year - 1) / 100 + (year - 1) / 400) - 477

theorem leapDay_eq (year : Int) : leapDay year =
    if year % 4 = 0 ∧ (year % 100 ≠ 0 ∨ year % 400 = 0) then 1 else 0 := by
  simp [leapDay, isLeapYear]

theorem leapDay_bounds (year : Int) : 0 ≤ leapDay year ∧ leapDay year ≤ 1 := by
  rw [leapDay_eq]
  split <;> omega

theorem daysBeforeYear_succ (year : Int) :
    daysBeforeYear (year + 1) = daysBeforeYear year + 365 + leapDay year := by
  rw [leapDay_eq]
  unfold daysBeforeYear
  split <;> omega

theorem daysBeforeYear_lt_succ (year : Int) : daysBeforeYear year < daysBeforeYear (year + 1) := by
  have bounds := leapDay_bounds year
  rw [daysBeforeYear_succ]
  omega

theorem daysBeforeYear_le {year year' : Int} (earlier : year ≤ year') :
    daysBeforeYear year ≤ daysBeforeYear year' :=
  (strictMono_int_of_lt_succ daysBeforeYear_lt_succ).monotone earlier

/-- 400 years have 146097 days. -/
theorem daysBeforeYear_mean (year : Int) :
    146097 * (year - 1970) - 1000 ≤ 400 * daysBeforeYear year ∧
      400 * daysBeforeYear year ≤ 146097 * (year - 1970) + 1000 := by
  unfold daysBeforeYear
  omega

/-- A guess from the mean length of a year, which is at most two too late. -/
def yearOfDay (day : Int) : Int :=
  let guess := 1971 + day * 400 / 146097
  if day < daysBeforeYear (guess - 1) then guess - 2
  else if day < daysBeforeYear guess then guess - 1
  else guess

theorem yearOfDay_spec (day : Int) :
    daysBeforeYear (yearOfDay day) ≤ day ∧ day < daysBeforeYear (yearOfDay day + 1) := by
  have early := daysBeforeYear_mean (1971 + day * 400 / 146097 - 2)
  have late := daysBeforeYear_mean (1971 + day * 400 / 146097 + 1)
  unfold yearOfDay
  simp only
  split
  · next before =>
      refine ⟨by omega, ?_⟩
      have next_ : 1971 + day * 400 / 146097 - 2 + 1 = 1971 + day * 400 / 146097 - 1 := by omega
      rw [next_]
      exact before
  · next after =>
      split
      · next before =>
          refine ⟨by omega, ?_⟩
          rw [Int.sub_add_cancel]
          exact before
      · next after => exact ⟨by omega, by omega⟩

theorem yearOfDay_unique {day year : Int} (lower : daysBeforeYear year ≤ day)
    (upper : day < daysBeforeYear (year + 1)) : yearOfDay day = year :=
  step_unique daysBeforeYear_lt_succ (yearOfDay_spec day).1 (yearOfDay_spec day).2 lower upper

/-! ## Months -/

/-- The days from the start of a year to the start of a month, counted from 0. -/
def daysBeforeMonth (leap : Bool) (month : Nat) : Int :=
  [0, 31, 59, 90, 120, 151, 181, 212, 243, 273, 304, 334, 365].getD month 365 +
    if leap ∧ 2 ≤ month then 1 else 0

def january : Fin 12 := 0

def monthOfDay (leap : Bool) (day : Int) : Fin 12 :=
  ⟨locate (daysBeforeMonth leap) day 11, Nat.lt_succ_of_le (locate_le _ _ 11)⟩

theorem daysBeforeMonth_le (leap : Bool) :
    ∀ m < 13, ∀ n < 13, m ≤ n → daysBeforeMonth leap m ≤ daysBeforeMonth leap n := by
  cases leap <;> decide

theorem daysBeforeMonth_zero (leap : Bool) : daysBeforeMonth leap 0 = 0 := by
  cases leap <;> rfl

theorem daysBeforeMonth_year (year : Int) :
    daysBeforeMonth (isLeapYear year) 12 = 365 + leapDay year := by
  unfold leapDay
  cases isLeapYear year <;> rfl

/-- The 29th of February moves the later months by one day. -/
theorem daysBeforeMonth_leap (leap leap' : Bool) (month : Nat) :
    daysBeforeMonth leap month - daysBeforeMonth leap' month ≤ (if leap then 1 else 0) ∧
      -(if leap' then 1 else 0) ≤ daysBeforeMonth leap month - daysBeforeMonth leap' month := by
  unfold daysBeforeMonth
  cases leap <;> cases leap' <;> by_cases late : 2 ≤ month <;> simp [late]

theorem monthOfDay_spec {leap : Bool} {day : Int} (first : 0 ≤ day)
    (last : day < daysBeforeMonth leap 12) :
    daysBeforeMonth leap (monthOfDay leap day) ≤ day ∧
      day < daysBeforeMonth leap (monthOfDay leap day + 1) :=
  ⟨locate_lower (by rw [daysBeforeMonth_zero]; exact first) 11, locate_upper 11 last⟩

theorem monthOfDay_unique {leap : Bool} {day : Int} {month : Fin 12} (first : 0 ≤ day)
    (lower : daysBeforeMonth leap month ≤ day) (upper : day < daysBeforeMonth leap (month + 1)) :
    monthOfDay leap day = month := by
  have inside := month.isLt
  have last : day < daysBeforeMonth leap 12 :=
    Int.lt_of_lt_of_le upper (daysBeforeMonth_le leap _ (by omega) _ (by omega) (by omega))
  obtain ⟨lower', upper'⟩ := monthOfDay_spec first last
  have bound := (monthOfDay leap day).isLt
  apply Fin.ext
  rcases Nat.lt_trichotomy (monthOfDay leap day).val month.val with before | same | after
  · have order := daysBeforeMonth_le leap ((monthOfDay leap day).val + 1) (by omega) month.val
      (by omega) before
    omega
  · exact same
  · have order := daysBeforeMonth_le leap (month.val + 1) (by omega) (monthOfDay leap day).val
      (by omega) after
    omega

/-! ## Fields and seconds -/

structure Civil where
  year : Int
  month : Fin 12
  day : Int
  hour : Int
  minute : Int
  second : Int
  deriving DecidableEq

namespace Civil

def daysBefore (date : Civil) : Int :=
  daysBeforeYear date.year + daysBeforeMonth (isLeapYear date.year) date.month

def toSeconds (date : Civil) : Int :=
  (date.daysBefore + (date.day - 1)) * 86400 + date.hour * 3600 + date.minute * 60 + date.second

/-- Fields as they can be read off a calendar and a clock. -/
structure Valid (date : Civil) : Prop where
  day_pos : 1 ≤ date.day
  day_le : daysBeforeMonth (isLeapYear date.year) date.month + date.day ≤
    daysBeforeMonth (isLeapYear date.year) (date.month + 1)
  hour : 0 ≤ date.hour ∧ date.hour < 24
  minute : 0 ≤ date.minute ∧ date.minute < 60
  second : 0 ≤ date.second ∧ date.second < 60

/-- The same month, day and time of day. -/
def SameStamp (date date' : Civil) : Prop :=
  date.month = date'.month ∧ date.day = date'.day ∧ date.hour = date'.hour ∧
    date.minute = date'.minute ∧ date.second = date'.second

instance (date date' : Civil) : Decidable (SameStamp date date') :=
  inferInstanceAs (Decidable (_ ∧ _))

theorem SameStamp.symm {date date' : Civil} (same : date.SameStamp date') :
    date'.SameStamp date :=
  ⟨same.1.symm, same.2.1.symm, same.2.2.1.symm, same.2.2.2.1.symm, same.2.2.2.2.symm⟩

theorem SameStamp.trans {a b c : Civil} (first : a.SameStamp b) (second : b.SameStamp c) :
    a.SameStamp c :=
  ⟨first.1.trans second.1, first.2.1.trans second.2.1, first.2.2.1.trans second.2.2.1,
    first.2.2.2.1.trans second.2.2.2.1, first.2.2.2.2.trans second.2.2.2.2⟩

end Civil

/-- The fields of an instant. -/
def ofSeconds (seconds : Int) : Civil :=
  let day := seconds / 86400
  let year := yearOfDay day
  let month := monthOfDay (isLeapYear year) (day - daysBeforeYear year)
  { year := year
    month := month
    day := day - daysBeforeYear year - daysBeforeMonth (isLeapYear year) month + 1
    hour := seconds % 86400 / 3600
    minute := seconds % 3600 / 60
    second := seconds % 60 }

theorem toSeconds_ofSeconds (seconds : Int) : (ofSeconds seconds).toSeconds = seconds := by
  simp only [ofSeconds, Civil.toSeconds, Civil.daysBefore]
  omega

theorem ofSeconds_toSeconds {date : Civil} (valid : date.Valid) : ofSeconds date.toSeconds = date := by
  have inside := date.month.isLt
  have lengths := daysBeforeMonth_le (isLeapYear date.year) (date.month + 1) (by omega) 12
    (by omega) (by omega)
  have start := daysBeforeMonth_le (isLeapYear date.year) 0 (by omega) date.month (by omega)
    (Nat.zero_le _)
  rw [daysBeforeMonth_year] at lengths
  rw [daysBeforeMonth_zero] at start
  have next_ := daysBeforeYear_succ date.year
  obtain ⟨first, last, hour, minute, second⟩ := valid
  have day : date.toSeconds / 86400 = date.daysBefore + (date.day - 1) := by
    unfold Civil.toSeconds
    omega
  have year : yearOfDay (date.daysBefore + (date.day - 1)) = date.year := by
    apply yearOfDay_unique <;> unfold Civil.daysBefore <;> omega
  have month : monthOfDay (isLeapYear date.year)
      (date.daysBefore + (date.day - 1) - daysBeforeYear date.year) = date.month := by
    apply monthOfDay_unique <;> unfold Civil.daysBefore <;> omega
  unfold ofSeconds
  simp only [day, year, month]
  have fields : date.daysBefore + (date.day - 1) - daysBeforeYear date.year -
        daysBeforeMonth (isLeapYear date.year) date.month + 1 = date.day ∧
      date.toSeconds % 86400 / 3600 = date.hour ∧ date.toSeconds % 3600 / 60 = date.minute ∧
      date.toSeconds % 60 = date.second := by
    unfold Civil.toSeconds Civil.daysBefore
    omega
  obtain ⟨dayEq, hourEq, minuteEq, secondEq⟩ := fields
  rw [dayEq, hourEq, minuteEq, secondEq]

theorem ofSeconds_injective {a b : Int} (same : ofSeconds a = ofSeconds b) : a = b := by
  rw [← toSeconds_ofSeconds a, same, toSeconds_ofSeconds]

/-! ## One stamp in different years -/

theorem toSeconds_of_sameStamp {a b : Civil} (same : a.SameStamp b) (earlier : a.year < b.year) :
    a.toSeconds + 365 * 86400 ≤ b.toSeconds := by
  obtain ⟨month, day, hour, minute, second⟩ := same
  have years : daysBeforeYear (a.year + 1) ≤ daysBeforeYear b.year :=
    daysBeforeYear_le earlier
  have moved := (daysBeforeMonth_leap (isLeapYear b.year) (isLeapYear a.year) b.month).2
  rw [daysBeforeYear_succ] at years
  unfold leapDay at years
  unfold Civil.toSeconds Civil.daysBefore
  rw [month, day, hour, minute, second]
  omega

/-- Instants less than a year apart have different stamps. -/
theorem eq_of_sameStamp {a b : Int} (same : (ofSeconds a).SameStamp (ofSeconds b))
    (above : a < b + 365 * 86400) (below : b < a + 365 * 86400) : a = b := by
  rcases lt_trichotomy (ofSeconds a).year (ofSeconds b).year with before | year | after
  · have far := toSeconds_of_sameStamp same before
    rw [toSeconds_ofSeconds, toSeconds_ofSeconds] at far
    omega
  · obtain ⟨month, day, hour, minute, second⟩ := same
    apply ofSeconds_injective
    cases shape : ofSeconds a
    cases shape' : ofSeconds b
    rw [shape, shape'] at year month day hour minute second
    simp only at year month day hour minute second
    rw [year, month, day, hour, minute, second]
  · have far := toSeconds_of_sameStamp same.symm after
    rw [toSeconds_ofSeconds, toSeconds_ofSeconds] at far
    omega

/-- The fields of an instant within thirty days of the start of a year. -/
def aroundNewYear (year offset : Int) : Civil where
  year := if 0 ≤ offset then year else year - 1
  month := if 0 ≤ offset then 0 else 11
  day := if 0 ≤ offset then offset / 86400 + 1 else offset / 86400 + 32
  hour := offset % 86400 / 3600
  minute := offset % 3600 / 60
  second := offset % 60

theorem ofSeconds_newYear (year : Int) {offset : Int} (after : -(30 * 86400) ≤ offset)
    (before : offset < 30 * 86400) :
    ofSeconds (daysBeforeYear year * 86400 + offset) = aroundNewYear year offset := by
  have last : ∀ leap : Bool, daysBeforeMonth leap 0 = 0 ∧ daysBeforeMonth leap 1 = 31 ∧
      daysBeforeMonth leap 12 = daysBeforeMonth leap 11 + 31 := by decide
  have length := daysBeforeMonth_year (year - 1)
  have next_ := daysBeforeYear_succ (year - 1)
  rw [Int.sub_add_cancel] at next_
  have valid : (aroundNewYear year offset).Valid := by
    by_cases sign : 0 ≤ offset
    · have months := last (isLeapYear year)
      refine ⟨?_, ?_, ?_, ?_, ?_⟩ <;> simp [aroundNewYear, sign] <;> omega
    · have months := last (isLeapYear (year - 1))
      refine ⟨?_, ?_, ?_, ?_, ?_⟩ <;> simp [aroundNewYear, sign] <;> omega
  have seconds : (aroundNewYear year offset).toSeconds = daysBeforeYear year * 86400 + offset := by
    by_cases sign : 0 ≤ offset
    · have months := last (isLeapYear year)
      simp [aroundNewYear, Civil.toSeconds, Civil.daysBefore, sign]
      omega
    · have months := last (isLeapYear (year - 1))
      simp [aroundNewYear, Civil.toSeconds, Civil.daysBefore, sign]
      omega
  rw [← seconds, ofSeconds_toSeconds valid]

theorem sameStamp_newYear (year year' offset : Int) :
    (aroundNewYear year offset).SameStamp (aroundNewYear year' offset) :=
  ⟨rfl, rfl, rfl, rfl, rfl⟩

/-- The instant whose fields are those of `t` in the year of `s`. -/
def inYearOf (s t : Int) : Int :=
  Civil.toSeconds { ofSeconds t with year := (ofSeconds s).year }

theorem inYearOf_newYear (s year : Int) {offset : Int} (after : -(30 * 86400) ≤ offset)
    (before : offset < 30 * 86400) :
    ∃ year', inYearOf s (daysBeforeYear year * 86400 + offset) =
      daysBeforeYear year' * 86400 + offset := by
  unfold inYearOf
  rw [ofSeconds_newYear year after before]
  generalize (ofSeconds s).year = target
  by_cases sign : 0 ≤ offset
  · refine ⟨target, ?_⟩
    have same := congrArg Civil.toSeconds (ofSeconds_newYear target after before)
    rw [toSeconds_ofSeconds] at same
    rw [same]
    simp [aroundNewYear, sign]
  · refine ⟨target + 1, ?_⟩
    have same := congrArg Civil.toSeconds (ofSeconds_newYear (target + 1) after before)
    rw [toSeconds_ofSeconds] at same
    rw [same]
    simp [aroundNewYear, sign]

/-- `s` and `t` are less than a week apart.  Where they are in different years,
the year does not show in the stamp of what is up to a week before or after. -/
theorem sameStamp_inYearOf {s t delta : Int} (after : s < t + 7 * 86400) (before : t < s + 7 * 86400)
    (delta_ge : -(7 * 86400) ≤ delta) (delta_le : delta ≤ 7 * 86400) :
    (ofSeconds (inYearOf s t + delta)).SameStamp (ofSeconds (t + delta)) := by
  have near : ∀ year offset, -(7 * 86400) ≤ offset → offset < 7 * 86400 →
      t = daysBeforeYear year * 86400 + offset →
      (ofSeconds (inYearOf s t + delta)).SameStamp (ofSeconds (t + delta)) := by
    intro year offset low high shape
    have inside : -(30 * 86400) ≤ offset := by omega
    obtain ⟨year', moved⟩ := inYearOf_newYear s year inside (by omega)
    rw [shape, moved, Int.add_assoc, Int.add_assoc, ofSeconds_newYear year' (by omega) (by omega),
      ofSeconds_newYear year (by omega) (by omega)]
    exact sameStamp_newYear year' year (offset + delta)
  obtain ⟨startS, endS⟩ := yearOfDay_spec (s / 86400)
  obtain ⟨startT, endT⟩ := yearOfDay_spec (t / 86400)
  have yearS : (ofSeconds s).year = yearOfDay (s / 86400) := rfl
  have yearT : (ofSeconds t).year = yearOfDay (t / 86400) := rfl
  rcases lt_trichotomy (ofSeconds s).year (ofSeconds t).year with earlier | same | later
  · have order : daysBeforeYear ((ofSeconds s).year + 1) ≤ daysBeforeYear (ofSeconds t).year :=
      daysBeforeYear_le earlier
    rw [yearS, yearT] at order
    apply near (yearOfDay (t / 86400)) (t - daysBeforeYear (yearOfDay (t / 86400)) * 86400) <;> omega
  · have here : inYearOf s t = t := by
      unfold inYearOf
      rw [same]
      exact toSeconds_ofSeconds t
    rw [here]
    exact ⟨rfl, rfl, rfl, rfl, rfl⟩
  · have order : daysBeforeYear ((ofSeconds t).year + 1) ≤ daysBeforeYear (ofSeconds s).year :=
      daysBeforeYear_le later
    rw [yearS, yearT] at order
    apply near (yearOfDay (t / 86400) + 1)
      (t - daysBeforeYear (yearOfDay (t / 86400) + 1) * 86400) <;> omega

end Calendar
