import StoringDevices.Lib.Calendar
import StoringDevices.Usb

/-! # Time zones

The conversions of output.cpp over a model of the C library: a zone has a
standard and a daylight offset, and any set of instants at which daylight time is
in force.  Both conversions take the year and the daylight flag from the current
time, so they are right when the offset of the current time is in force at the
event, and at the reading of its UTC fields five hours earlier. -/
set_option autoImplicit false

namespace StoringDevices

open Calendar (Civil january ofSeconds)

/-! ## The C library -/

/-- A `struct tm`, without the fields derived from the others. -/
structure Tm where
  tmSec : Int := 0
  tmMin : Int := 0
  tmHour : Int := 0
  tmMday : Int := 0
  tmMon : Fin 12 := january
  tmYear : Int := 0
  tmIsdst : Int := 0
  deriving DecidableEq

def Tm.civil (tm : Tm) : Civil where
  year := tm.tmYear + 1900
  month := tm.tmMon
  day := tm.tmMday
  hour := tm.tmHour
  minute := tm.tmMin
  second := tm.tmSec

def Tm.ofCivil (date : Civil) (isdst : Int) : Tm where
  tmSec := date.second
  tmMin := date.minute
  tmHour := date.hour
  tmMday := date.day
  tmMon := date.month
  tmYear := date.year - 1900
  tmIsdst := isdst

@[simp] theorem Tm.civil_ofCivil (date : Civil) (isdst : Int) :
    (Tm.ofCivil date isdst).civil = date := by
  simp [Tm.civil, Tm.ofCivil]

/-- Seconds east of UTC, less than a week either way. -/
structure Zone where
  standard : Int
  daylight : Int
  isDst : Int → Bool
  standard_bound : -(7 * 86400) < standard ∧ standard < 7 * 86400
  daylight_bound : -(7 * 86400) < daylight ∧ daylight < 7 * 86400

/-- The offset in force at an instant. -/
def Zone.offset (zone : Zone) (t : Int) : Int :=
  if zone.isDst t then zone.daylight else zone.standard

theorem Zone.offset_bound (zone : Zone) (t : Int) :
    -(7 * 86400) < zone.offset t ∧ zone.offset t < 7 * 86400 := by
  unfold Zone.offset
  split
  · exact zone.daylight_bound
  · exact zone.standard_bound

def localtime (zone : Zone) (t : Int) : Tm :=
  Tm.ofCivil (ofSeconds (t + zone.offset t)) (if zone.isDst t then 1 else 0)

def gmtime (t : Int) : Tm := Tm.ofCivil (ofSeconds t) 0

/-- The fields are read with the offset that `tm_isdst` tells. -/
def mktime (zone : Zone) (tm : Tm) : Int :=
  tm.civil.toSeconds - if 0 < tm.tmIsdst then zone.daylight else zone.standard

/-- A zone and what `time` gives while the report is written. -/
structure Clock where
  zone : Zone
  now : Int

/-- A zone and what each call of `time` gives, counted from the start of the page. -/
structure TickingClock where
  zone : Zone
  time : Nat → Int

def TickingClock.reading (clock : TickingClock) (call : Nat) : Clock :=
  ⟨clock.zone, clock.time call⟩

/-- Every call of `time` gives the same. -/
def Clock.steady (clock : Clock) : TickingClock := ⟨clock.zone, fun _ => clock.now⟩

@[simp] theorem Clock.reading_steady (clock : Clock) (call : Nat) :
    clock.steady.reading call = clock := rfl

/-! ## The conversions -/

def hoursDifferenceUtcEst : Int := -5

/-- The current local time with the date and time of day of `tm`. -/
def withStamp (clock : Clock) (tm : Tm) : Tm :=
  { localtime clock.zone clock.now with
    tmMon := tm.tmMon
    tmMday := tm.tmMday
    tmHour := tm.tmHour
    tmMin := tm.tmMin
    tmSec := tm.tmSec }

def getUTCTimeFromLocalTime (clock : Clock) (localTime : Tm) : Tm :=
  gmtime (mktime clock.zone (withStamp clock localTime))

def getESTTimeFromUTCTime (clock : Clock) (utc : Tm) : Tm :=
  let timeAux := mktime clock.zone (withStamp clock utc)
  localtime clock.zone (timeAux + hoursDifferenceUtcEst * 3600)

def month : List String :=
  ["January", "February", "March", "April", "May", "June", "July", "August", "September",
    "October", "November", "December"]

def getStringFromTM (date : Tm) : CppString :=
  (month.get date.tmMon ++ " " ++ toString date.tmMday ++ " at " ++ toString date.tmHour ++ ":" ++
    toString date.tmMin ++ ":" ++ toString date.tmSec).toList

/-! ## When they give the same instant -/

/-- The same month, day, hour, minute and second. -/
def SameStamp (tm tm' : Tm) : Prop := tm.civil.SameStamp tm'.civil

instance (tm tm' : Tm) : Decidable (SameStamp tm tm') :=
  inferInstanceAs (Decidable (tm.civil.SameStamp tm'.civil))

/-- The fields of `stamp` are those of the instant `t` in local time, in the
current year. -/
structure Clock.Names (clock : Clock) (stamp : Tm) (t : Int) : Prop where
  fields : SameStamp stamp (localtime clock.zone t)
  year : (localtime clock.zone t).tmYear = (localtime clock.zone clock.now).tmYear

namespace Clock
variable (clock : Clock)

theorem mktime_withStamp (tm : Tm) : mktime clock.zone (withStamp clock tm) =
    Civil.toSeconds { tm.civil with year := (localtime clock.zone clock.now).civil.year } -
      clock.zone.offset clock.now := by
  have flag : (if 0 < (withStamp clock tm).tmIsdst then clock.zone.daylight
      else clock.zone.standard) = clock.zone.offset clock.now := by
    simp only [withStamp, localtime, Tm.ofCivil, Zone.offset]
    by_cases dst : clock.zone.isDst clock.now = true <;> simp [dst]
  unfold mktime
  rw [flag]
  rfl

variable {clock} {stamp : Tm} {t : Int} (named : clock.Names stamp t)
include named

theorem Names.local_year : (localtime clock.zone clock.now).civil.year =
    (ofSeconds (t + clock.zone.offset t)).year := by
  have year := named.year
  simp only [localtime, Tm.civil_ofCivil]
  simp only [localtime, Tm.ofCivil] at year
  omega

/-- `mktime` is off by the difference of the offsets. -/
theorem Names.mktime_eq : mktime clock.zone (withStamp clock stamp) =
    t + clock.zone.offset t - clock.zone.offset clock.now := by
  have date : ({ stamp.civil with year := (localtime clock.zone clock.now).civil.year } : Civil) =
      ofSeconds (t + clock.zone.offset t) := by
    have fields := named.fields
    unfold SameStamp localtime at fields
    rw [Tm.civil_ofCivil] at fields
    obtain ⟨month, day, hour, minute, second⟩ := fields
    simp only [named.local_year, month, day, hour, minute, second]
  rw [mktime_withStamp, date, Calendar.toSeconds_ofSeconds]

theorem Names.utc_iff : SameStamp (getUTCTimeFromLocalTime clock stamp) (gmtime t) ↔
    clock.zone.offset t = clock.zone.offset clock.now := by
  have here := clock.zone.offset_bound t
  have now := clock.zone.offset_bound clock.now
  unfold SameStamp getUTCTimeFromLocalTime gmtime
  rw [named.mktime_eq, Tm.civil_ofCivil, Tm.civil_ofCivil]
  constructor
  · intro same
    have instants := Calendar.eq_of_sameStamp same (by omega) (by omega)
    omega
  · intro same
    rw [same, Int.add_sub_cancel]
    exact ⟨rfl, rfl, rfl, rfl, rfl⟩

/-- The reading of the UTC fields of `t` in the current year at the current
offset, five hours earlier. -/
def estInstant (clock : Clock) (t : Int) : Int :=
  Calendar.inYearOf (t + clock.zone.offset t) t - clock.zone.offset clock.now +
    hoursDifferenceUtcEst * 3600

theorem Names.est_iff {utc : Tm} (isUtc : SameStamp utc (gmtime t)) :
    SameStamp (getESTTimeFromUTCTime clock utc) (gmtime (t - 5 * 3600)) ↔
      clock.zone.offset (estInstant clock t) = clock.zone.offset clock.now := by
  have date : ({ utc.civil with year := (localtime clock.zone clock.now).civil.year } : Civil) =
      { ofSeconds t with year := (ofSeconds (t + clock.zone.offset t)).year } := by
    unfold SameStamp gmtime at isUtc
    rw [Tm.civil_ofCivil] at isUtc
    obtain ⟨month, day, hour, minute, second⟩ := isUtc
    simp only [named.local_year, month, day, hour, minute, second]
  have read : mktime clock.zone (withStamp clock utc) + hoursDifferenceUtcEst * 3600 =
      estInstant clock t := by
    rw [mktime_withStamp, date]
    rfl
  have here := clock.zone.offset_bound t
  have now := clock.zone.offset_bound clock.now
  have est := clock.zone.offset_bound (estInstant clock t)
  -- the year does not matter to the stamp five hours before `t`
  have shifted : (ofSeconds (Calendar.inYearOf (t + clock.zone.offset t) t + -18000)).SameStamp
      (ofSeconds (t - 5 * 3600)) :=
    Calendar.sameStamp_inYearOf (by omega) (by omega) (by omega) (by omega)
  have instant : estInstant clock t + clock.zone.offset (estInstant clock t) =
      Calendar.inYearOf (t + clock.zone.offset t) t + -18000 +
        (clock.zone.offset (estInstant clock t) - clock.zone.offset clock.now) := by
    have shape : estInstant clock t = Calendar.inYearOf (t + clock.zone.offset t) t -
        clock.zone.offset clock.now + -5 * 3600 := rfl
    omega
  unfold SameStamp getESTTimeFromUTCTime
  simp only [read, localtime, gmtime, Tm.civil_ofCivil, instant]
  constructor
  · intro same
    have instants := Calendar.eq_of_sameStamp (same.trans shifted.symm) (by omega) (by omega)
    omega
  · intro same
    rw [same, Int.sub_self, Int.add_zero]
    exact shifted

end Clock

/-- A timestamp of the current year in local time. -/
theorem same_instant_iff {clock : Clock} {stamp : Tm} {t : Int} (named : clock.Names stamp t) :
    SameStamp (getUTCTimeFromLocalTime clock stamp) (gmtime t) ∧
        SameStamp (getESTTimeFromUTCTime clock (getUTCTimeFromLocalTime clock stamp))
          (gmtime (t - 5 * 3600)) ↔
      clock.zone.offset t = clock.zone.offset clock.now ∧
        clock.zone.offset (clock.estInstant t) = clock.zone.offset clock.now := by
  rw [← named.utc_iff]
  constructor
  · intro same
    exact ⟨same.1, (named.est_iff same.1).mp same.2⟩
  · intro same
    exact ⟨same.1, (named.est_iff same.1).mpr same.2⟩

/-! A zone with one change to daylight time, in the spring of 2026. -/

def springZone : Zone where
  standard := 3600
  daylight := 7200
  isDst t := 1774746000 ≤ t
  standard_bound := by decide
  daylight_bound := by decide

/-- A summer day. -/
def summer : Clock := ⟨springZone, 1783000000⟩

theorem summer_names_june :
    summer.Names (localtime springZone 1781000000) 1781000000 :=
  ⟨⟨rfl, rfl, rfl, rfl, rfl⟩, by decide +kernel⟩

theorem june_same_instant :
    SameStamp (getUTCTimeFromLocalTime summer (localtime springZone 1781000000))
        (gmtime 1781000000) ∧
      SameStamp (getESTTimeFromUTCTime summer
          (getUTCTimeFromLocalTime summer (localtime springZone 1781000000)))
        (gmtime (1781000000 - 5 * 3600)) :=
  (same_instant_iff summer_names_june).mpr (by decide +kernel)

theorem Clock.Names.unique_reading {clock : Clock} {stamp : Tm} {t t' : Int}
    (named : clock.Names stamp t) (named' : clock.Names stamp t') :
    t + clock.zone.offset t = t' + clock.zone.offset t' := by
  have first := named.mktime_eq
  rw [named'.mktime_eq] at first
  omega

/-- In summer a stick plugged in at noon on the 10th of January is shown at ten
o'clock UTC instead of eleven. -/
theorem january_off_in_summer :
    summer.Names { tmMon := 0, tmMday := 10, tmHour := 12 } 1768042800 ∧
      (∀ t, summer.Names { tmMon := 0, tmMday := 10, tmHour := 12 } t → t = 1768042800) ∧
      ¬ SameStamp (getUTCTimeFromLocalTime summer { tmMon := 0, tmMday := 10, tmHour := 12 })
        (gmtime 1768042800) := by
  have named : summer.Names { tmMon := 0, tmMday := 10, tmHour := 12 } 1768042800 :=
    ⟨by decide +kernel, by decide +kernel⟩
  refine ⟨named, ?_, by decide +kernel⟩
  intro t named'
  have reading := named.unique_reading named'
  have winter : springZone.offset 1768042800 = 3600 := by decide
  have seasons : springZone.offset t = if 1774746000 ≤ t then 7200 else 3600 := by
    simp [Zone.offset, springZone]
  rw [summer] at reading
  simp only [winter, seasons] at reading
  split at reading <;> omega

end StoringDevices
