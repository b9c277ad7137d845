import AccessPoint.Lib.Calendar
import AccessPoint.Meter.Cosem
import Mathlib.Data.UInt

/-!
# The meter's clock

`LinuxClock::InternalGet` answers for the time with twelve octets, the fields of `std::localtime`
in the order of a COSEM date-time. It writes 0 for the deviation of the local time from UTC.

`denotes_iff` says when the octets denote the instant they were made at: when the local time is
UTC.
-/

namespace AccessPoint.Meter

open Calendar

/-- The attributes of the clock, as the switch of `InternalGet` names them. -/
inductive ClockAttribute where
  | time
  | timeZone
  | status
  | dstBegin
  | dstEnd
  | dstDeviation
  | dstEnabled
  | clockBase
  | other (attributeId : Int)
  deriving DecidableEq, Repr

/-- `std::tm`, without the day of the year. -/
structure Tm where
  sec : Int
  min : Int
  hour : Int
  mday : Int
  mon : Int
  year : Int
  wday : Int
  isdst : Int
  deriving DecidableEq, Repr

/-- The day of the first of January 1970. -/
def epochDay : Int := 719528

/-- The day of an instant in local time. -/
def localDay (utcOffset t : Int) : Int :=
  (t + 60 * utcOffset) / 86400 + epochDay

/-- `std::localtime`, for the minutes that local time is ahead of UTC at the instant, and whether
daylight saving is in effect then. -/
def localtime (utcOffset : Int) (daylight : Bool) (t : Int) : Tm :=
  let seconds := t + 60 * utcOffset
  let date := ofDayNumber (localDay utcOffset t)
  { sec := seconds % 60
    min := seconds / 60 % 60
    hour := seconds / 3600 % 24
    mday := date.day + 1
    mon := date.month
    year := date.year - 1900
    wday := weekday (localDay utcOffset t)
    isdst := if daylight then 1 else 0 }

/-- `static_cast<std::uint8_t>`. -/
def octet (n : Int) : UInt8 :=
  .ofInt n

namespace LinuxClock

/-- The octets of the time. -/
def time (tm : Tm) : List UInt8 :=
  [octet ((tm.year + 1900) / 256),
    octet ((tm.year + 1900) % 256),
    octet (tm.mon + 1),
    octet tm.mday,
    octet (if tm.wday ≠ 0 then tm.wday else 7),
    octet tm.hour,
    octet tm.min,
    octet tm.sec,
    0, -- hundredths of a second
    0, -- deviation high
    0, -- deviation low
    octet (if tm.isdst > 0 then 0x80 else 0)]

/-- `InternalGet` at the instant `t`, with what it appends. -/
def internalGet (utcOffset : Int) (daylight : Bool) (t : Int) :
    ClockAttribute → DataAccessResult × Option (List UInt8)
  | .time => (.success, some (time (localtime utcOffset daylight t)))
  | _ => (.objectUnavailable, none)

end LinuxClock

/-! ## What a COSEM date-time denotes -/

/-- The fields of a COSEM date-time. -/
structure CosemDateTime where
  year : Nat
  month : Nat
  dayOfMonth : Nat
  dayOfWeek : Nat
  hour : Nat
  minute : Nat
  second : Nat
  hundredths : Nat
  deviation : Int
  daylightSaving : Bool
  deriving DecidableEq, Repr

namespace CosemDateTime

/-- The number two octets stand for. -/
def unsigned16 (high low : UInt8) : Nat :=
  high.toNat * 256 + low.toNat

/-- The signed number two octets stand for. -/
def signed16 (high low : UInt8) : Int :=
  if unsigned16 high low < 0x8000 then unsigned16 high low else unsigned16 high low - 0x10000

/-- The date-time of twelve octets. -/
def decode : List UInt8 → Option CosemDateTime
  | [yearHigh, yearLow, month, dayOfMonth, dayOfWeek, hour, minute, second, hundredths,
      deviationHigh, deviationLow, clockStatus] =>
    some
      { year := unsigned16 yearHigh yearLow
        month := month.toNat
        dayOfMonth := dayOfMonth.toNat
        dayOfWeek := dayOfWeek.toNat
        hour := hour.toNat
        minute := minute.toNat
        second := second.toNat
        hundredths := hundredths.toNat
        deviation := signed16 deviationHigh deviationLow
        daylightSaving := clockStatus.toNat / 0x80 % 2 = 1 }
  | _ => none

/-- The day of the date. -/
def day (dt : CosemDateTime) : Int :=
  dayNumber { year := dt.year, month := dt.month - 1, day := dt.dayOfMonth - 1 }

/-- The instant, in hundredths of a second: the local time and the deviation. -/
def instant (dt : CosemDateTime) : Int :=
  100 * ((dt.day - epochDay) * 86400 + dt.hour * 3600 + dt.minute * 60 + dt.second +
    60 * dt.deviation) + dt.hundredths

/-- The day of the week is that of the date, with Sunday as 7. -/
def WeekdayMatches (dt : CosemDateTime) : Prop :=
  (dt.dayOfWeek : Int) = if weekday dt.day = 0 then 7 else weekday dt.day

end CosemDateTime

namespace LinuxClock

/-- The answer for the time denotes the instant it was made at, with the right day of the week and
daylight saving as it is. -/
def Denotes (utcOffset : Int) (daylight : Bool) (t : Int) : Prop :=
  ∃ octets dt, internalGet utcOffset daylight t .time = (.success, some octets) ∧
    CosemDateTime.decode octets = some dt ∧ dt.instant = 100 * t ∧ dt.WeekdayMatches ∧
    dt.daylightSaving = daylight

/-- A number that fits is kept by the conversion. -/
theorem octet_toNat {n : Int} (h0 : 0 ≤ n) (h : n < 256) : ((octet n).toNat : Int) = n := by
  rw [octet, UInt8.ofInt, UInt8.toNat_ofNat']
  omega

/-- The two octets of a year. -/
theorem unsigned16_octets {year : Int} (h0 : 0 ≤ year) (h : year ≤ 65535) :
    (CosemDateTime.unsigned16 (octet (year / 256)) (octet (year % 256)) : Int) = year := by
  have hhigh := octet_toNat (n := year / 256) (by omega) (by omega)
  have hlow := octet_toNat (n := year % 256) (by omega) (by omega)
  rw [CosemDateTime.unsigned16, Nat.cast_add, Nat.cast_mul, hhigh, hlow]
  omega

section Decoded

variable {utcOffset t : Int} {daylight : Bool}

/-- The date-time that the octets of the time decode to. -/
def decoded (utcOffset : Int) (daylight : Bool) (t : Int) : CosemDateTime :=
  let tm := localtime utcOffset daylight t
  let year := tm.year + 1900
  { year := CosemDateTime.unsigned16 (octet (year / 256)) (octet (year % 256))
    month := (octet (tm.mon + 1)).toNat
    dayOfMonth := (octet tm.mday).toNat
    dayOfWeek := (octet (if tm.wday ≠ 0 then tm.wday else 7)).toNat
    hour := (octet tm.hour).toNat
    minute := (octet tm.min).toNat
    second := (octet tm.sec).toNat
    hundredths := 0
    deviation := CosemDateTime.signed16 0 0
    daylightSaving := (octet (if tm.isdst > 0 then 0x80 else 0)).toNat / 0x80 % 2 = 1 }

theorem decode_time :
    CosemDateTime.decode (time (localtime utcOffset daylight t)) =
      some (decoded utcOffset daylight t) := rfl

theorem decoded_deviation : (decoded utcOffset daylight t).deviation = 0 := by
  unfold decoded
  dsimp only
  decide

theorem decoded_daylightSaving : (decoded utcOffset daylight t).daylightSaving = daylight := by
  have hisdst : (localtime utcOffset daylight t).isdst = if daylight then 1 else 0 := rfl
  unfold decoded
  dsimp only
  rw [hisdst]
  cases daylight <;> decide

/-- The day of the date is the local day. -/
theorem decoded_day (h0 : 0 ≤ (ofDayNumber (localDay utcOffset t)).year)
    (h : (ofDayNumber (localDay utcOffset t)).year ≤ 65535) :
    (decoded utcOffset daylight t).day = localDay utcOffset t := by
  obtain ⟨hmonth, hday0, hday⟩ := ofDayNumber_bounds (localDay utcOffset t)
  have hyears : (localtime utcOffset daylight t).year + 1900 =
      (ofDayNumber (localDay utcOffset t)).year := Int.sub_add_cancel _ _
  have hyear : ((decoded utcOffset daylight t).year : Int) =
      (ofDayNumber (localDay utcOffset t)).year := by
    rw [← unsigned16_octets h0 h, ← hyears]
    rfl
  have hmon : ((decoded utcOffset daylight t).month : Int) =
      (ofDayNumber (localDay utcOffset t)).month + 1 :=
    octet_toNat (n := (ofDayNumber (localDay utcOffset t)).month + 1) (by omega) (by omega)
  have hmonth : (decoded utcOffset daylight t).month - 1 =
      (ofDayNumber (localDay utcOffset t)).month := by omega
  have hmday : ((decoded utcOffset daylight t).dayOfMonth : Int) =
      (ofDayNumber (localDay utcOffset t)).day + 1 :=
    octet_toNat (n := (ofDayNumber (localDay utcOffset t)).day + 1) (by omega) (by omega)
  rw [CosemDateTime.day, hyear, hmonth, hmday, Int.add_sub_cancel]
  exact dayNumber_ofDayNumber (localDay utcOffset t)

/-- The day of the week is that of the local day. -/
theorem decoded_dayOfWeek : ((decoded utcOffset daylight t).dayOfWeek : Int) =
    if weekday (localDay utcOffset t) = 0 then 7 else weekday (localDay utcOffset t) := by
  have hbounds : 0 ≤ weekday (localDay utcOffset t) ∧ weekday (localDay utcOffset t) < 7 := by
    unfold weekday
    omega
  have hwday : (decoded utcOffset daylight t).dayOfWeek =
      (octet (if weekday (localDay utcOffset t) ≠ 0 then weekday (localDay utcOffset t)
        else 7)).toNat := rfl
  rw [hwday, ite_not, octet_toNat] <;> split <;> omega

/-- **The date-time denotes the local time as if it were UTC.** -/
theorem decoded_instant (h0 : 0 ≤ (ofDayNumber (localDay utcOffset t)).year)
    (h : (ofDayNumber (localDay utcOffset t)).year ≤ 65535) :
    (decoded utcOffset daylight t).instant = 100 * (t + 60 * utcOffset) := by
  have hhour : ((decoded utcOffset daylight t).hour : Int) = (t + 60 * utcOffset) / 3600 % 24 :=
    octet_toNat (n := (t + 60 * utcOffset) / 3600 % 24) (by omega) (by omega)
  have hminute : ((decoded utcOffset daylight t).minute : Int) = (t + 60 * utcOffset) / 60 % 60 :=
    octet_toNat (n := (t + 60 * utcOffset) / 60 % 60) (by omega) (by omega)
  have hsecond : ((decoded utcOffset daylight t).second : Int) = (t + 60 * utcOffset) % 60 :=
    octet_toNat (n := (t + 60 * utcOffset) % 60) (by omega) (by omega)
  have hhundredths : (decoded utcOffset daylight t).hundredths = 0 := rfl
  rw [CosemDateTime.instant, decoded_day h0 h, hhour, hminute, hsecond, decoded_deviation,
    hhundredths, localDay]
  omega

end Decoded

/-- **The answer for the time denotes the instant it was made at exactly when local time is UTC
then.** The offset is that of the instant, with daylight saving in it, and any number of seconds;
the year is one that the two octets of the answer hold, on either side. Denoting takes the
hundredths, the day of the week and the daylight bit with it. That the offset is written as a
deviation is what the code does not do, and nothing is said of a reader who knows the offset from
elsewhere. -/
theorem denotes_iff {utcOffset t : Int} (daylight : Bool)
    (h0 : 0 ≤ (ofDayNumber (localDay utcOffset t)).year)
    (h : (ofDayNumber (localDay utcOffset t)).year ≤ 65535) :
    Denotes utcOffset daylight t ↔ utcOffset = 0 := by
  have hinstant : (decoded utcOffset daylight t).instant = 100 * (t + 60 * utcOffset) :=
    decoded_instant h0 h
  constructor
  · rintro ⟨octets, dt, hget, hdecode, hright, -, -⟩
    cases hget
    rw [decode_time] at hdecode
    cases hdecode
    rw [hinstant] at hright
    omega
  · rintro rfl
    refine ⟨_, _, rfl, decode_time, ?_, ?_, decoded_daylightSaving⟩
    · rw [hinstant]
      omega
    · rw [CosemDateTime.WeekdayMatches, decoded_day h0 h]
      exact decoded_dayOfWeek

/-- An hour ahead of UTC, the octets made at the epoch denote an hour later. -/
theorem not_denotes : ¬ ∀ (utcOffset : Int) (daylight : Bool) (t : Int),
    -720 ≤ utcOffset ∧ utcOffset ≤ 720 →
      0 ≤ (ofDayNumber (localDay utcOffset t)).year →
        (ofDayNumber (localDay utcOffset t)).year ≤ 65535 → Denotes utcOffset daylight t := by
  intro h
  obtain ⟨octets, dt, hget, hdecode, hright, -, -⟩ :=
    h 60 false 0 (by decide) (by decide) (by decide)
  cases hget
  cases hdecode
  revert hright
  decide

theorem denotes_iff_epoch : (0 ≤ (ofDayNumber (localDay 60 0)).year ∧
    (ofDayNumber (localDay 60 0)).year ≤ 65535) ∧ (Denotes 60 true 0 ↔ (60 : Int) = 0) :=
  ⟨by decide, denotes_iff true (by decide) (by decide)⟩

end LinuxClock

end AccessPoint.Meter
