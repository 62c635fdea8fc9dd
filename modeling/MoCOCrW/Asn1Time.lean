/-
`ASN1_TIME` arithmetic of `src/openssl_wrap.cpp` (lines 685-794): the checked
`ASN1_TIME_diff`, `_ASN1_TIME_from_time_t`, `secondsDiffToEpoch`, `compare` and
`checkAsn1TimeFitsIntoLimits`.

An `ASN1_TIME` is modelled by what these functions read of it, its offset from
the epoch in seconds. GeneralizedTime spans the years 0000 to 9999, so a time
that OpenSSL can hold is an offset in `[asn1TimeMin, asn1TimeMax]`, and
`Asn1Time` carries that range as a field. The ends are computed here from the
proleptic Gregorian calendar (`epochSeconds`), not copied from the two
constants in `compare`: that the constants equal them is a theorem
(`minAsn1TimeAsTimeT_eq`, `maxAsn1TimeAsTimeT_eq`), and it is what keeps
`compare` from ever asking `ASN1_TIME_set` for a time it cannot represent.

Two OpenSSL functions are modelled as OpenSSL 3.0 has them, in
`lib.OpenSSLLib` as the source calls them. `ASN1_TIME_set` breaks `t` down
with `OPENSSL_gmtime` (`gmtime_r`, which on glibc fails when the year less
1900 leaves `int`) and prints the result without checking the year: inside the
range it is the time, outside it a string that no parser of OpenSSL reads as a
time, which the model writes `none`, as it writes the empty `ASN1_TIME` of a
new certificate.
`ASN1_TIME_diff` splits each time into a day number and a second of the day,
subtracts, and moves one day across when the signs of the two parts disagree
(`OPENSSL_gmtime_diff`). The second step is why the result is a `DaySplit`, and
so why the wrapper's own sign check never fires.
-/
import MoCOCrW.MachineInt

set_option autoImplicit false

namespace mococrw.openssl

/-! ## The range of `ASN1_TIME` -/

/-- Days from 1970-01-01 to the proleptic Gregorian date `y-m-d`: years are
counted from March so that the leap day closes the year, in 400-year eras of
146097 days. `/` on `Int` rounds down here, which the era needs for `y < 0`. -/
def daysFromCivil (y m d : Int) : Int :=
  let y := if m ≤ 2 then y - 1 else y
  let era := y / 400
  let yoe := y - era * 400
  let doy := (153 * (if m > 2 then m - 3 else m + 9) + 2) / 5 + d - 1
  let doe := yoe * 365 + yoe / 4 - yoe / 100 + doy
  era * 146097 + doe - 719468

/-- Seconds from 1970-01-01T00:00:00Z to `y-mo-dTh:mi:sZ`. -/
def epochSeconds (y mo d h mi s : Int) : Int :=
  daysFromCivil y mo d * 86400 + h * 3600 + mi * 60 + s

/-- 0000-01-01T00:00:00Z, the first GeneralizedTime. -/
def asn1TimeMin : Int := epochSeconds 0 1 1 0 0 0

/-- 9999-12-31T23:59:59Z, the last GeneralizedTime. -/
def asn1TimeMax : Int := epochSeconds 9999 12 31 23 59 59

/-- The first second `gmtime_r` of glibc breaks down: `tm_year`, the year less
1900, is an `int`. -/
def gmtimeMin : Int := epochSeconds (INT_MIN + 1900) 1 1 0 0 0

/-- The last second `gmtime_r` of glibc breaks down. -/
def gmtimeMax : Int := epochSeconds (INT_MAX + 1900) 12 31 23 59 59

/-- An `ASN1_TIME` holding a time: its offset from the epoch in seconds. -/
@[ext]
structure Asn1Time where
  secs : Int
  inRange : asn1TimeMin ≤ secs ∧ secs ≤ asn1TimeMax
  deriving DecidableEq

/-! ## The native functions -/

namespace lib.OpenSSLLib

/-- `ASN1_TIME_set(nullptr, t)`: `nullptr` when `OPENSSL_gmtime` cannot break
`t` down; otherwise a new `ASN1_TIME`, printed from the broken-down time with no
check of its year. It holds the time for the years 0000 to 9999; for any other
year it holds a string that is not a time (`"-0011231235959Z"`, or a year of
five digits and more). -/
def SSL_ASN1_TIME_set (t : Int) : Option (Option Asn1Time) :=
  if gmtimeMin ≤ t ∧ t ≤ gmtimeMax then
    some (if h : asn1TimeMin ≤ t ∧ t ≤ asn1TimeMax then some ⟨t, h⟩ else none)
  else none

/-- `ASN1_TIME_diff(&day, &sec, from, to)` as `(return value, day, sec)`. An
`ASN1_TIME` that is not a time (`none`) makes it return 0; the out-parameters
are then never read, and are 0 here. -/
def SSL_ASN1_TIME_diff (fromTime toTime : Option Asn1Time) : Int × Int × Int :=
  match fromTime, toTime with
  | some f, some t =>
    let diffDay := t.secs / 86400 - f.secs / 86400
    let diffSec := t.secs % 86400 - f.secs % 86400
    let (diffDay, diffSec) :=
      if diffDay > 0 ∧ diffSec < 0 then (diffDay - 1, diffSec + 86400) else (diffDay, diffSec)
    let (diffDay, diffSec) :=
      if diffDay < 0 ∧ diffSec > 0 then (diffDay + 1, diffSec - 86400) else (diffDay, diffSec)
    (1, diffDay, diffSec)
  | _, _ => (0, 0, 0)

end lib.OpenSSLLib

/-! ## The wrapper -/

/-- `_ASN1_TIME_diff`: the checked call, then the wrapper's own test that OpenSSL
kept its promise of equal signs. -/
def _ASN1_TIME_diff (fromTime toTime : Option Asn1Time) : Except Error (Int × Int) := do
  let (rv, pday, psec) := lib.OpenSSLLib.SSL_ASN1_TIME_diff fromTime toTime
  let _ ← OpensslCallIsOne.callChecked rv
  if (pday < 0 ∧ psec > 0) ∨ (pday > 0 ∧ psec < 0) then
    throw (.openSSLExceptionWith "OpenSSL violates API convention")
  return (pday, psec)

/-- `_ASN1_TIME_from_time_t`. -/
def _ASN1_TIME_from_time_t (t : Int) : Except Error (Option Asn1Time) :=
  OpensslCallPtr.callChecked (lib.OpenSSLLib.SSL_ASN1_TIME_set t)

/-- `secondsDiffToEpoch`: `time - epoch` in seconds, as `int64_t`. -/
def secondsDiffToEpoch (time : Option Asn1Time) : Except Error Int := do
  let epoch ← _ASN1_TIME_from_time_t 0
  let (days, seconds) ← _ASN1_TIME_diff epoch time
  let dayPart ← int64? (24 * 60 * 60 * days)
  let sum ← int64? (dayPart.val + seconds)
  return sum.val

/-- `ComparisonResult`. -/
inductive ComparisonResult where
  | Lesser
  | Greater
  | Equal
  deriving DecidableEq, Repr

/-- `minAsn1TimeAsTimeT`, the constant in `compare`. -/
def minAsn1TimeAsTimeT : Int := -62167219200

/-- `maxAsn1TimeAsTimeT`, the constant in `compare`. -/
def maxAsn1TimeAsTimeT : Int := 253402300799

/-- `compare(asn1Time, timeT)`: a `time_t` outside the `ASN1_TIME` range is
answered without OpenSSL; one inside it is converted and the difference read
by its signs. -/
def compare (asn1Time : Option Asn1Time) (timeT : Int) : Except Error ComparisonResult :=
  if timeT > maxAsn1TimeAsTimeT then .ok .Lesser
  else if timeT < minAsn1TimeAsTimeT then .ok .Greater
  else do
    let timeTAsAsn1 ← _ASN1_TIME_from_time_t timeT
    let (days, seconds) ← _ASN1_TIME_diff asn1Time timeTAsAsn1
    if days < 0 ∨ seconds < 0 then return .Greater
    else if days > 0 ∨ seconds > 0 then return .Lesser
    else return .Equal

/-- `checkAsn1TimeFitsIntoLimits`. -/
def checkAsn1TimeFitsIntoLimits (time : Option Asn1Time) (minValue maxValue : Int) :
    Except Error Unit := do
  if (← compare time minValue) = .Lesser then
    throw (.openSSLExceptionWith "ASN1_TIME is too small for new range")
  if (← compare time maxValue) = .Greater then
    throw (.openSSLExceptionWith "ASN1_TIME is too big for new range")

end mococrw.openssl

namespace MoCOCrW.Asn1Time

open mococrw.openssl

/-! ## The two constants of `compare` -/

/-- `minAsn1TimeAsTimeT` is 0000-01-01T00:00:00Z, as its comment says. -/
theorem minAsn1TimeAsTimeT_eq : minAsn1TimeAsTimeT = asn1TimeMin := by decide

/-- `maxAsn1TimeAsTimeT` is 9999-12-31T23:59:59Z. -/
theorem maxAsn1TimeAsTimeT_eq : maxAsn1TimeAsTimeT = asn1TimeMax := by decide

theorem asn1TimeMin_eq : asn1TimeMin = -62167219200 := by decide

theorem asn1TimeMax_eq : asn1TimeMax = 253402300799 := by decide

/-! ## `ASN1_TIME_diff` -/

/-- `d` days and `s` seconds make up `n` the way `ASN1_TIME_diff` promises:
`|s|` is below a day and the two parts never have opposite signs. Such a pair is
unique (`n`'s quotient and remainder by 86400, both rounded toward zero). -/
def DaySplit (n d s : Int) : Prop :=
  d * 86400 + s = n ∧ -86400 < s ∧ s < 86400 ∧ ¬(d < 0 ∧ 0 < s) ∧ ¬(0 < d ∧ s < 0)

theorem SSL_ASN1_TIME_diff_some (f t : Asn1Time) :
    ∃ d s, lib.OpenSSLLib.SSL_ASN1_TIME_diff (some f) (some t) = (1, d, s) ∧
      DaySplit (t.secs - f.secs) d s := by
  simp only [lib.OpenSSLLib.SSL_ASN1_TIME_diff]
  split_ifs <;> exact ⟨_, _, rfl, by unfold DaySplit; omega⟩

theorem _ASN1_TIME_diff_some (f t : Asn1Time) :
    ∃ d s, _ASN1_TIME_diff (some f) (some t) = .ok (d, s) ∧ DaySplit (t.secs - f.secs) d s := by
  obtain ⟨d, s, h, hs⟩ := SSL_ASN1_TIME_diff_some f t
  have hsign : ¬((d < 0 ∧ s > 0) ∨ (d > 0 ∧ s < 0)) := by unfold DaySplit at hs; omega
  exact ⟨d, s, by simp [_ASN1_TIME_diff, h, hsign], hs⟩

theorem gmtimeMin_eq : gmtimeMin = -67768040609740800 := by decide

theorem gmtimeMax_eq : gmtimeMax = 67768036191676799 := by decide

/-- Every year GeneralizedTime writes is one `gmtime_r` breaks down. -/
theorem gmtime_mem_of_mem {t : Int} (h : asn1TimeMin ≤ t ∧ t ≤ asn1TimeMax) :
    gmtimeMin ≤ t ∧ t ≤ gmtimeMax := by
  rw [asn1TimeMin_eq, asn1TimeMax_eq] at h
  rw [gmtimeMin_eq, gmtimeMax_eq]
  omega

theorem _ASN1_TIME_from_time_t_of_mem {t : Int} (h : asn1TimeMin ≤ t ∧ t ≤ asn1TimeMax) :
    _ASN1_TIME_from_time_t t = .ok (some ⟨t, h⟩) := by
  simp [_ASN1_TIME_from_time_t, lib.OpenSSLLib.SSL_ASN1_TIME_set, h, gmtime_mem_of_mem h]

/-- Outside the years 0000 to 9999, `_ASN1_TIME_from_time_t` returns an
`ASN1_TIME` that is not a time, as long as `gmtime_r` breaks `t` down, and
throws beyond that. -/
theorem _ASN1_TIME_from_time_t_of_not_mem {t : Int} (h : ¬(asn1TimeMin ≤ t ∧ t ≤ asn1TimeMax)) :
    _ASN1_TIME_from_time_t t =
      if gmtimeMin ≤ t ∧ t ≤ gmtimeMax then .ok none else .error .openSSLException := by
  by_cases hg : gmtimeMin ≤ t ∧ t ≤ gmtimeMax <;>
    simp [_ASN1_TIME_from_time_t, lib.OpenSSLLib.SSL_ASN1_TIME_set, h, hg]

theorem epoch_mem : asn1TimeMin ≤ 0 ∧ (0 : Int) ≤ asn1TimeMax := by
  rw [asn1TimeMin_eq, asn1TimeMax_eq]; omega

/-- **`secondsDiffToEpoch` is exact**: it returns the offset of every time of
the range, and neither the day product nor the sum leaves `int64_t`. -/
theorem secondsDiffToEpoch_some (a : Asn1Time) : secondsDiffToEpoch (some a) = .ok a.secs := by
  have ha := a.inRange
  rw [asn1TimeMin_eq, asn1TimeMax_eq] at ha
  obtain ⟨d, s, hd, hs⟩ := _ASN1_TIME_diff_some ⟨0, epoch_mem⟩ a
  unfold DaySplit at hs
  dsimp only at hs
  have h1 : FitsSigned 64 (24 * 60 * 60 * d) := by rw [fitsSigned_64]; omega
  have h2 : FitsSigned 64 (24 * 60 * 60 * d + s) := by rw [fitsSigned_64]; omega
  simp only [secondsDiffToEpoch, _ASN1_TIME_from_time_t_of_mem epoch_mem, hd,
    int64?_of_fitsSigned h1, int64?_of_fitsSigned h2, ok_bind, pure_eq_ok]
  congr 1
  omega

/-- An `ASN1_TIME` that is not a time, on either side, makes the checked
`ASN1_TIME_diff` throw. -/
theorem _ASN1_TIME_diff_of_none {f t : Option Asn1Time} (h : f = none ∨ t = none) :
    _ASN1_TIME_diff f t = .error .openSSLException := by
  rcases h with rfl | rfl
  · cases t <;> rfl
  · cases f <;> rfl

theorem secondsDiffToEpoch_none : secondsDiffToEpoch none = .error .openSSLException := by
  simp only [secondsDiffToEpoch, _ASN1_TIME_from_time_t_of_mem epoch_mem, ok_bind,
    _ASN1_TIME_diff_of_none (.inr rfl), error_bind]

/-! ## `compare` and `checkAsn1TimeFitsIntoLimits` -/

/-- Where `s` stands against `t`, in `compare`'s words. -/
def expectedComparison (s t : Int) : ComparisonResult :=
  if s < t then .Lesser else if s = t then .Equal else .Greater

theorem expectedComparison_eq_Lesser {s t : Int} : expectedComparison s t = .Lesser ↔ s < t := by
  unfold expectedComparison
  split_ifs <;> simp_all

theorem expectedComparison_eq_Greater {s t : Int} :
    expectedComparison s t = .Greater ↔ t < s := by
  unfold expectedComparison
  split_ifs <;> simp <;> omega

theorem compare_some (a : Asn1Time) (t : Int) :
    mococrw.openssl.compare (some a) t = .ok (expectedComparison a.secs t) := by
  have ha := a.inRange
  have hmin := minAsn1TimeAsTimeT_eq
  have hmax := maxAsn1TimeAsTimeT_eq
  unfold mococrw.openssl.compare
  split_ifs with h1 h2
  · rw [expectedComparison_eq_Lesser.mpr (by omega : a.secs < t)]
  · rw [expectedComparison_eq_Greater.mpr (by omega : t < a.secs)]
  · have ht : asn1TimeMin ≤ t ∧ t ≤ asn1TimeMax := by omega
    obtain ⟨d, s, hd, hs⟩ := _ASN1_TIME_diff_some a ⟨t, ht⟩
    simp only [_ASN1_TIME_from_time_t_of_mem ht, hd, ok_bind, pure_eq_ok]
    unfold DaySplit at hs
    dsimp only at hs
    -- the sign of the difference `t - a` is the sign of its day and second parts
    rcases lt_trichotomy a.secs t with hlt | heq | hgt
    · rw [expectedComparison_eq_Lesser.mpr hlt, if_neg (by omega), if_pos (by omega)]
    · rw [if_neg (by omega), if_neg (by omega), heq]
      simp [expectedComparison]
    · rw [expectedComparison_eq_Greater.mpr hgt, if_pos (by omega)]

theorem checkAsn1TimeFitsIntoLimits_some (a : Asn1Time) (lo hi : Int) :
    checkAsn1TimeFitsIntoLimits (some a) lo hi =
      if a.secs < lo then .error (.openSSLExceptionWith "ASN1_TIME is too small for new range")
      else if hi < a.secs then .error (.openSSLExceptionWith "ASN1_TIME is too big for new range")
      else .ok () := by
  simp only [checkAsn1TimeFitsIntoLimits, compare_some, ok_bind, expectedComparison_eq_Lesser,
    expectedComparison_eq_Greater]
  split_ifs <;> rfl

/-- For an `ASN1_TIME` that is not a time, `compare` answers only the
`time_t`s past either end of the range, without OpenSSL, and throws for all
others. -/
theorem compare_none (t : Int) :
    mococrw.openssl.compare none t =
      if t > maxAsn1TimeAsTimeT then .ok .Lesser
      else if t < minAsn1TimeAsTimeT then .ok .Greater
      else .error .openSSLException := by
  unfold mococrw.openssl.compare
  split_ifs with h₁ h₂
  · rfl
  · rfl
  · have ht : asn1TimeMin ≤ t ∧ t ≤ asn1TimeMax := by
      rw [← minAsn1TimeAsTimeT_eq, ← maxAsn1TimeAsTimeT_eq]; omega
    simp only [_ASN1_TIME_from_time_t_of_mem ht, ok_bind, _ASN1_TIME_diff_of_none (.inl rfl),
      error_bind]

/-- **`compare` is exact.** For a time `a` of the `ASN1_TIME` range and every
`time_t` (every integer, in fact, inside the range or past either end),
`compare` returns and says where `a` stands against it; so the range check
throws exactly when `a` is below the lower bound or above the upper one, with
the message of the bound it missed. -/
theorem compare_exact (a : Asn1Time) (t lo hi : Int) :
    mococrw.openssl.compare (some a) t = .ok (expectedComparison a.secs t) ∧
      checkAsn1TimeFitsIntoLimits (some a) lo hi =
        if a.secs < lo then .error (.openSSLExceptionWith "ASN1_TIME is too small for new range")
        else if hi < a.secs then .error (.openSSLExceptionWith "ASN1_TIME is too big for new range")
        else .ok () :=
  ⟨compare_some a t, checkAsn1TimeFitsIntoLimits_some a lo hi⟩

end MoCOCrW.Asn1Time
