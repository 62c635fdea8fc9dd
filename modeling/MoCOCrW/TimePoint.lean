/-
`ASN1_TIME` to `time_point` and to `time_t`: `_asn1TimeToTimePoint` and
`_asn1TimeToTimeT` of `src/openssl_wrap.cpp` (lines 801-831), with the part of
`std::chrono` they use.

Both conversions have the same shape: compute the bounds of the target type as
`time_t`, ask `checkAsn1TimeFitsIntoLimits` whether the time lies between them,
and only then convert `secondsDiffToEpoch`. The clock is any `system_clock`
whose `duration` counts `int64_t` ticks of `1/period` seconds (libstdc++ on
Linux: `period = 10^9`), and `time_t` is 64 bits wide on that path, so that
`to_time_t` is the exact quotient rounded toward zero. `_asn1TimeToTimeT` is
taken at every width `w` of `time_t`.

The conversion from seconds to ticks inside `epoch + 1s * n` is an `int64_t`
multiplication. Nothing in the source bounds it but the range check before it,
so the spec below says both: the check lets through exactly the times between
`to_time_t(min())` and `to_time_t(max())`, and for those the product fits.
-/
import MoCOCrW.Asn1Time

set_option autoImplicit false

namespace mococrw.openssl

/-! ## `std::chrono::system_clock` -/

/-- A `system_clock` whose `duration` is `int64_t` ticks of `ratio<1, period>`
seconds. -/
structure SystemClock where
  period : Nat
  period_pos : 0 < period

/-- A `system_clock::time_point`: its tick count since the epoch. -/
@[ext]
structure TimePoint where
  ticks : Int
  ticks_fits : FitsSigned 64 ticks
  deriving DecidableEq

/-- `time_point::max()`. -/
def TimePoint.max : TimePoint := ⟨2 ^ 63 - 1, by decide⟩

/-- `time_point::min()`. -/
def TimePoint.min : TimePoint := ⟨-2 ^ 63, by decide⟩

/-- `system_clock::to_time_t`: `duration_cast<seconds>`, a division that rounds
toward zero. -/
def to_time_t (clk : SystemClock) (t : TimePoint) : Int := t.ticks.tdiv clk.period

/-- `system_clock::from_time_t`: `time_point_cast` of `t` seconds to ticks. -/
def from_time_t (clk : SystemClock) (t : Int) : Except Error TimePoint := do
  let ticks ← int64? (t * clk.period)
  return ⟨ticks.val, ticks.property⟩

/-- `tp + 1s * n`: the `int64_t` count of seconds `1s * n`, converted to the
clock's ticks for the sum, which is then added in ticks. -/
def TimePoint.addSeconds (clk : SystemClock) (tp : TimePoint) (n : Int) :
    Except Error TimePoint := do
  let secs ← int64? (1 * n)
  let ticks ← int64? (secs.val * clk.period)
  let sum ← int64? (tp.ticks + ticks.val)
  return ⟨sum.val, sum.property⟩

/-! ## The conversions -/

/-- `_asn1TimeToTimePoint`. -/
def _asn1TimeToTimePoint (clk : SystemClock) (time : Option Asn1Time) :
    Except Error TimePoint := do
  let epoch ← from_time_t clk 0
  let maxTimePointAsTimeT := to_time_t clk TimePoint.max
  let minTimePointAsTimeT := to_time_t clk TimePoint.min
  checkAsn1TimeFitsIntoLimits time minTimePointAsTimeT maxTimePointAsTimeT
  epoch.addSeconds clk (← secondsDiffToEpoch time)

/-- `_asn1TimeToTimeT`, for a `time_t` of `w` bits. -/
def _asn1TimeToTimeT (w : Nat) (time : Option Asn1Time) : Except Error Int := do
  let maxTimeT : Int := 2 ^ (w - 1) - 1
  let minTimeT : Int := -2 ^ (w - 1)
  checkAsn1TimeFitsIntoLimits time minTimeT maxTimeT
  return wrapSigned w (← secondsDiffToEpoch time)

end mococrw.openssl

namespace MoCOCrW.TimePoint

open mococrw.openssl MoCOCrW.Asn1Time

/-! ## `std::chrono` pieces -/

theorem fitsSigned_zero : FitsSigned 64 0 := by rw [fitsSigned_64]; omega

theorem from_time_t_zero (clk : SystemClock) : from_time_t clk 0 = .ok ⟨0, fitsSigned_zero⟩ := by
  rw [from_time_t, Int.zero_mul, int64?_of_fitsSigned fitsSigned_zero]; rfl

theorem addSeconds_eq {clk : SystemClock} {tp : TimePoint} {n : Int} (h₁ : FitsSigned 64 n)
    (h₂ : FitsSigned 64 (n * clk.period)) (h₃ : FitsSigned 64 (tp.ticks + n * clk.period)) :
    tp.addSeconds clk n = .ok ⟨tp.ticks + n * clk.period, h₃⟩ := by
  simp only [TimePoint.addSeconds, Int.one_mul, int64?_of_fitsSigned h₁, int64?_of_fitsSigned h₂,
    int64?_of_fitsSigned h₃, ok_bind, pure_eq_ok]

theorem to_time_t_max (clk : SystemClock) :
    to_time_t clk TimePoint.max = (2 ^ 63 - 1) / (clk.period : Int) := by
  have h : (0 : Int) ≤ 2 ^ 63 - 1 := by omega
  exact Int.tdiv_eq_ediv h (Int.natCast_nonneg _)

theorem to_time_t_min (clk : SystemClock) :
    to_time_t clk TimePoint.min = -(2 ^ 63 / (clk.period : Int)) := by
  have h : (0 : Int) ≤ 2 ^ 63 := by omega
  rw [to_time_t, TimePoint.min, Int.neg_tdiv, Int.tdiv_eq_ediv h (Int.natCast_nonneg _)]

/-- Between `to_time_t(min())` and `to_time_t(max())`, a count of seconds has a
count of ticks in `int64_t`: rounding toward zero never rounds outward. -/
theorem fitsSigned_mul_period {clk : SystemClock} {s : Int}
    (hlo : to_time_t clk TimePoint.min ≤ s) (hhi : s ≤ to_time_t clk TimePoint.max) :
    FitsSigned 64 (s * clk.period) := by
  have hp : (0 : Int) < clk.period := by exact_mod_cast clk.period_pos
  rw [to_time_t_min] at hlo
  rw [to_time_t_max] at hhi
  have hl := Int.ediv_mul_le (2 ^ 63) hp.ne'
  have hh := Int.ediv_mul_le (2 ^ 63 - 1) hp.ne'
  have hl' := Int.mul_le_mul_of_nonneg_right hlo hp.le
  have hh' := Int.mul_le_mul_of_nonneg_right hhi hp.le
  rw [fitsSigned_64]
  constructor
  · rw [Int.neg_mul] at hl'; omega
  · omega

/-- Conversely, a count of seconds whose count of ticks is an `int64_t` lies
between `to_time_t(min())` and `to_time_t(max())`. -/
theorem le_to_time_t_of_fitsSigned {clk : SystemClock} {s : Int}
    (h : FitsSigned 64 (s * clk.period)) :
    to_time_t clk TimePoint.min ≤ s ∧ s ≤ to_time_t clk TimePoint.max := by
  have hp : (0 : Int) < clk.period := by exact_mod_cast clk.period_pos
  rw [fitsSigned_64] at h
  rw [to_time_t_min, to_time_t_max]
  constructor
  · have : -s ≤ 2 ^ 63 / (clk.period : Int) :=
      Int.le_ediv_of_mul_le hp (by rw [Int.neg_mul]; omega)
    omega
  · exact Int.le_ediv_of_mul_le hp (by omega)

/-- Truncating a tick count toward zero to whole seconds keeps it an `int64_t`. -/
theorem fitsSigned_tdiv_mul {t : Int} (h : FitsSigned 64 t) (clk : SystemClock) :
    FitsSigned 64 (t.tdiv clk.period * clk.period) := by
  have hp : (0 : Int) < clk.period := by exact_mod_cast clk.period_pos
  rw [fitsSigned_64] at h ⊢
  rcases Int.le_or_lt 0 t with ht | ht
  · have h₁ := Int.ediv_mul_le t hp.ne'
    have h₂ := Int.mul_nonneg (Int.ediv_nonneg ht hp.le) hp.le
    rw [Int.tdiv_eq_ediv ht hp.le]
    omega
  · have h₁ := Int.ediv_mul_le (-t) hp.ne'
    have h₂ := Int.mul_nonneg (Int.ediv_nonneg (by omega : 0 ≤ -t) hp.le) hp.le
    rw [show t = -(-t) by omega, Int.neg_tdiv, Int.tdiv_eq_ediv (by omega) hp.le, Int.neg_mul]
    omega

/-- A time point a whole number `s` of seconds after the epoch reads back as `s`. -/
theorem to_time_t_of_ticks {clk : SystemClock} {tp : TimePoint} {s : Int}
    (hs : tp.ticks = s * clk.period) : to_time_t clk tp = s := by
  have hp : (clk.period : Int) ≠ 0 := by have := clk.period_pos; omega
  rw [to_time_t, hs, Int.mul_tdiv_cancel _ hp]

/-! ## The conversions -/

theorem secs_fitsSigned_64 (a : Asn1Time) : FitsSigned 64 a.secs := by
  have ha := a.inRange
  rw [asn1TimeMin_eq, asn1TimeMax_eq] at ha
  rw [fitsSigned_64]; omega

theorem _asn1TimeToTimePoint_some (clk : SystemClock) (a : Asn1Time) :
    _asn1TimeToTimePoint clk (some a) =
      if a.secs < to_time_t clk TimePoint.min then
        .error (.openSSLExceptionWith "ASN1_TIME is too small for new range")
      else if h : to_time_t clk TimePoint.max < a.secs then
        .error (.openSSLExceptionWith "ASN1_TIME is too big for new range")
      else if h' : to_time_t clk TimePoint.min ≤ a.secs then
        .ok ⟨a.secs * clk.period, fitsSigned_mul_period h' (not_lt.mp h)⟩
      else .error .signedOverflow := by
  simp only [_asn1TimeToTimePoint, from_time_t_zero, checkAsn1TimeFitsIntoLimits_some,
    secondsDiffToEpoch_some, ok_bind]
  split_ifs with h₁ h₂ h₃
  · rfl
  · rfl
  · have hf := fitsSigned_mul_period h₃ (not_lt.mp h₂)
    rw [addSeconds_eq (secs_fitsSigned_64 a) hf (by simpa using hf)]
    simp only [ok_bind, Int.zero_add]
  · omega

theorem _asn1TimeToTimeT_some {w : Nat} (hw : 0 < w) (a : Asn1Time) :
    _asn1TimeToTimeT w (some a) =
      if a.secs < -2 ^ (w - 1) then
        .error (.openSSLExceptionWith "ASN1_TIME is too small for new range")
      else if 2 ^ (w - 1) - 1 < a.secs then
        .error (.openSSLExceptionWith "ASN1_TIME is too big for new range")
      else .ok a.secs := by
  simp only [_asn1TimeToTimeT, checkAsn1TimeFitsIntoLimits_some, secondsDiffToEpoch_some]
  split_ifs with h₁ h₂
  · rfl
  · rfl
  · have hfit : FitsSigned w a.secs := ⟨by omega, by omega⟩
    simp only [ok_bind, pure_eq_ok, wrapSigned_of_fitsSigned hw hfit]

/-- The epoch lies between the clock's ends. -/
theorem to_time_t_min_le_zero_le_max (clk : SystemClock) :
    to_time_t clk TimePoint.min ≤ 0 ∧ 0 ≤ to_time_t clk TimePoint.max := by
  rw [to_time_t_min, to_time_t_max]
  have h₁ : (0 : Int) ≤ 2 ^ 63 / (clk.period : Int) :=
    Int.ediv_nonneg (by omega) (Int.natCast_nonneg _)
  have h₂ : (0 : Int) ≤ (2 ^ 63 - 1) / (clk.period : Int) :=
    Int.ediv_nonneg (by omega) (Int.natCast_nonneg _)
  omega

/-- **An `ASN1_TIME` that is not a time never converts.** For every clock, the
range check asks OpenSSL about one of the clock's ends, or lets it through to
`secondsDiffToEpoch`, and either throws. -/
theorem _asn1TimeToTimePoint_none (clk : SystemClock) :
    _asn1TimeToTimePoint clk none = .error .openSSLException := by
  obtain ⟨hmin, hmax⟩ := to_time_t_min_le_zero_le_max clk
  have hlo : ¬to_time_t clk TimePoint.min > maxAsn1TimeAsTimeT := by
    unfold maxAsn1TimeAsTimeT; omega
  have hhi : ¬to_time_t clk TimePoint.max < minAsn1TimeAsTimeT := by
    unfold minAsn1TimeAsTimeT; omega
  simp only [_asn1TimeToTimePoint, from_time_t_zero, ok_bind, checkAsn1TimeFitsIntoLimits,
    compare_none, if_neg hlo, if_neg hhi]
  split_ifs <;> simp [secondsDiffToEpoch_none]

/-- A libstdc++ `system_clock`: nanosecond ticks. -/
def nanoClock : SystemClock := ⟨1000000000, by decide⟩

/-- **The conversions out of `ASN1_TIME` are exact.** For every time `a` of the
range: `secondsDiffToEpoch` returns its offset; `_asn1TimeToTimeT` for a
`time_t` of any width returns it when it fits and otherwise throws the message
of the bound it missed; and `_asn1TimeToTimePoint`, for any clock, throws
exactly outside `[to_time_t(min()), to_time_t(max())]` and inside returns the
time point that many seconds after the epoch, whose tick count `a.secs * period`
is therefore an `int64_t` (`TimePoint.ticks_fits`). -/
theorem asn1Time_conversions_exact (a : Asn1Time) (w : Nat) (hw : 0 < w) (clk : SystemClock) :
    secondsDiffToEpoch (some a) = .ok a.secs ∧
      _asn1TimeToTimeT w (some a) =
        (if a.secs < -2 ^ (w - 1) then
          .error (.openSSLExceptionWith "ASN1_TIME is too small for new range")
        else if 2 ^ (w - 1) - 1 < a.secs then
          .error (.openSSLExceptionWith "ASN1_TIME is too big for new range")
        else .ok a.secs) ∧
      (to_time_t clk TimePoint.min ≤ a.secs → a.secs ≤ to_time_t clk TimePoint.max →
        ∃ tp, _asn1TimeToTimePoint clk (some a) = .ok tp ∧ tp.ticks = a.secs * clk.period) ∧
      (a.secs < to_time_t clk TimePoint.min → _asn1TimeToTimePoint clk (some a) =
        .error (.openSSLExceptionWith "ASN1_TIME is too small for new range")) ∧
      (to_time_t clk TimePoint.max < a.secs → _asn1TimeToTimePoint clk (some a) =
        .error (.openSSLExceptionWith "ASN1_TIME is too big for new range")) := by
  have hclk := to_time_t_min_le_zero_le_max clk
  refine ⟨secondsDiffToEpoch_some a, _asn1TimeToTimeT_some hw a, fun h₁ h₂ => ?_, fun h => ?_,
    fun h => ?_⟩
  · rw [_asn1TimeToTimePoint_some, if_neg (not_lt.mpr h₁), dif_neg (not_lt.mpr h₂), dif_pos h₁]
    exact ⟨_, rfl, rfl⟩
  · rw [_asn1TimeToTimePoint_some, if_pos h]
  · have h' : ¬a.secs < to_time_t clk TimePoint.min := by omega
    rw [_asn1TimeToTimePoint_some, if_neg h', dif_pos h]

theorem asn1Time_conversions_exact_at_epoch :
    (0 : Nat) < 32 ∧ secondsDiffToEpoch (some ⟨0, epoch_mem⟩) = .ok 0 :=
  ⟨by decide, (asn1Time_conversions_exact ⟨0, epoch_mem⟩ 32 (by decide) nanoClock).1⟩

end MoCOCrW.TimePoint
