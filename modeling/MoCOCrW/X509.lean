/-
The certificate accessors of `src/openssl_wrap.cpp`: the validity bounds
(lines 833-897) and the serial number (lines 1094-1126).

An `X509` is modelled by the three fields these wrappers touch. Its validity
bounds are `ASN1_TIME` objects, and such an object need not hold a time (the
empty one `X509_new` leaves behind does not), so each bound is an
`Option Asn1Time`. The serial number is an `ASN1_INTEGER`, an `Int` of any
size and sign.

The setters change the certificate behind the pointer they are given, so they
run in `EStateM Error X509`; when one throws, the state that comes out with the
exception is the certificate as the caller finds it afterwards. The getters
only read, and return `Except`.

`notBefore` and `notAfter` are one family: the four pairs of wrappers differ
only in which OpenSSL accessor they call, so each pair is one definition over
`Validity`, and each wrapper keeps its own name as that definition at its bound.
-/
import MoCOCrW.TimePoint
import MoCOCrW.BigNum

set_option autoImplicit false

namespace mococrw.openssl

/-- The parts of an `X509` the modelled wrappers read or write. -/
structure X509 where
  serialNumber : Int
  notBefore : Option Asn1Time
  notAfter : Option Asn1Time
  deriving DecidableEq

/-- The two validity bounds of a certificate. -/
inductive Validity where
  | notBefore
  | notAfter
  deriving DecidableEq, Repr

/-- The bound `v` of `x`. -/
def X509.validity (x : X509) : Validity → Option Asn1Time
  | .notBefore => x.notBefore
  | .notAfter => x.notAfter

/-- `x` with its bound `v` replaced. -/
def X509.setValidity (x : X509) : Validity → Option Asn1Time → X509
  | .notBefore, t => { x with notBefore := t }
  | .notAfter, t => { x with notAfter := t }

/-! ## The native functions -/

namespace lib.OpenSSLLib

/-- `X509_get_notBefore` / `X509_get_notAfter`: a pointer into the certificate. -/
def SSL_X509_get_validity (v : Validity) (x : X509) : Option (Option Asn1Time) :=
  some (x.validity v)

/-- `X509_set1_notBefore` / `X509_set1_notAfter`: copy the time in. -/
def SSL_X509_set_validity (v : Validity) (x : X509) (tm : Option Asn1Time) : Int × X509 :=
  (1, x.setValidity v tm)

/-- `X509_get_notBefore`. -/
def SSL_X509_get_notBefore (x : X509) : Option (Option Asn1Time) :=
  SSL_X509_get_validity .notBefore x

/-- `X509_get_notAfter`. -/
def SSL_X509_get_notAfter (x : X509) : Option (Option Asn1Time) :=
  SSL_X509_get_validity .notAfter x

/-- `X509_set1_notBefore`. -/
def SSL_X509_set_notBefore (x : X509) (tm : Option Asn1Time) : Int × X509 :=
  SSL_X509_set_validity .notBefore x tm

/-- `X509_set1_notAfter`. -/
def SSL_X509_set_notAfter (x : X509) (tm : Option Asn1Time) : Int × X509 :=
  SSL_X509_set_validity .notAfter x tm

/-- `X509_get_serialNumber`: a pointer into the certificate. -/
def SSL_X509_get_serialNumber (x : X509) : Option Int := some x.serialNumber

/-- `X509_set_serialNumber`: copy the integer in. -/
def SSL_X509_set_serialNumber (x : X509) (serial : Int) : Int × X509 :=
  (1, { x with serialNumber := serial })

end lib.OpenSSLLib

/-! ## Validity -/

/-- `_X509_get_notBefore_ASN1` / `_X509_get_notAfter_ASN1`. -/
def _X509_get_validity_ASN1 (v : Validity) (x : X509) : Except Error (Option Asn1Time) :=
  OpensslCallPtr.callChecked (lib.OpenSSLLib.SSL_X509_get_validity v x)

/-- `_X509_get_notBefore` / `_X509_get_notAfter`. -/
def _X509_get_validity (clk : SystemClock) (v : Validity) (x : X509) :
    Except Error TimePoint := do
  let asn1time ← _X509_get_validity_ASN1 v x
  _asn1TimeToTimePoint clk asn1time

/-- `_X509_set_notBefore_ASN1` / `_X509_set_notAfter_ASN1`. -/
def _X509_set_validity_ASN1 (v : Validity) (asn1time : Option Asn1Time) :
    EStateM Error X509 Unit := do
  let (rv, x) := lib.OpenSSLLib.SSL_X509_set_validity v (← get) asn1time
  let _ ← MonadExcept.ofExcept (OpensslCallIsOne.callChecked rv)
  set x

/-- `_X509_set_notBefore` / `_X509_set_notAfter`. -/
def _X509_set_validity (clk : SystemClock) (v : Validity) (t : TimePoint) :
    EStateM Error X509 Unit := do
  let asn1time ← MonadExcept.ofExcept (_ASN1_TIME_from_time_t (to_time_t clk t))
  _X509_set_validity_ASN1 v asn1time

/-- `_X509_get_notBefore_ASN1`. -/
def _X509_get_notBefore_ASN1 (x : X509) : Except Error (Option Asn1Time) :=
  _X509_get_validity_ASN1 .notBefore x

/-- `_X509_get_notAfter_ASN1`. -/
def _X509_get_notAfter_ASN1 (x : X509) : Except Error (Option Asn1Time) :=
  _X509_get_validity_ASN1 .notAfter x

/-- `_X509_get_notBefore`. -/
def _X509_get_notBefore (clk : SystemClock) (x : X509) : Except Error TimePoint :=
  _X509_get_validity clk .notBefore x

/-- `_X509_get_notAfter`. -/
def _X509_get_notAfter (clk : SystemClock) (x : X509) : Except Error TimePoint :=
  _X509_get_validity clk .notAfter x

/-- `_X509_set_notBefore_ASN1`. -/
def _X509_set_notBefore_ASN1 (asn1time : Option Asn1Time) : EStateM Error X509 Unit :=
  _X509_set_validity_ASN1 .notBefore asn1time

/-- `_X509_set_notAfter_ASN1`. -/
def _X509_set_notAfter_ASN1 (asn1time : Option Asn1Time) : EStateM Error X509 Unit :=
  _X509_set_validity_ASN1 .notAfter asn1time

/-- `_X509_set_notBefore`. -/
def _X509_set_notBefore (clk : SystemClock) (t : TimePoint) : EStateM Error X509 Unit :=
  _X509_set_validity clk .notBefore t

/-- `_X509_set_notAfter`. -/
def _X509_set_notAfter (clk : SystemClock) (t : TimePoint) : EStateM Error X509 Unit :=
  _X509_set_validity clk .notAfter t

/-! ## Serial number -/

/-- `_X509_get_serialNumber`. -/
def _X509_get_serialNumber (x : X509) : Except Error UInt64 := do
  let serialNumber ← OpensslCallPtr.callChecked (lib.OpenSSLLib.SSL_X509_get_serialNumber x)
  Asn1IntegerToInt64 serialNumber

/-- `_X509_set_serialNumber`. The `uint64_t` is converted to the `long` that
`ASN1_INTEGER_set` takes. -/
def _X509_set_serialNumber (serial : UInt64) : EStateM Error X509 Unit := do
  if (serial.toNat : Int) > LONG_MAX then
    throw (.openSSLExceptionWith "Serial number is out of the accepted range.")
  let asn1Serial ← MonadExcept.ofExcept
    (OpensslCallPtr.callChecked lib.OpenSSLLib.SSL_ASN1_INTEGER_new)
  let (rv, asn1Serial) :=
    lib.OpenSSLLib.SSL_ASN1_INTEGER_set asn1Serial (wrapSigned 64 serial.toNat)
  let _ ← MonadExcept.ofExcept (OpensslCallIsPositive.callChecked rv)
  let (rv, x) := lib.OpenSSLLib.SSL_X509_set_serialNumber (← get) asn1Serial
  let _ ← MonadExcept.ofExcept (OpensslCallIsPositive.callChecked rv)
  set x

/-- `_X509_get_serialNumber_dec`. -/
def _X509_get_serialNumber_dec (x : X509) : Except Error String := do
  let asn1SerialNumber ← OpensslCallPtr.callChecked (lib.OpenSSLLib.SSL_X509_get_serialNumber x)
  Asn1IntegerToString asn1SerialNumber

/-- `_X509_get_serialNumber_bin`. -/
def _X509_get_serialNumber_bin (x : X509) : Except Error (List UInt8) := do
  let asn1SerialNumber ← OpensslCallPtr.callChecked (lib.OpenSSLLib.SSL_X509_get_serialNumber x)
  Asn1IntegerToBinary asn1SerialNumber

end mococrw.openssl

namespace MoCOCrW.X509

open mococrw.openssl MoCOCrW.Asn1Time MoCOCrW.TimePoint MoCOCrW.BigNum

/-! ## The certificate record -/

@[simp] theorem validity_setValidity (x : X509) (v : Validity) (tm : Option Asn1Time) :
    (x.setValidity v tm).validity v = tm := by
  cases v <;> rfl

@[simp] theorem serialNumber_setValidity (x : X509) (v : Validity) (tm : Option Asn1Time) :
    (x.setValidity v tm).serialNumber = x.serialNumber := by
  cases v <;> rfl

/-- Setting one bound leaves the other. -/
theorem validity_setValidity_of_ne (x : X509) {v w : Validity} (h : v ≠ w)
    (tm : Option Asn1Time) : (x.setValidity v tm).validity w = x.validity w := by
  cases v <;> cases w <;> first | rfl | exact absurd rfl h

/-! ## The setters -/

theorem _X509_set_validity_ASN1_run (v : Validity) (tm : Option Asn1Time) (x : X509) :
    (_X509_set_validity_ASN1 v tm).run x = .ok () (x.setValidity v tm) := rfl

theorem _X509_set_serialNumber_run_of_gt {s : UInt64} (h : LONG_MAX < s.toNat) (x : X509) :
    (_X509_set_serialNumber s).run x =
      .error (.openSSLExceptionWith "Serial number is out of the accepted range.") x := by
  simp [_X509_set_serialNumber, h, throw, throwThe, MonadExceptOf.throw, EStateM.throw, bind,
    EStateM.bind]

theorem _X509_set_serialNumber_run_of_le {s : UInt64} (h : (s.toNat : Int) ≤ LONG_MAX) (x : X509) :
    (_X509_set_serialNumber s).run x = .ok () { x with serialNumber := s.toNat } := by
  have hfit : FitsSigned 64 (s.toNat : Int) := by rw [fitsSigned_64]; unfold LONG_MAX at h; omega
  simp [_X509_set_serialNumber, not_lt.mpr h, wrapSigned_of_fitsSigned (by decide) hfit, bind,
    EStateM.bind, lib.OpenSSLLib.SSL_ASN1_INTEGER_new, lib.OpenSSLLib.SSL_ASN1_INTEGER_set,
    lib.OpenSSLLib.SSL_X509_set_serialNumber, callChecked_positive, pure, EStateM.pure, get,
    getThe, MonadStateOf.get, EStateM.get, set, EStateM.set]
theorem _X509_set_validity_run_of_mem (clk : SystemClock) (v : Validity) (t : TimePoint)
    (x : X509) (h : asn1TimeMin ≤ to_time_t clk t ∧ to_time_t clk t ≤ asn1TimeMax) :
    (_X509_set_validity clk v t).run x = .ok () (x.setValidity v (some ⟨to_time_t clk t, h⟩)) := by
  simp only [_X509_set_validity, run_eq_apply, bind, EStateM.bind, _ASN1_TIME_from_time_t_of_mem h,
    ofExcept_ok_apply]
  exact _X509_set_validity_ASN1_run v _ x

/-- Outside the years 0000 to 9999 the setter stores an `ASN1_TIME` that is not
a time, unless `gmtime_r` cannot break the second down, and then it throws. -/
theorem _X509_set_validity_run_of_not_mem (clk : SystemClock) (v : Validity) (t : TimePoint)
    (x : X509) (h : ¬(asn1TimeMin ≤ to_time_t clk t ∧ to_time_t clk t ≤ asn1TimeMax)) :
    (_X509_set_validity clk v t).run x =
      if gmtimeMin ≤ to_time_t clk t ∧ to_time_t clk t ≤ gmtimeMax then .ok () (x.setValidity v none)
      else .error .openSSLException x := by
  rw [run_eq_apply, _X509_set_validity, _ASN1_TIME_from_time_t_of_not_mem h]
  split_ifs
  · exact _X509_set_validity_ASN1_run v none x
  · rfl

/-! ## The getters -/

theorem _X509_get_validity_eq (clk : SystemClock) (v : Validity) (x : X509) :
    _X509_get_validity clk v x = _asn1TimeToTimePoint clk (x.validity v) := by
  unfold _X509_get_validity _X509_get_validity_ASN1
  rw [lib.OpenSSLLib.SSL_X509_get_validity, OpensslCallPtr.callChecked_some, ok_bind]

theorem _X509_get_serialNumber_eq (x : X509) :
    _X509_get_serialNumber x = Asn1IntegerToInt64 x.serialNumber := rfl

/-! ## Round trips -/

/-- One bound, set to any time point whose second lies in the `ASN1_TIME` range
and read back: the time point truncated toward zero to a whole second. -/
theorem validity_set_get_ticks (clk : SystemClock) (v : Validity) (x : X509) (tp : TimePoint)
    (hr : asn1TimeMin ≤ to_time_t clk tp ∧ to_time_t clk tp ≤ asn1TimeMax) :
    ∃ x', (_X509_set_validity clk v tp).run x = .ok () x' ∧
      ∃ tp', _X509_get_validity clk v x' = .ok tp' ∧ tp'.ticks = to_time_t clk tp * clk.period := by
  have hb := le_to_time_t_of_fitsSigned (fitsSigned_tdiv_mul tp.ticks_fits clk)
  refine ⟨_, _X509_set_validity_run_of_mem clk v tp x hr, ?_⟩
  rw [_X509_get_validity_eq, validity_setValidity, _asn1TimeToTimePoint_some]
  simp only [to_time_t] at hb ⊢
  simp only [if_neg (not_lt.mpr hb.1), dif_neg (not_lt.mpr hb.2), dif_pos hb.1]
  exact ⟨_, rfl, rfl⟩

/-- One bound, set to a whole number of seconds of the `ASN1_TIME` range and
read back. -/
theorem validity_set_get (clk : SystemClock) (v : Validity) (x : X509) (tp : TimePoint) (s : Int)
    (hs : tp.ticks = s * clk.period) (hr : asn1TimeMin ≤ s ∧ s ≤ asn1TimeMax) :
    ∃ x', (_X509_set_validity clk v tp).run x = .ok () x' ∧ _X509_get_validity clk v x' = .ok tp := by
  have hts := to_time_t_of_ticks hs
  obtain ⟨x', hset, tp', hget, hticks⟩ := validity_set_get_ticks clk v x tp (hts ▸ hr)
  refine ⟨x', hset, hget.trans (congrArg Except.ok (TimePoint.ext ?_))⟩
  rw [hticks, hts, hs]

/-- **Validity round trip, at any tick.** For every certificate and every time
point whose second (`to_time_t`) lies in the `ASN1_TIME` range, setting
`notBefore` (or `notAfter`) succeeds and reading it back returns the time point
truncated toward zero to a whole second: the tick count less its remainder
modulo the clock's period. Sub-second parts are lost, and before the epoch the
time read back is later than the one set. -/
theorem validity_roundtrip_truncates (clk : SystemClock) (x : X509) (tp : TimePoint)
    (hr : asn1TimeMin ≤ to_time_t clk tp ∧ to_time_t clk tp ≤ asn1TimeMax) :
    (∃ x', (_X509_set_notBefore clk tp).run x = .ok () x' ∧ ∃ tp', _X509_get_notBefore clk x' = .ok tp' ∧
        tp'.ticks = tp.ticks - tp.ticks.tmod clk.period) ∧
      (∃ x', (_X509_set_notAfter clk tp).run x = .ok () x' ∧ ∃ tp', _X509_get_notAfter clk x' = .ok tp' ∧
        tp'.ticks = tp.ticks - tp.ticks.tmod clk.period) := by
  have htrunc : to_time_t clk tp * clk.period = tp.ticks - tp.ticks.tmod clk.period := by
    rw [to_time_t, Int.tmod_def]; ring
  refine ⟨?_, ?_⟩ <;>
  · obtain ⟨x', hset, tp', hget, hticks⟩ := validity_set_get_ticks clk _ x tp hr
    exact ⟨x', hset, tp', hget, hticks.trans htrunc⟩

theorem validity_roundtrip_truncates_before_epoch :
    (asn1TimeMin ≤ to_time_t nanoClock ⟨-1, by decide⟩ ∧
        to_time_t nanoClock ⟨-1, by decide⟩ ≤ asn1TimeMax) ∧
      ∃ x', (_X509_set_notBefore nanoClock ⟨-1, by decide⟩).run ⟨0, none, none⟩ = .ok () x' ∧
        ∃ tp', _X509_get_notBefore nanoClock x' = .ok tp' ∧ tp'.ticks = -1 - Int.tmod (-1) 1000000000 :=
  have hr : asn1TimeMin ≤ to_time_t nanoClock ⟨-1, by decide⟩ ∧
      to_time_t nanoClock ⟨-1, by decide⟩ ≤ asn1TimeMax := by
    rw [asn1TimeMin_eq, asn1TimeMax_eq]; decide
  ⟨hr, (validity_roundtrip_truncates nanoClock ⟨0, none, none⟩ ⟨-1, by decide⟩ hr).1⟩

/-- **Validity round trip.** For every certificate and every time point a whole
number `s` of seconds after the epoch with `s` in the `ASN1_TIME` range,
setting `notBefore` (or `notAfter`) succeeds and reading it back returns exactly
that time point. -/
theorem validity_roundtrip (clk : SystemClock) (x : X509) (tp : TimePoint) (s : Int)
    (hs : tp.ticks = s * clk.period) (hr : asn1TimeMin ≤ s ∧ s ≤ asn1TimeMax) :
    (∃ x', (_X509_set_notBefore clk tp).run x = .ok () x' ∧ _X509_get_notBefore clk x' = .ok tp) ∧
      (∃ x', (_X509_set_notAfter clk tp).run x = .ok () x' ∧ _X509_get_notAfter clk x' = .ok tp) :=
  ⟨validity_set_get clk .notBefore x tp s hs hr, validity_set_get clk .notAfter x tp s hs hr⟩

theorem validity_roundtrip_epoch :
    ((⟨0, fitsSigned_zero⟩ : TimePoint).ticks = 0 * nanoClock.period ∧
        asn1TimeMin ≤ 0 ∧ (0 : Int) ≤ asn1TimeMax) ∧
      ∃ x', (_X509_set_notBefore nanoClock ⟨0, fitsSigned_zero⟩).run ⟨0, none, none⟩ = .ok () x' ∧
        _X509_get_notBefore nanoClock x' = .ok ⟨0, fitsSigned_zero⟩ :=
  ⟨⟨rfl, epoch_mem⟩,
    (validity_roundtrip nanoClock ⟨0, none, none⟩ ⟨0, fitsSigned_zero⟩ 0 rfl epoch_mem).1⟩

/-- One bound, set to a time point of a year outside 0000 to 9999 that
`gmtime_r` still breaks down, and read back. -/
theorem validity_set_get_not_mem (clk : SystemClock) (v : Validity) (x : X509) (tp : TimePoint)
    (hr : ¬(asn1TimeMin ≤ to_time_t clk tp ∧ to_time_t clk tp ≤ asn1TimeMax))
    (hg : gmtimeMin ≤ to_time_t clk tp ∧ to_time_t clk tp ≤ gmtimeMax) :
    ∃ x', (_X509_set_validity clk v tp).run x = .ok () x' ∧
      _X509_get_validity clk v x' = .error .openSSLException := by
  refine ⟨_, by rw [_X509_set_validity_run_of_not_mem clk v tp x hr, if_pos hg], ?_⟩
  rw [_X509_get_validity_eq, validity_setValidity, _asn1TimeToTimePoint_none]

/-- **Outside the years 0000 to 9999 the setters store a time that cannot be
read back.** For every certificate and every time point whose second lies
outside the `ASN1_TIME` range but where `gmtime_r` still breaks it down (a
clock coarser than libstdc++'s nanoseconds reaches there: libc++'s counts
microseconds), `_X509_set_notBefore` (and `_X509_set_notAfter`) returns
normally, having stored an `ASN1_TIME` that is not a time, and
`_X509_get_notBefore` (`_X509_get_notAfter`) then throws. -/
theorem validity_roundtrip_unreadable (clk : SystemClock) (x : X509) (tp : TimePoint)
    (hr : ¬(asn1TimeMin ≤ to_time_t clk tp ∧ to_time_t clk tp ≤ asn1TimeMax))
    (hg : gmtimeMin ≤ to_time_t clk tp ∧ to_time_t clk tp ≤ gmtimeMax) :
    (∃ x', (_X509_set_notBefore clk tp).run x = .ok () x' ∧
        _X509_get_notBefore clk x' = .error .openSSLException) ∧
      (∃ x', (_X509_set_notAfter clk tp).run x = .ok () x' ∧
        _X509_get_notAfter clk x' = .error .openSSLException) :=
  ⟨validity_set_get_not_mem clk .notBefore x tp hr hg,
    validity_set_get_not_mem clk .notAfter x tp hr hg⟩

theorem validity_roundtrip_unreadable_year_11476 :
    (¬(asn1TimeMin ≤ to_time_t ⟨1000000, by decide⟩ ⟨300000000000000000, by decide⟩ ∧
        to_time_t ⟨1000000, by decide⟩ ⟨300000000000000000, by decide⟩ ≤ asn1TimeMax) ∧
      (gmtimeMin ≤ to_time_t ⟨1000000, by decide⟩ ⟨300000000000000000, by decide⟩ ∧
        to_time_t ⟨1000000, by decide⟩ ⟨300000000000000000, by decide⟩ ≤ gmtimeMax)) ∧
      ∃ x', (_X509_set_notBefore ⟨1000000, by decide⟩ ⟨300000000000000000, by decide⟩).run
          ⟨0, none, none⟩ = .ok () x' ∧
        _X509_get_notBefore ⟨1000000, by decide⟩ x' = .error .openSSLException :=
  have hr : ¬(asn1TimeMin ≤ to_time_t ⟨1000000, by decide⟩ ⟨300000000000000000, by decide⟩ ∧
      to_time_t ⟨1000000, by decide⟩ ⟨300000000000000000, by decide⟩ ≤ asn1TimeMax) := by
    rw [asn1TimeMin_eq, asn1TimeMax_eq]; decide
  have hg : gmtimeMin ≤ to_time_t ⟨1000000, by decide⟩ ⟨300000000000000000, by decide⟩ ∧
      to_time_t ⟨1000000, by decide⟩ ⟨300000000000000000, by decide⟩ ≤ gmtimeMax := by
    rw [gmtimeMin_eq, gmtimeMax_eq]; decide
  ⟨⟨hr, hg⟩, (validity_roundtrip_unreadable ⟨1000000, by decide⟩ ⟨0, none, none⟩
    ⟨300000000000000000, by decide⟩ hr hg).1⟩

/-- **Serial number round trip.** A serial up to `LONG_MAX` is stored and read
back unchanged; a larger one makes `_X509_set_serialNumber` throw before it
touches the certificate, which therefore still holds, and reads back as, its
old serial. -/
theorem serialNumber_roundtrip (x : X509) (s : UInt64) :
    ((s.toNat : Int) ≤ LONG_MAX →
        ∃ x', (_X509_set_serialNumber s).run x = .ok () x' ∧ _X509_get_serialNumber x' = .ok s) ∧
      (LONG_MAX < s.toNat → (_X509_set_serialNumber s).run x =
        .error (.openSSLExceptionWith "Serial number is out of the accepted range.") x) := by
  refine ⟨fun h => ⟨_, _X509_set_serialNumber_run_of_le h x, ?_⟩,
    fun h => _X509_set_serialNumber_run_of_gt h x⟩
  rw [_X509_get_serialNumber_eq, Asn1IntegerToInt64_eq, if_pos ⟨Int.natCast_nonneg _, h⟩,
    toUInt64_natCast]

/-! ## The three read paths of the serial number -/

theorem _X509_get_serialNumber_dec_eq (x : X509) :
    _X509_get_serialNumber_dec x = .ok (toString x.serialNumber) := rfl

theorem _X509_get_serialNumber_bin_eq (x : X509) :
    _X509_get_serialNumber_bin x = Asn1IntegerToBinary x.serialNumber := rfl

/-- **The read paths agree on a positive serial**, of any size: the decimal
path returns its numeral, the binary path its magnitude in the fewest
big-endian bytes, and, up to `LONG_MAX`, the `uint64_t` path the number. -/
theorem serialNumber_read_paths_pos (x : X509) (h : 0 < x.serialNumber) :
    _X509_get_serialNumber_dec x = .ok (toString x.serialNumber) ∧
      (∃ bytes, _X509_get_serialNumber_bin x = .ok bytes ∧
        (beValue bytes : Int) = x.serialNumber ∧ bytes.length = numBytes x.serialNumber.natAbs) ∧
      (x.serialNumber ≤ LONG_MAX → _X509_get_serialNumber x = .ok (toUInt64 x.serialNumber)) := by
  have hn : (x.serialNumber.natAbs : Int) = x.serialNumber := Int.natAbs_of_nonneg h.le
  refine ⟨_X509_get_serialNumber_dec_eq x,
    ⟨toBytesBE x.serialNumber.natAbs (numBytes x.serialNumber.natAbs), ?_, ?_,
      length_toBytesBE _ _⟩, fun hle => ?_⟩
  · rw [_X509_get_serialNumber_bin_eq, Asn1IntegerToBinary_of_ne_zero h.ne']
  · rw [beValue_toBytesBE, Nat.mod_eq_of_lt (lt_pow_numBytes _), hn]
  · rw [_X509_get_serialNumber_eq, Asn1IntegerToInt64_eq, if_pos ⟨h.le, hle⟩]

theorem serialNumber_read_paths_five :
    (0 : Int) < 5 ∧ _X509_get_serialNumber_dec ⟨5, none, none⟩ = .ok "5" :=
  ⟨by decide, (serialNumber_read_paths_pos ⟨5, none, none⟩ (by decide)).1⟩

/-- **Serial zero.** `_X509_set_serialNumber` accepts 0, and afterwards the
`uint64_t` and decimal paths read 0 back while the binary path throws:
`BN_num_bytes` of zero is 0, which the positive-return policy refuses. -/
theorem serialNumber_zero_bin_throws (x : X509) :
    ∃ x', (_X509_set_serialNumber 0).run x = .ok () x' ∧
      _X509_get_serialNumber x' = .ok 0 ∧ _X509_get_serialNumber_dec x' = .ok "0" ∧
      _X509_get_serialNumber_bin x' = .error .openSSLException := by
  have h0 : ((0 : UInt64).toNat : Int) = 0 := rfl
  have hle : ((0 : UInt64).toNat : Int) ≤ LONG_MAX := by rw [h0]; decide
  refine ⟨_, _X509_set_serialNumber_run_of_le hle x, ?_, ?_, ?_⟩
  · rw [_X509_get_serialNumber_eq, Asn1IntegerToInt64_eq, if_pos ⟨le_of_eq h0.symm, hle⟩]
    rfl
  · rw [_X509_get_serialNumber_dec_eq, h0]
    rfl
  · rw [_X509_get_serialNumber_bin_eq]
    exact Asn1IntegerToBinary_zero

end MoCOCrW.X509
