/-
Sequences of setter calls on one certificate: the store view of `X509.lean`.

A certificate is filled in by calling the setters one after another (the
certificate builder of MoCOCrW does this), and a C++ exception ends the
sequence. Each modelled setter decides from its arguments alone whether it
succeeds, and then either applies one update to the certificate or throws and
leaves it as it was (`run_apply`). Only two calls throw: a serial above
`LONG_MAX`, and a time point so far out that `gmtime_r` cannot break it down
(`X509Call.throws`); any other time point is stored, readable or not. Everything about whole runs follows from
that one step lemma by induction on the list of calls: a run is the abstract
store `applyOutcomes` (`runCalls_eq_applyOutcomes`); a run that returns leaves
every field at the last value written to it; a run that throws leaves the
certificate exactly as the calls before the failing one left it.
-/
import MoCOCrW.X509

set_option autoImplicit false

namespace mococrw.openssl

/-- A call of one of the modelled setters. -/
inductive X509Call where
  | setSerialNumber (serial : UInt64)
  | setValidity (v : Validity) (t : TimePoint)
  | setValidityASN1 (v : Validity) (asn1time : Option Asn1Time)

/-- The wrapper a call runs. -/
def X509Call.run (clk : SystemClock) : X509Call → EStateM Error X509 Unit
  | .setSerialNumber serial => _X509_set_serialNumber serial
  | .setValidity v t => _X509_set_validity clk v t
  | .setValidityASN1 v asn1time => _X509_set_validity_ASN1 v asn1time

/-- Calls in sequence, as straight-line C++: the first exception ends the run. -/
def runCalls (clk : SystemClock) : List X509Call → EStateM Error X509 Unit
  | [] => pure ()
  | c :: cs => do c.run clk; runCalls clk cs

/-- The calls that throw: a serial above `LONG_MAX`, and a time point whose
second `gmtime_r` cannot break down. A time point outside the years 0000 to
9999 is not among them: its setter stores an `ASN1_TIME` that is not a time. -/
def X509Call.throws (clk : SystemClock) : X509Call → Bool
  | .setSerialNumber serial => decide (LONG_MAX < serial.toNat)
  | .setValidity _ t => !decide (gmtimeMin ≤ to_time_t clk t ∧ to_time_t clk t ≤ gmtimeMax)
  | .setValidityASN1 _ _ => false

end mococrw.openssl

namespace MoCOCrW.X509Calls

open mococrw.openssl MoCOCrW.Asn1Time MoCOCrW.TimePoint MoCOCrW.BigNum MoCOCrW.X509

/-! ## One call -/

/-- What a call does, decided before it touches the certificate: the update it
makes, or the exception it throws. -/
def callOutcome (clk : SystemClock) : X509Call → Except Error (X509 → X509)
  | .setSerialNumber serial =>
    if (serial.toNat : Int) ≤ LONG_MAX then .ok fun x => { x with serialNumber := serial.toNat }
    else .error (.openSSLExceptionWith "Serial number is out of the accepted range.")
  | .setValidity v t =>
    match lib.OpenSSLLib.SSL_ASN1_TIME_set (to_time_t clk t) with
    | some a => .ok fun x => x.setValidity v a
    | none => .error .openSSLException
  | .setValidityASN1 v asn1time => .ok fun x => x.setValidity v asn1time

theorem throws_of_callOutcome {clk : SystemClock} {c : X509Call} {e : Error}
    (h : callOutcome clk c = .error e) : c.throws clk = true := by
  cases c with
  | setSerialNumber serial =>
    simp only [callOutcome] at h
    split_ifs at h with hs
    simpa [X509Call.throws] using hs
  | setValidity v t =>
    simp only [callOutcome, lib.OpenSSLLib.SSL_ASN1_TIME_set] at h
    split_ifs at h with hg
    simp only [X509Call.throws, hg, decide_False, Bool.not_false]
  | setValidityASN1 v asn1time => cases h

/-- **A call is atomic.** It applies its update, or throws with the certificate
unchanged. -/
theorem run_apply (clk : SystemClock) (c : X509Call) (x : X509) :
    (c.run clk).run x = match callOutcome clk c with
      | .ok f => .ok () (f x)
      | .error e => .error e x := by
  cases c with
  | setSerialNumber serial =>
    by_cases h : (serial.toNat : Int) ≤ LONG_MAX
    · simp only [X509Call.run, callOutcome, if_pos h, _X509_set_serialNumber_run_of_le h]
    · simp only [X509Call.run, callOutcome, if_neg h,
        _X509_set_serialNumber_run_of_gt (not_le.mp h)]
  | setValidity v t =>
    by_cases h : asn1TimeMin ≤ to_time_t clk t ∧ to_time_t clk t ≤ asn1TimeMax
    · simp only [X509Call.run, callOutcome, lib.OpenSSLLib.SSL_ASN1_TIME_set, dif_pos h,
        if_pos (gmtime_mem_of_mem h), _X509_set_validity_run_of_mem clk v t x h]
    · rw [X509Call.run, _X509_set_validity_run_of_not_mem clk v t x h]
      by_cases hg : gmtimeMin ≤ to_time_t clk t ∧ to_time_t clk t ≤ gmtimeMax
      · simp only [callOutcome, lib.OpenSSLLib.SSL_ASN1_TIME_set, dif_neg h, if_pos hg]
      · simp only [callOutcome, lib.OpenSSLLib.SSL_ASN1_TIME_set, if_neg hg]
  | setValidityASN1 v asn1time => exact _X509_set_validity_ASN1_run v asn1time x

/-! ## Runs -/

/-- The abstract store: the calls' outcomes applied in order, up to the first
exception. -/
def applyOutcomes (clk : SystemClock) : List X509Call → X509 → EStateM.Result Error X509 Unit
  | [], x => .ok () x
  | c :: cs, x =>
    match callOutcome clk c with
    | .ok f => applyOutcomes clk cs (f x)
    | .error e => .error e x

/-- **Runs refine the store.** -/
theorem runCalls_eq_applyOutcomes (clk : SystemClock) (cs : List X509Call) (x : X509) :
    (runCalls clk cs).run x = applyOutcomes clk cs x := by
  induction cs generalizing x with
  | nil => rfl
  | cons c cs ih =>
    have hc := run_apply clk c x
    simp only [run_eq_apply] at hc ih
    simp only [runCalls, run_eq_apply, bind, EStateM.bind, hc, applyOutcomes]
    cases callOutcome clk c with
    | ok f => exact ih (f x)
    | error e => rfl

/-! ## What a returned run leaves -/

/-- The serial number a call writes, if it writes one. -/
def writesSerial : X509Call → Option Int
  | .setSerialNumber serial => some serial.toNat
  | _ => none

/-- The `ASN1_TIME` a call writes to the bound `v`, if it writes one. -/
def writesValidity (clk : SystemClock) (v : Validity) : X509Call → Option (Option Asn1Time)
  | .setValidity w t => if w = v then lib.OpenSSLLib.SSL_ASN1_TIME_set (to_time_t clk t) else none
  | .setValidityASN1 w asn1time => if w = v then some asn1time else none
  | .setSerialNumber _ => none

/-- The last value the calls write, by the reading `w` of one call. -/
def lastWrite {β : Type} (w : X509Call → Option β) : List X509Call → Option β
  | [] => none
  | c :: cs => (lastWrite w cs).orElse fun _ => w c

theorem serialNumber_of_callOutcome {clk : SystemClock} {c : X509Call} {f : X509 → X509}
    (h : callOutcome clk c = .ok f) (x : X509) :
    (f x).serialNumber = (writesSerial c).getD x.serialNumber := by
  cases c with
  | setSerialNumber serial =>
    simp only [callOutcome] at h
    split_ifs at h
    cases h; rfl
  | setValidity v t =>
    simp only [callOutcome] at h
    split at h
    · cases h; exact serialNumber_setValidity x v _
    · cases h
  | setValidityASN1 v asn1time => cases h; exact serialNumber_setValidity x v _

theorem validity_of_callOutcome {clk : SystemClock} {c : X509Call} {f : X509 → X509}
    (h : callOutcome clk c = .ok f) (x : X509) (v : Validity) :
    (f x).validity v = (writesValidity clk v c).getD (x.validity v) := by
  cases c with
  | setSerialNumber serial =>
    simp only [callOutcome] at h
    split_ifs at h
    cases h; cases v <;> rfl
  | setValidity w t =>
    simp only [callOutcome] at h
    split at h
    · rename_i a ha
      cases h
      by_cases hw : w = v
      · subst hw; simp [writesValidity, ha]
      · simp [writesValidity, hw, validity_setValidity_of_ne x hw]
    · cases h
  | setValidityASN1 w asn1time =>
    cases h
    by_cases hw : w = v
    · subst hw; simp [writesValidity]
    · simp [writesValidity, hw, validity_setValidity_of_ne x hw]

theorem getD_lastWrite_cons {β : Type} (w : X509Call → Option β) (c : X509Call)
    (cs : List X509Call) (b : β) :
    (lastWrite w (c :: cs)).getD b = (lastWrite w cs).getD ((w c).getD b) := by
  simp only [lastWrite]
  cases lastWrite w cs <;> rfl

theorem applyOutcomes_ok {clk : SystemClock} {cs : List X509Call} {x x' : X509}
    (h : applyOutcomes clk cs x = .ok () x') :
    x'.serialNumber = (lastWrite writesSerial cs).getD x.serialNumber ∧
      ∀ v, x'.validity v = (lastWrite (writesValidity clk v) cs).getD (x.validity v) := by
  induction cs generalizing x with
  | nil => cases h; exact ⟨rfl, fun _ => rfl⟩
  | cons c cs ih =>
    simp only [applyOutcomes] at h
    split at h
    · rename_i f hf
      obtain ⟨hs, hv⟩ := ih h
      refine ⟨?_, fun v => ?_⟩
      · rw [hs, serialNumber_of_callOutcome hf, getD_lastWrite_cons]
      · rw [hv, validity_of_callOutcome hf, getD_lastWrite_cons]
    · cases h

/-- **Last write wins.** After any sequence of setter calls that returns, the
serial number and each validity bound are the last value the sequence wrote
to them, or what the certificate held before when it wrote none. -/
theorem runCalls_last_write_wins (clk : SystemClock) (cs : List X509Call) (x x' : X509)
    (h : (runCalls clk cs).run x = .ok () x') :
    x'.serialNumber = (lastWrite writesSerial cs).getD x.serialNumber ∧
      ∀ v, x'.validity v = (lastWrite (writesValidity clk v) cs).getD (x.validity v) :=
  applyOutcomes_ok ((runCalls_eq_applyOutcomes clk cs x).symm.trans h)

theorem runCalls_last_write_wins_two_serials :
    (runCalls nanoClock [.setSerialNumber 5, .setSerialNumber 7]).run ⟨0, none, none⟩ =
        .ok () ⟨7, none, none⟩ ∧
      (⟨7, none, none⟩ : X509).serialNumber =
        (lastWrite writesSerial [.setSerialNumber 5, .setSerialNumber 7]).getD 0 :=
  have h : (runCalls nanoClock [.setSerialNumber 5, .setSerialNumber 7]).run ⟨0, none, none⟩ =
      .ok () ⟨7, none, none⟩ := rfl
  ⟨h, (runCalls_last_write_wins nanoClock _ _ _ h).1⟩

/-! ## What a throwing run leaves -/

theorem applyOutcomes_error {clk : SystemClock} {cs : List X509Call} {x x' : X509} {e : Error}
    (h : applyOutcomes clk cs x = .error e x') :
    ∃ pre c post, cs = pre ++ c :: post ∧ applyOutcomes clk pre x = .ok () x' ∧
      callOutcome clk c = .error e := by
  induction cs generalizing x with
  | nil => cases h
  | cons c cs ih =>
    simp only [applyOutcomes] at h
    split at h
    · rename_i f hf
      obtain ⟨pre, c', post, rfl, hpre, hc'⟩ := ih h
      exact ⟨c :: pre, c', post, rfl, by simp only [applyOutcomes, hf, hpre], hc'⟩
    · rename_i e' he
      cases h
      exact ⟨[], c, cs, rfl, rfl, he⟩

/-- **A failed run stops at the failing call.** When a sequence of setter calls
throws, some call of it threw, a serial above `LONG_MAX` or a time point
`gmtime_r` cannot break down, and the certificate is exactly what the calls
before it made of it: the failing call changed nothing, and no later call ran. -/
theorem runCalls_error_prefix (clk : SystemClock) (cs : List X509Call) (x x' : X509) (e : Error)
    (h : (runCalls clk cs).run x = .error e x') :
    ∃ pre c post, cs = pre ++ c :: post ∧ (runCalls clk pre).run x = .ok () x' ∧
      (c.run clk).run x' = .error e x' ∧ c.throws clk = true := by
  rw [runCalls_eq_applyOutcomes] at h
  obtain ⟨pre, c, post, hcs, hpre, hc⟩ := applyOutcomes_error h
  refine ⟨pre, c, post, hcs, (runCalls_eq_applyOutcomes clk pre x).trans hpre, ?_,
    throws_of_callOutcome hc⟩
  rw [run_apply, hc]

theorem runCalls_error_prefix_oversized_serial :
    (runCalls nanoClock [.setSerialNumber 5, .setSerialNumber 9223372036854775808]).run
        ⟨0, none, none⟩ =
      .error (.openSSLExceptionWith "Serial number is out of the accepted range.") ⟨5, none, none⟩ ∧
      ∃ pre c post, [X509Call.setSerialNumber 5, .setSerialNumber 9223372036854775808] =
          pre ++ c :: post ∧
        (runCalls nanoClock pre).run ⟨0, none, none⟩ = .ok () ⟨5, none, none⟩ ∧
        (c.run nanoClock).run ⟨5, none, none⟩ =
          .error (.openSSLExceptionWith "Serial number is out of the accepted range.")
            ⟨5, none, none⟩ ∧ c.throws nanoClock = true :=
  have h : (runCalls nanoClock [.setSerialNumber 5, .setSerialNumber 9223372036854775808]).run
      ⟨0, none, none⟩ =
      .error (.openSSLExceptionWith "Serial number is out of the accepted range.")
        ⟨5, none, none⟩ := rfl
  ⟨h, runCalls_error_prefix nanoClock _ _ _ _ h⟩

end MoCOCrW.X509Calls
