/-
The wrappers of `src/openssl_wrap.cpp` that check a native value themselves
instead of through a checked call: `_EVP_PKEY_cmp` (lines 286-298),
`_X509_verify_cert` (lines 592-601) and the two cipher-context queries
`_EVP_CIPHER_CTX_key_length` and `_EVP_CIPHER_CTX_iv_length` (lines 980-1000),
over the error queue of `ErrorQueue.lean`.

`_EVP_PKEY_cmp` maps OpenSSL's three answers to a `bool` and throws
`OpenSSLException()` on any other value: that exception reads the queue, as a
checked call's does. The other three throw `OpenSSLException{message}` with a
message of their own (a fixed text, or the verification error of the store
context), and read nothing: the codes their native call queued stay queued.

Over them stands the error queue as a FIFO of the latest codes, as in
`ErrorQueue.lean`, with what each wrapper decides once its native's codes are
queued (`verdict`): return, throw an exception that takes the front code, or
throw one with its own message that takes none. Over any run that mixes these
wrappers with checked calls, each call in its own `try` block, from any queue
the ring can hold, the wrappers do exactly what that FIFO does
(`runWrapped_refines_fifo`). So a code queued by a failing
`_EVP_CIPHER_CTX_key_length`, `_EVP_CIPHER_CTX_iv_length` or
`_X509_verify_cert` stays at the front of the queue, and the next exception
that reads the queue names it, whichever call throws it.
-/
import MoCOCrW.ErrorQueue

set_option autoImplicit false

namespace mococrw.openssl

/-! ## The wrappers -/

section

variable (SSL_ERR_error_string : UInt64 → String)

/-- `_EVP_PKEY_cmp(a, b)`: `1` when the keys match; `0` (parameters differ) and
`-1` (key types differ) when they do not; anything else is an error. -/
def _EVP_PKEY_cmp (answer : NativeAnswer) : EStateM OpenSSLException (List UInt64) Bool := do
  modify fun q => answer.errors.foldl errPut q
  if answer.rv = 1 then return true
  else if answer.rv = 0 ∨ answer.rv = -1 then return false
  else handleError SSL_ERR_error_string

end

/-- A native `int` the wrapper checks itself: when `rejects` holds of it, it throws
`OpenSSLException{message}`, which reads nothing from the queue. -/
def checkedWithMessage (rejects : Int → Bool) (message : String) (answer : NativeAnswer) :
    EStateM OpenSSLException (List UInt64) Int := do
  modify fun q => answer.errors.foldl errPut q
  if rejects answer.rv then throw ⟨message⟩
  return answer.rv

/-- `_EVP_CIPHER_CTX_key_length(ctx)`. -/
def _EVP_CIPHER_CTX_key_length : NativeAnswer → EStateM OpenSSLException (List UInt64) Int :=
  checkedWithMessage (fun res => decide (res ≤ 0))
    "SSL_EVP_CIPHER_CTX_key_length() failed. Operation is unsupported by a given cipher."

/-- `_EVP_CIPHER_CTX_iv_length(ctx)`. -/
def _EVP_CIPHER_CTX_iv_length : NativeAnswer → EStateM OpenSSLException (List UInt64) Int :=
  checkedWithMessage (fun res => decide (0 = res)) "The cipher does not use an IV."

/-- `_X509_verify_cert(ctx)`: a failed verification throws with the string of
`error`, the verification error `X509_STORE_CTX_get_error` reports. -/
def _X509_verify_cert (SSL_X509_verify_cert_error_string : Int → String) (answer : NativeAnswer)
    (error : Int) : EStateM OpenSSLException (List UInt64) Unit :=
  (fun _ => ()) <$> checkedWithMessage (fun result => decide (result ≠ 1))
    (SSL_X509_verify_cert_error_string error) answer

/-! ## Runs of wrapped calls -/

/-- A call into the wrapper layer, by what its native call did. -/
inductive WrapCall where
  | checked (check : ReturnCheck) (answer : NativeAnswer)
  | pkeyCmp (answer : NativeAnswer)
  | keyLength (answer : NativeAnswer)
  | ivLength (answer : NativeAnswer)
  | verifyCert (answer : NativeAnswer) (error : Int)

/-- The codes the call's native queued. -/
def WrapCall.errors : WrapCall → List UInt64
  | .checked _ answer | .pkeyCmp answer | .keyLength answer | .ivLength answer
  | .verifyCert answer _ => answer.errors

/-- Whether the call's exception is `OpenSSLException()`, which reads the queue. -/
def WrapCall.readsQueue : WrapCall → Bool
  | .checked .. | .pkeyCmp _ => true
  | .keyLength _ | .ivLength _ | .verifyCert .. => false

/-- The exception `x` throws in a `try` block, if any. -/
def caught {α : Type} (x : EStateM OpenSSLException (List UInt64) α) :
    StateM (List UInt64) (Option OpenSSLException) := fun q =>
  match x q with
  | .ok _ q' => (none, q')
  | .error e q' => (some e, q')

section

variable (SSL_ERR_error_string : UInt64 → String)
  (SSL_X509_verify_cert_error_string : Int → String)

/-- The call in its `try` block. -/
def WrapCall.caught : WrapCall → StateM (List UInt64) (Option OpenSSLException)
  | .checked check answer => mococrw.openssl.caught (callCheckedQ SSL_ERR_error_string check answer)
  | .pkeyCmp answer => mococrw.openssl.caught (_EVP_PKEY_cmp SSL_ERR_error_string answer)
  | .keyLength answer => mococrw.openssl.caught (_EVP_CIPHER_CTX_key_length answer)
  | .ivLength answer => mococrw.openssl.caught (_EVP_CIPHER_CTX_iv_length answer)
  | .verifyCert answer error =>
    mococrw.openssl.caught (_X509_verify_cert SSL_X509_verify_cert_error_string answer error)

/-- Wrapped calls one after another, each in its own `try` block: the exception
each threw, if any. -/
def runWrapped : List WrapCall → StateM (List UInt64) (List (Option OpenSSLException))
  | [] => pure []
  | c :: calls => do
    let r ← c.caught SSL_ERR_error_string SSL_X509_verify_cert_error_string
    let rs ← runWrapped calls
    return r :: rs

end

end mococrw.openssl

namespace MoCOCrW.ErrorPaths

open mococrw.openssl MoCOCrW.ErrorQueue

/-! ## One call -/

theorem caught_run {α : Type} (x : EStateM OpenSSLException (List UInt64) α) (q : List UInt64) :
    (caught x).run q = match x q with
      | .ok _ q' => (none, q')
      | .error e q' => (some e, q') := rfl

/-- A `try` block sees the same exception whatever is done with the value. -/
theorem caught_map {α β : Type} (h : α → β) (x : EStateM OpenSSLException (List UInt64) α) :
    caught (h <$> x) = caught x := by
  funext q
  show (match (h <$> x) q with | .ok _ q' => (none, q') | .error e q' => (some e, q')) =
    (match x q with | .ok _ q' => (none, q') | .error e q' => (some e, q'))
  cases hx : x q <;> simp only [Functor.map, EStateM.map, hx]

section

variable (f : UInt64 → String)

theorem _EVP_PKEY_cmp_eq (answer : NativeAnswer) (q : List UInt64) :
    _EVP_PKEY_cmp f answer q =
      if answer.rv = 1 then .ok true (answer.errors.foldl errPut q)
      else if answer.rv = 0 ∨ answer.rv = -1 then .ok false (answer.errors.foldl errPut q)
      else .error ⟨formatError f ((answer.errors.foldl errPut q).headD 0)⟩
        (answer.errors.foldl errPut q).tail := by
  unfold _EVP_PKEY_cmp
  split_ifs
  · rfl
  · rfl
  · exact handleError_apply f _

end

theorem checkedWithMessage_eq (rejects : Int → Bool) (message : String) (answer : NativeAnswer)
    (q : List UInt64) :
    checkedWithMessage rejects message answer q =
      if rejects answer.rv then .error ⟨message⟩ (answer.errors.foldl errPut q)
      else .ok answer.rv (answer.errors.foldl errPut q) := by
  unfold checkedWithMessage
  split_ifs <;> rfl

/-! ## The queue as a FIFO -/

/-- What a wrapped call does once its native's codes are queued: return, throw
`OpenSSLException()`, which takes the front code, or throw with a message of its
own, which takes none. -/
inductive Verdict where
  | returns
  | readsQueue
  | ownMessage (what : String)
  deriving DecidableEq, Repr

variable (f : UInt64 → String) (g : Int → String)

/-- Each wrapper's decision on its native's value. -/
def verdict : WrapCall → Verdict
  | .checked check answer => if check.returnValueIsOk answer.rv then .returns else .readsQueue
  | .pkeyCmp answer =>
    if answer.rv = 1 ∨ answer.rv = 0 ∨ answer.rv = -1 then .returns else .readsQueue
  | .keyLength answer =>
    if answer.rv ≤ 0 then
      .ownMessage "SSL_EVP_CIPHER_CTX_key_length() failed. Operation is unsupported by a given cipher."
    else .returns
  | .ivLength answer => if answer.rv = 0 then .ownMessage "The cipher does not use an IV." else .returns
  | .verifyCert answer error => if answer.rv = 1 then .returns else .ownMessage (g error)

section

variable (cap : Nat)

/-- One wrapped call against the FIFO that keeps the latest `cap` codes: the
native's codes join the end, then the call does what its verdict says. -/
def fifoWrappedCall (q : List UInt64) (c : WrapCall) : Option OpenSSLException × List UInt64 :=
  match verdict g c with
  | .returns => (none, keepLatest cap (q ++ c.errors))
  | .readsQueue =>
    (some ⟨formatError f ((keepLatest cap (q ++ c.errors)).headD 0)⟩,
      (keepLatest cap (q ++ c.errors)).tail)
  | .ownMessage what => (some ⟨what⟩, keepLatest cap (q ++ c.errors))

/-- Wrapped calls one after another against the FIFO: the exception each threw,
if any, and the queue at the end. -/
def fifoWrapped : List WrapCall → List UInt64 → List (Option OpenSSLException) × List UInt64
  | [], q => ([], q)
  | c :: calls, q =>
    let r := fifoWrappedCall f g cap q c
    (r.1 :: (fifoWrapped calls r.2).1, (fifoWrapped calls r.2).2)

theorem fifoWrappedCall_length_le (q : List UInt64) (c : WrapCall) :
    (fifoWrappedCall f g cap q c).2.length ≤ cap := by
  have := length_keepLatest_le cap (q ++ c.errors)
  unfold fifoWrappedCall
  split <;> simp only [List.length_tail] <;> omega

end

/-- **One call in its `try` block refines the FIFO.** On a queue the ring can
hold, a wrapped call throws what the FIFO of the latest `ERR_NUM_ERRORS - 1`
codes throws and leaves the queue it leaves. -/
theorem WrapCall.caught_fifo (c : WrapCall) (q : List UInt64) (hq : q.length < ERR_NUM_ERRORS) :
    (c.caught f g).run q = fifoWrappedCall f g (ERR_NUM_ERRORS - 1) q c := by
  have hput (es : List UInt64) : es.foldl errPut q = keepLatest (ERR_NUM_ERRORS - 1) (q ++ es) :=
    foldl_errPut_eq_keepLatest q es hq
  cases c <;> simp only [WrapCall.caught, _X509_verify_cert, _EVP_CIPHER_CTX_key_length,
    _EVP_CIPHER_CTX_iv_length, caught_map, caught_run, callCheckedQ_refines, ReturnCheck.outcome_eq,
    _EVP_PKEY_cmp_eq, checkedWithMessage_eq, hput, fifoWrappedCall, verdict, WrapCall.errors,
    decide_eq_true_eq] <;> split_ifs <;> first | rfl | omega

theorem runWrapped_cons_run (c : WrapCall) (calls : List WrapCall) (q : List UInt64) :
    (runWrapped f g (c :: calls)).run q =
      (((c.caught f g).run q).1 :: ((runWrapped f g calls).run ((c.caught f g).run q).2).1,
       ((runWrapped f g calls).run ((c.caught f g).run q).2).2) := rfl

/-- **The error queue is a FIFO over every run of the wrappers.** From any
queue the ring can hold, a run that mixes checked calls, `_EVP_PKEY_cmp`, the
two cipher queries and `_X509_verify_cert`, each in its own `try` block, throws
exactly the exceptions and leaves exactly the queue of the FIFO that keeps the
latest `ERR_NUM_ERRORS - 1` codes: the exceptions that read the queue name the
front code and take it off, and those with their own message take none. -/
theorem runWrapped_refines_fifo (calls : List WrapCall) (q : List UInt64)
    (hq : q.length < ERR_NUM_ERRORS) :
    (runWrapped f g calls).run q = fifoWrapped f g (ERR_NUM_ERRORS - 1) calls q := by
  induction calls generalizing q with
  | nil => rfl
  | cons c calls ih =>
    have hroom : (fifoWrappedCall f g (ERR_NUM_ERRORS - 1) q c).2.length < ERR_NUM_ERRORS :=
      lt_of_le_of_lt (fifoWrappedCall_length_le f g _ q c) (by decide)
    rw [runWrapped_cons_run, WrapCall.caught_fifo f g c q hq, ih _ hroom]
    rfl

theorem runWrapped_refines_fifo_stale_key_length :
    ([] : List UInt64).length < ERR_NUM_ERRORS ∧
      (runWrapped (fun _ => "e") (fun _ => "v")
          [.keyLength ⟨0, [7]⟩, .checked (.policy .isOne) ⟨0, [9]⟩]).run [] =
        fifoWrapped (fun _ => "e") (fun _ => "v") (ERR_NUM_ERRORS - 1)
          [.keyLength ⟨0, [7]⟩, .checked (.policy .isOne) ⟨0, [9]⟩] [] :=
  ⟨by decide, runWrapped_refines_fifo (fun _ => "e") (fun _ => "v") _ [] (by decide)⟩

/-- The code the failing `_EVP_CIPHER_CTX_key_length` left is named by the next
checked call that fails, not that call's own code. -/
example :
    (runWrapped (fun _ => "e") (fun _ => "v")
      [.keyLength ⟨0, [7]⟩, .checked (.policy .isOne) ⟨0, [9]⟩]).run [] =
      ([some ⟨"SSL_EVP_CIPHER_CTX_key_length() failed. " ++
          "Operation is unsupported by a given cipher."⟩,
        some ⟨formatError (fun _ => "e") 7⟩], [9]) := rfl

end MoCOCrW.ErrorPaths
