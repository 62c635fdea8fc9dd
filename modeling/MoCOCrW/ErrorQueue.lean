/-
The error queue behind `OpenSSLException` (`src/openssl_wrap.cpp` lines 44-75 and
the checked-call aliases of lines 88-122): what a failing checked call reads from
OpenSSL's per-thread error queue, and what a sequence of checked calls leaves in
it.

`CheckedCall.lean` models a checked call by its outcome: the native value, or
`Error.openSSLException`. This module adds the state that outcome leaves out.
OpenSSL 3.0 keeps a queue of error codes per thread. A native call that fails puts
one or more codes on it (`ERR_put_error`); the queue is a ring of
`ERR_NUM_ERRORS` slots that holds at most fifteen codes, and a code put on a
full queue pushes out the earliest. `ERR_get_error` takes the earliest code off,
or answers `0` when there is none. A native call is modelled by what it did:
the value it returned and the codes it put on the queue.

On a rejected value `OpenSSLExceptionErrorPolicy::handleError` throws
`OpenSSLException()`, whose message is `generateOpenSSLErrorString()`: one call
of `ERR_get_error`, formatted `"%s: %d"` with the code's `ERR_error_string`. The
constructor itself is declared in `openssl_wrap.h`, which is not under `src/`;
that it takes its message from `generateOpenSSLErrorString` is modelled from the
description of the checked-call layer. The string table of `ERR_error_string` is
a parameter.

`callCheckedQ_refines` connects the two levels: with the queue, a checked call
returns what the outcome model returns, throws exactly when it throws, and then
reads the queue exactly once, naming the earliest code.

Over it stands what the queue is for: a FIFO of error codes (`fifoRun`). A
native call's codes join the end, and an exception takes the front code, which
its message names. The ring keeps the latest `ERR_NUM_ERRORS - 1` codes of all
that were put on it (`foldl_errPut_eq_keepLatest`), so over any run in which
the caller catches every exception, from any queue the ring can hold, the
checked calls do exactly what that FIFO does (`runCaught_refines_fifo`). A
failure therefore names the code of its own native call when every failing
call queued exactly one code and no other call queued any
(`runCaught_attribution`); a failing call that queued two codes leaves the
second at the front, for the next failure to name.
-/
import MoCOCrW.CheckedCall
import Mathlib.Data.List.Basic

set_option autoImplicit false

namespace mococrw.openssl

/-! ## The native error queue -/

/-- `ERR_NUM_ERRORS`: the slots of OpenSSL's per-thread error ring, one of which
stays free, so the queue holds at most `ERR_NUM_ERRORS - 1` codes. -/
def ERR_NUM_ERRORS : Nat := 16

/-- `ERR_put_error` of the code `e` on the queue `q` (earliest code first): `e`
goes last, and on a full queue the earliest code is dropped. -/
def errPut (q : List UInt64) (e : UInt64) : List UInt64 :=
  if (q ++ [e]).length < ERR_NUM_ERRORS then q ++ [e] else (q ++ [e]).tail

/-- What a native call did: the value it returned, and the codes it put on the
queue, in order. -/
structure NativeAnswer where
  rv : Int
  errors : List UInt64
  deriving DecidableEq, Repr

namespace lib.OpenSSLLib

/-- `ERR_get_error()`: the earliest code, taken off the queue; `0` when it is empty. -/
def SSL_ERR_get_error : List UInt64 → UInt64 × List UInt64
  | [] => (0, [])
  | e :: rest => (e, rest)

end lib.OpenSSLLib

/-- The success check of a checked call: one of the three return-value policies,
or `cppc::IsNotNullptrReturnCheckPolicy` of `OpensslCallPtr` for a returned
pointer (an address, `0` for `nullptr`). -/
inductive ReturnCheck where
  | policy (p : ReturnCheckPolicy)
  | notNullptr
  deriving DecidableEq, Repr

def ReturnCheck.returnValueIsOk : ReturnCheck → Int → Bool
  | .policy p, rv => p.returnValueIsOk rv
  | .notNullptr, rv => rv != 0

/-- The outcome level of `CheckedCall.lean` for each check. -/
def ReturnCheck.outcome : ReturnCheck → Int → Except Error Int
  | .policy p, rv => callChecked p rv
  | .notNullptr, rv => OpensslCallPtr.callChecked (if rv = 0 then none else some rv)

/-- An `OpenSSLException`, by the message `what()` returns. -/
structure OpenSSLException where
  what : String
  deriving DecidableEq, Repr

section

variable (SSL_ERR_error_string : UInt64 → String)

/-- The message for the code `error`: `boost::format("%s: %d")` of its
`ERR_error_string` and its decimal value. -/
def formatError (error : UInt64) : String :=
  SSL_ERR_error_string error ++ ": " ++ toString error

/-- `OpenSSLException::generateOpenSSLErrorString()`. -/
def generateOpenSSLErrorString : StateM (List UInt64) String := do
  let error ← modifyGet lib.OpenSSLLib.SSL_ERR_get_error
  return formatError SSL_ERR_error_string error

/-- `OpenSSLExceptionErrorPolicy::handleError`: `throw OpenSSLException()`, whose
message is read from the queue. -/
def handleError {α : Type} : EStateM OpenSSLException (List UInt64) α := fun q =>
  .error ⟨((generateOpenSSLErrorString SSL_ERR_error_string).run q).1⟩
    ((generateOpenSSLErrorString SSL_ERR_error_string).run q).2

/-- `CallCheckContext<Policy, OpenSSLExceptionErrorPolicy>::callChecked(f, args...)`
for a native call that did `answer`: its codes are on the queue when the value
is checked. -/
def callCheckedQ (check : ReturnCheck) (answer : NativeAnswer) :
    EStateM OpenSSLException (List UInt64) Int := do
  modify fun q => answer.errors.foldl errPut q
  if check.returnValueIsOk answer.rv then return answer.rv
  else handleError SSL_ERR_error_string

/-- `try { ... } catch (const OpenSSLException &e) { ... }` around `x`. -/
def catching {α : Type} (x : EStateM OpenSSLException (List UInt64) α) :
    StateM (List UInt64) (Except OpenSSLException α) := fun q =>
  match x q with
  | .ok a q' => (.ok a, q')
  | .error e q' => (.error e, q')

/-- Checked calls one after another, each in its own `try` block: the outcome of
each. -/
def runCaught : List (ReturnCheck × NativeAnswer) →
    StateM (List UInt64) (List (Except OpenSSLException Int))
  | [] => pure []
  | (check, answer) :: calls => do
    let r ← catching (callCheckedQ SSL_ERR_error_string check answer)
    let rs ← runCaught calls
    return r :: rs

end

end mococrw.openssl

namespace MoCOCrW.ErrorQueue

open mococrw.openssl

/-! ## The ring keeps the latest codes -/

/-- The latest `cap` codes of `l`, in order. -/
def keepLatest (cap : Nat) (l : List UInt64) : List UInt64 := l.drop (l.length - cap)

theorem length_keepLatest_le (cap : Nat) (l : List UInt64) : (keepLatest cap l).length ≤ cap := by
  simp only [keepLatest, List.length_drop]
  omega

theorem keepLatest_of_length_le {cap : Nat} {l : List UInt64} (h : l.length ≤ cap) :
    keepLatest cap l = l := by
  rw [keepLatest, Nat.sub_eq_zero_of_le h, List.drop_zero]

/-- Cutting to the latest codes before more are appended changes nothing. -/
theorem keepLatest_keepLatest_append (cap : Nat) (l es : List UInt64) :
    keepLatest cap (keepLatest cap l ++ es) = keepLatest cap (l ++ es) := by
  simp only [keepLatest, List.length_append, List.length_drop]
  rw [← List.drop_append_of_le_length (Nat.sub_le _ _), List.drop_drop]
  congr 1
  omega

/-- `ERR_put_error` on a queue the ring can hold keeps the latest
`ERR_NUM_ERRORS - 1` codes: on a full queue it drops the earliest. -/
theorem errPut_eq_keepLatest (q : List UInt64) (e : UInt64) (hq : q.length < ERR_NUM_ERRORS) :
    errPut q e = keepLatest (ERR_NUM_ERRORS - 1) (q ++ [e]) := by
  unfold errPut
  split_ifs with h
  · refine (keepLatest_of_length_le ?_).symm
    simp only [ERR_NUM_ERRORS] at h ⊢
    omega
  · rw [keepLatest, ← List.drop_one]
    congr 1
    simp only [ERR_NUM_ERRORS, List.length_append, List.length_singleton] at h hq ⊢
    omega

/-- **The ring keeps the latest codes.** Codes put one by one on a queue the
ring can hold leave the latest `ERR_NUM_ERRORS - 1` of the queue followed by
them. -/
theorem foldl_errPut_eq_keepLatest (q es : List UInt64) (hq : q.length < ERR_NUM_ERRORS) :
    es.foldl errPut q = keepLatest (ERR_NUM_ERRORS - 1) (q ++ es) := by
  induction es generalizing q with
  | nil =>
    rw [List.foldl_nil, List.append_nil]
    refine (keepLatest_of_length_le ?_).symm
    simp only [ERR_NUM_ERRORS] at hq ⊢
    omega
  | cons e es ih =>
    have hput := errPut_eq_keepLatest q e hq
    have hlen : (errPut q e).length < ERR_NUM_ERRORS := by
      rw [hput]
      exact lt_of_le_of_lt (length_keepLatest_le _ _) (by decide)
    rw [List.foldl_cons, ih _ hlen, hput, keepLatest_keepLatest_append, List.append_assoc,
      List.singleton_append]

/-! ## One checked call -/

theorem ReturnCheck.outcome_eq (check : ReturnCheck) (rv : Int) :
    check.outcome rv = if check.returnValueIsOk rv then .ok rv else .error .openSSLException := by
  cases check with
  | policy p => rfl
  | notNullptr =>
    by_cases h : rv = 0 <;> simp [ReturnCheck.outcome, ReturnCheck.returnValueIsOk, h]

variable (f : UInt64 → String)

/-- `throw OpenSSLException()` names the head of the queue (`0` when it is
empty) and takes it off. -/
theorem handleError_apply {α : Type} (q : List UInt64) :
    (handleError f q : EStateM.Result OpenSSLException (List UInt64) α) =
      .error ⟨formatError f (q.headD 0)⟩ q.tail := by
  cases q <;> rfl

/-- **The queue refines the outcome.** With the error queue, a checked call
returns the value `callChecked` returns and throws exactly when it throws; the
codes of the native call are queued first, and a throw then reads the queue
once: its message names the earliest code (`0` for an empty queue), which is
taken off. A call that returns reads nothing. -/
theorem callCheckedQ_refines (check : ReturnCheck) (answer : NativeAnswer) (q : List UInt64) :
    callCheckedQ f check answer q =
      match check.outcome answer.rv with
      | .ok v => .ok v (answer.errors.foldl errPut q)
      | .error _ =>
        .error ⟨formatError f ((answer.errors.foldl errPut q).headD 0)⟩
          (answer.errors.foldl errPut q).tail := by
  unfold callCheckedQ
  rw [ReturnCheck.outcome_eq]
  by_cases hok : check.returnValueIsOk answer.rv
  · simp only [hok, if_true]
    rfl
  · simp only [hok, if_false, Bool.false_eq_true]
    exact handleError_apply f _

/-! ## The queue as a FIFO -/

section

variable (cap : Nat)

/-- One checked call against the error queue as its users read it, a FIFO that
keeps the latest `cap` codes: the native's codes join the end; a value the
check rejects throws an exception that names the front code (`0` for an empty
queue) and takes it off; a value that passes takes nothing. -/
def fifoCall (q : List UInt64) (check : ReturnCheck) (answer : NativeAnswer) :
    Except OpenSSLException Int × List UInt64 :=
  if check.returnValueIsOk answer.rv then (.ok answer.rv, keepLatest cap (q ++ answer.errors))
  else (.error ⟨formatError f ((keepLatest cap (q ++ answer.errors)).headD 0)⟩,
    (keepLatest cap (q ++ answer.errors)).tail)

/-- Checked calls one after another against the FIFO: the outcome of each, and
the queue at the end. -/
def fifoRun : List (ReturnCheck × NativeAnswer) → List UInt64 →
    List (Except OpenSSLException Int) × List UInt64
  | [], q => ([], q)
  | (check, answer) :: calls, q =>
    let r := fifoCall f cap q check answer
    (r.1 :: (fifoRun calls r.2).1, (fifoRun calls r.2).2)

theorem fifoCall_length_le (q : List UInt64) (check : ReturnCheck) (answer : NativeAnswer) :
    (fifoCall f cap q check answer).2.length ≤ cap := by
  have := length_keepLatest_le cap (q ++ answer.errors)
  unfold fifoCall
  split_ifs <;> simp only [List.length_tail] <;> omega

end

/-! ## Runs -/

theorem catching_run {α : Type} (x : EStateM OpenSSLException (List UInt64) α) (q : List UInt64) :
    (catching x).run q = match x q with
      | .ok a q' => (.ok a, q')
      | .error e q' => (.error e, q') := rfl

theorem runCaught_cons_run (check : ReturnCheck) (answer : NativeAnswer)
    (calls : List (ReturnCheck × NativeAnswer)) (q : List UInt64) :
    (runCaught f ((check, answer) :: calls)).run q =
      (((catching (callCheckedQ f check answer)).run q).1 ::
        ((runCaught f calls).run ((catching (callCheckedQ f check answer)).run q).2).1,
       ((runCaught f calls).run ((catching (callCheckedQ f check answer)).run q).2).2) := rfl

/-- One checked call in its `try` block, on a queue the ring can hold, does
what the FIFO of the latest `ERR_NUM_ERRORS - 1` codes does. -/
theorem catching_callCheckedQ_fifo (check : ReturnCheck) (answer : NativeAnswer) (q : List UInt64)
    (hq : q.length < ERR_NUM_ERRORS) :
    (catching (callCheckedQ f check answer)).run q = fifoCall f (ERR_NUM_ERRORS - 1) q check answer := by
  rw [catching_run, callCheckedQ_refines, ReturnCheck.outcome_eq, foldl_errPut_eq_keepLatest q _ hq,
    fifoCall]
  split_ifs <;> rfl

/-- **The error queue is a FIFO, over every run.** From any queue the ring can
hold, a run of checked calls, each in its own `try` block, has exactly the
outcomes and leaves exactly the queue of the FIFO that keeps the latest
`ERR_NUM_ERRORS - 1` codes: every exception names the front code and takes it
off, every call that returns leaves the queue to the next, and a code is lost
only when more than `ERR_NUM_ERRORS - 1` are queued at once. -/
theorem runCaught_refines_fifo (calls : List (ReturnCheck × NativeAnswer)) (q : List UInt64)
    (hq : q.length < ERR_NUM_ERRORS) :
    (runCaught f calls).run q = fifoRun f (ERR_NUM_ERRORS - 1) calls q := by
  induction calls generalizing q with
  | nil => rfl
  | cons c calls ih =>
    obtain ⟨check, answer⟩ := c
    have hroom : (fifoCall f (ERR_NUM_ERRORS - 1) q check answer).2.length < ERR_NUM_ERRORS :=
      lt_of_le_of_lt (fifoCall_length_le f _ q check answer) (by decide)
    rw [runCaught_cons_run, catching_callCheckedQ_fifo f check answer q hq, ih _ hroom]
    rfl

theorem runCaught_refines_fifo_two_failures :
    ([] : List UInt64).length < ERR_NUM_ERRORS ∧
      (runCaught (fun _ => "e") [(.policy .isOne, ⟨0, [5, 6]⟩), (.notNullptr, ⟨0, [9]⟩)]).run [] =
        fifoRun (fun _ => "e") (ERR_NUM_ERRORS - 1)
          [(.policy .isOne, ⟨0, [5, 6]⟩), (.notNullptr, ⟨0, [9]⟩)] [] :=
  ⟨by decide, runCaught_refines_fifo (fun _ => "e") _ [] (by decide)⟩

/-- A failing call that queued two codes leaves the second for the next
failure, which names it instead of its own. -/
example :
    fifoRun (fun _ => "e") (ERR_NUM_ERRORS - 1)
        [(.policy .isOne, ⟨0, [5, 6]⟩), (.notNullptr, ⟨0, [9]⟩)] [] =
      ([.error ⟨formatError (fun _ => "e") 5⟩, .error ⟨formatError (fun _ => "e") 6⟩], [9]) := rfl

/-- A native call queues its own code: one when its value fails the check, none
when it passes. -/
def queuesOwnCode (check : ReturnCheck) (answer : NativeAnswer) : Bool :=
  if check.returnValueIsOk answer.rv then answer.errors.isEmpty else answer.errors.length == 1

/-- **Attribution is right when every call queues its own code.** From an empty
queue, if each native call queued exactly one code when it failed its check and
none when it passed, every call returns its value or throws with the message of
its own code, and the queue is empty again at the end. -/
theorem runCaught_attribution (calls : List (ReturnCheck × NativeAnswer))
    (h : ∀ c ∈ calls, queuesOwnCode c.1 c.2 = true) :
    (runCaught f calls).run [] =
      (calls.map fun c => if c.1.returnValueIsOk c.2.rv then .ok c.2.rv
        else .error ⟨formatError f (c.2.errors.headD 0)⟩, []) := by
  induction calls with
  | nil => rfl
  | cons c calls ih =>
    obtain ⟨check, answer⟩ := c
    have hc := h (check, answer) (List.mem_cons_self _ _)
    have hfirst : (catching (callCheckedQ f check answer)).run [] =
        (if check.returnValueIsOk answer.rv then .ok answer.rv
          else .error ⟨formatError f (answer.errors.headD 0)⟩, []) := by
      rw [catching_run, callCheckedQ_refines, ReturnCheck.outcome_eq]
      simp only [queuesOwnCode] at hc
      split_ifs at hc ⊢ with hok
      · rw [List.isEmpty_iff.mp hc]
        rfl
      · obtain ⟨e, he⟩ := List.length_eq_one.mp (beq_iff_eq.mp hc)
        rw [he]
        rfl
    rw [runCaught_cons_run, hfirst, ih fun c hc => h c (List.mem_cons_of_mem _ hc)]
    rfl

theorem runCaught_attribution_two_calls :
    (∀ c ∈ [(ReturnCheck.policy .isOne, (⟨0, [7]⟩ : NativeAnswer)), (.notNullptr, ⟨42, []⟩)],
        queuesOwnCode c.1 c.2 = true) ∧
      (runCaught (fun _ => "e") [(.policy .isOne, ⟨0, [7]⟩), (.notNullptr, ⟨42, []⟩)]).run [] =
        ([.error ⟨formatError (fun _ => "e") 7⟩, .ok 42], []) :=
  ⟨by decide, runCaught_attribution (fun _ => "e") _ (by decide)⟩

end MoCOCrW.ErrorQueue
