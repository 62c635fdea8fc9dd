/-
The checked-call layer of `src/openssl_wrap.cpp` (lines 42-122): how a native
OpenSSL return value becomes either the value itself or a thrown
`OpenSSLException`, and the outcomes a call into the wrapper can have.

Every wrapper in `openssl_wrap.cpp` reaches OpenSSL through
`CallCheckContext<ReturnCheckPolicy, OpenSSLExceptionErrorPolicy>::callChecked`:
CPPC calls the native function, asks the policy's `returnValueIsOk` about the
result, and on a refusal `OpenSSLExceptionErrorPolicy::handleError` throws an
`OpenSSLException()` whose message is read off OpenSSL's error queue. The model
makes the native call a plain function application, so `callChecked` here takes
the native's return value rather than the function and its arguments.

Four policies are used. Three test an `int` (`== 1`, `> 0`, `>= 0`) and are one
definition with the policy as a parameter; the fourth, CPPC's
`IsNotNullptrReturnCheckPolicy`, tests a pointer, which the model writes as an
`Option` (`none` is `nullptr`).

Here `Error.openSSLException` stands for every `OpenSSLException()`, whatever
the error queue held; `ErrorQueue.lean` adds the queue and shows this level is
what it refines to. The messages of the exceptions the wrapper builds itself are
kept word for word, because several specifications downstream are about which
check threw.

The natives are modelled on OpenSSL 3.0 throughout the project.
-/
import Mathlib.Logic.Basic

set_option autoImplicit false

namespace mococrw.openssl

/-! ## Outcomes -/

/-- How a call into the wrapper ends when it does not return a value. -/
inductive Error where
  /-- `throw OpenSSLException()`: the message `generateOpenSSLErrorString` builds
  from OpenSSL's error queue, `"<ERR_error_string>: <code>"`. -/
  | openSSLException
  /-- `throw OpenSSLException(message)`. -/
  | openSSLExceptionWith (message : String)
  /-- `std::length_error`, which `std::vector` throws for a size above `max_size()`. -/
  | lengthError
  /-- A signed overflow. It is undefined behaviour in C++, so the model does not
  pick a value for it: it ends the call, and the specifications show that no path
  they cover reaches it. -/
  | signedOverflow
  /-- A native call writing past the end of the caller's buffer: for an empty
  `std::vector`, whose `data()` is `nullptr`, a write through a null pointer.
  It is undefined behaviour too, a crash in practice, and ends the call. -/
  | outOfBoundsWrite
  deriving DecidableEq, Repr

/-- The outcomes that are an `OpenSSLException`, whichever constructor built it. -/
def Error.isOpenSSLException : Error → Bool
  | .openSSLException => true
  | .openSSLExceptionWith _ => true
  | _ => false

/-! ## Return-check policies -/

/-- The three `int` policies of `openssl_wrap.cpp`: `OpenSSLIsOneReturnCheckPolicy`,
`OpenSSLPositiveReturnCheckPolicy` and `OpenSSLNonNegativeReturnCheckPolicy`. -/
inductive ReturnCheckPolicy where
  | isOne
  | positive
  | nonNegative
  deriving DecidableEq, Repr

/-- `returnValueIsOk` of each policy. -/
def ReturnCheckPolicy.returnValueIsOk : ReturnCheckPolicy → Int → Bool
  | .isOne, rv => rv == 1
  | .positive, rv => decide (0 < rv)
  | .nonNegative, rv => decide (0 ≤ rv)

/-- `CallCheckContext<policy, OpenSSLExceptionErrorPolicy>::callChecked`, given the
value the native call returned. -/
def callChecked (policy : ReturnCheckPolicy) (rv : Int) : Except Error Int :=
  if policy.returnValueIsOk rv then .ok rv else .error .openSSLException

/-- `OpensslCallIsOne`. -/
def OpensslCallIsOne.callChecked (rv : Int) : Except Error Int :=
  mococrw.openssl.callChecked .isOne rv

/-- `OpensslCallIsNonNegative`. -/
def OpensslCallIsNonNegative.callChecked (rv : Int) : Except Error Int :=
  mococrw.openssl.callChecked .nonNegative rv

/-- `OpensslCallIsPositive`. -/
def OpensslCallIsPositive.callChecked (rv : Int) : Except Error Int :=
  mococrw.openssl.callChecked .positive rv

/-- `OpensslCallPtr`, with CPPC's `IsNotNullptrReturnCheckPolicy`. -/
def OpensslCallPtr.callChecked {α : Type} : Option α → Except Error α
  | some p => .ok p
  | none => .error .openSSLException

@[simp] theorem OpensslCallIsOne.callChecked_eq (rv : Int) :
    OpensslCallIsOne.callChecked rv = mococrw.openssl.callChecked .isOne rv := rfl

@[simp] theorem OpensslCallIsNonNegative.callChecked_eq (rv : Int) :
    OpensslCallIsNonNegative.callChecked rv = mococrw.openssl.callChecked .nonNegative rv := rfl

@[simp] theorem OpensslCallIsPositive.callChecked_eq (rv : Int) :
    OpensslCallIsPositive.callChecked rv = mococrw.openssl.callChecked .positive rv := rfl

@[simp] theorem OpensslCallPtr.callChecked_some {α : Type} (p : α) :
    OpensslCallPtr.callChecked (some p) = .ok p := rfl

@[simp] theorem OpensslCallPtr.callChecked_none {α : Type} :
    OpensslCallPtr.callChecked (none : Option α) = .error .openSSLException := rfl

theorem callChecked_of_ok {policy : ReturnCheckPolicy} {rv : Int}
    (h : policy.returnValueIsOk rv = true) : callChecked policy rv = .ok rv := by
  simp [callChecked, h]

theorem callChecked_of_not_ok {policy : ReturnCheckPolicy} {rv : Int}
    (h : policy.returnValueIsOk rv = false) :
    callChecked policy rv = .error .openSSLException := by
  simp [callChecked, h]

@[simp] theorem callChecked_isOne_one : callChecked .isOne 1 = .ok 1 := rfl

theorem callChecked_positive {rv : Int} (h : 0 < rv) : callChecked .positive rv = .ok rv :=
  callChecked_of_ok (by simp [ReturnCheckPolicy.returnValueIsOk, h])

/-- `OpensslCallIsOne` as a test on the value. -/
theorem callChecked_isOne_eq (rv : Int) :
    callChecked .isOne rv = if rv = 1 then .ok rv else .error .openSSLException := by
  by_cases h : rv = 1 <;> simp [callChecked, ReturnCheckPolicy.returnValueIsOk, h]

/-- `OpensslCallIsPositive` as a test on the value. -/
theorem callChecked_positive_eq (rv : Int) :
    callChecked .positive rv = if 0 < rv then .ok rv else .error .openSSLException := by
  by_cases h : 0 < rv <;> simp [callChecked, ReturnCheckPolicy.returnValueIsOk, h]

/-- **The checked-call contract.** A checked call has exactly two outcomes: the
native value, passed through unchanged and accepted by the policy, or the
error-queue `OpenSSLException`. There is no third state. -/
theorem callChecked_cases (policy : ReturnCheckPolicy) (rv : Int) :
    (policy.returnValueIsOk rv = true ∧ callChecked policy rv = .ok rv) ∨
      (policy.returnValueIsOk rv = false ∧
        callChecked policy rv = .error .openSSLException) := by
  cases h : policy.returnValueIsOk rv
  · exact .inr ⟨rfl, callChecked_of_not_ok h⟩
  · exact .inl ⟨rfl, callChecked_of_ok h⟩

/-! ## Sequencing

`Except` results are taken apart by these three rather than by unfolding
`Except.bind`: unfolding it in front of a call that is not yet rewritten to a
constructor lets the kernel try to run that call. -/

@[simp] theorem ok_bind {α β : Type} (a : α) (f : α → Except Error β) :
    (Except.ok a >>= f) = f a := rfl

@[simp] theorem error_bind {α β : Type} (e : Error) (f : α → Except Error β) :
    (Except.error e >>= f) = .error e := rfl

@[simp] theorem pure_eq_ok {α : Type} (a : α) : (pure a : Except Error α) = .ok a := rfl

/-! ## Calls on a mutable object

The wrappers that change an `X509` are written in `EStateM Error σ`: a throw
carries the object as it stood when the exception left the wrapper, which is
what a caller holding the pointer sees afterwards. A checked call inside such a
wrapper is lifted with `MonadExcept.ofExcept`. -/

@[simp] theorem run_eq_apply {σ α : Type} (m : EStateM Error σ α) (s : σ) : m.run s = m s := rfl

@[simp] theorem ofExcept_ok_apply {σ α : Type} (a : α) (s : σ) :
    (MonadExcept.ofExcept (.ok a : Except Error α) : EStateM Error σ α) s = .ok a s := rfl

@[simp] theorem ofExcept_error_apply {σ α : Type} (e : Error) (s : σ) :
    (MonadExcept.ofExcept (.error e : Except Error α) : EStateM Error σ α) s = .error e s := rfl

/-! ## Running `EStateM` code on a state

A wrapper's `do` block is run on a state by these, one bind at a time, rather
than by unfolding `EStateM.bind`. -/

section Apply

variable {σ α β : Type}

@[simp] theorem modifyGet_bind_apply (f : σ → α × σ) (g : α → EStateM Error σ β) (s : σ) :
    (modifyGet f >>= g) s = g (f s).1 (f s).2 := rfl

@[simp] theorem get_bind_apply (g : σ → EStateM Error σ β) (s : σ) : (get >>= g) s = g s s := rfl

theorem bind_apply_of_ok {x : EStateM Error σ α} {s s' : σ} {a : α} (h : x s = .ok a s')
    (f : α → EStateM Error σ β) : (x >>= f) s = f a s' := by
  show EStateM.bind x f s = _
  simp only [EStateM.bind, h]

theorem bind_apply_of_error {x : EStateM Error σ α} {s s' : σ} {e : Error}
    (h : x s = .error e s') (f : α → EStateM Error σ β) : (x >>= f) s = .error e s' := by
  show EStateM.bind x f s = _
  simp only [EStateM.bind, h]

@[simp] theorem pure_bind_apply (a : α) (g : α → EStateM Error σ β) (s : σ) :
    (pure a >>= g) s = g a s := rfl

@[simp] theorem modify_bind_apply (f : σ → σ) (g : PUnit → EStateM Error σ β) (s : σ) :
    (modify f >>= g) s = g ⟨⟩ (f s) := rfl

@[simp] theorem set_bind_apply (s' : σ) (g : PUnit → EStateM Error σ β) (s : σ) :
    (set s' >>= g) s = g ⟨⟩ s' := rfl

@[simp] theorem map_set_apply (f : PUnit → β) (s' s : σ) :
    (f <$> (set s' : EStateM Error σ PUnit)) s = .ok (f ⟨⟩) s' := rfl

@[simp] theorem map_modify_apply (f : PUnit → β) (g : σ → σ) (s : σ) :
    (f <$> (modify g : EStateM Error σ PUnit)) s = .ok (f ⟨⟩) (g s) := rfl

@[simp] theorem map_throw_apply (f : α → β) (e : Error) (s : σ) :
    (f <$> (throw e : EStateM Error σ α)) s = .error e s := rfl

@[simp] theorem throw_apply (e : Error) (s : σ) : (throw e : EStateM Error σ α) s = .error e s :=
  rfl

@[simp] theorem pure_apply (a : α) (s : σ) : (pure a : EStateM Error σ α) s = .ok a s := rfl

@[simp] theorem ofExcept_ok_bind_apply (a : α) (f : α → EStateM Error σ β) (s : σ) :
    (MonadExcept.ofExcept (.ok a : Except Error α) >>= f) s = f a s := rfl

@[simp] theorem ofExcept_error_bind_apply (e : Error) (f : α → EStateM Error σ β) (s : σ) :
    (MonadExcept.ofExcept (.error e : Except Error α) >>= f) s = .error e s := rfl

theorem map_apply (f : α → β) (x : EStateM Error σ α) (s : σ) :
    (f <$> x) s = (x >>= fun a => pure (f a)) s := rfl

end Apply

/-- `CallCheckContext<policy, ...>::callChecked` of a native call that also
changes a state (a context, a name): the call, then the check of its value. -/
def callCheckedOn {σ : Type} (policy : ReturnCheckPolicy) (native : σ → Int × σ) :
    EStateM Error σ Unit := do
  let rv ← modifyGet native
  let _ ← MonadExcept.ofExcept (callChecked policy rv)

theorem callCheckedOn_eq {σ : Type} (policy : ReturnCheckPolicy) (native : σ → Int × σ)
    (s : σ) :
    callCheckedOn policy native s =
      if policy.returnValueIsOk (native s).1 then .ok () (native s).2
      else .error .openSSLException (native s).2 := by
  by_cases h : policy.returnValueIsOk (native s).1 <;>
    simp [callCheckedOn, callChecked, h, map_apply]

end mococrw.openssl
