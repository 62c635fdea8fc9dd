/-
Memory that OpenSSL hands to the wrappers of `src/openssl_wrap.cpp`, and who
gives it back: `_EVP_PKEY_keygen` and `_EVP_PKEY_paramgen` (lines 209-246),
`_i2d_ECDSA_SIG` with its `OpenSSLGuardedOutputBuffer` (lines 132-160,
1347-1367), `_ECDSA_SIG_set0` (lines 1331-1335), `_EC_KEY_oct2key` and
`_EC_KEY_key2buf` (lines 1476-1510) and `_EVP_derive_key` (lines 1512-1558);
and the output buffers of `_HMAC_Final` and `_CMAC_Final` (lines 1422-1462).

The allocations OpenSSL has handed out and not been given back are the state,
as a list of addresses (`Allocations`). A native call that hands out memory is
modelled by what it did, as in `ErrorQueue.lean`: the value it returned and the
pointer it left in its output parameter, which is a fresh allocation unless it
is `nullptr`. So a statement over every answer is a statement over every
behaviour of the library, including one that fails and still leaves memory in
the output parameter. `ECDSA_SIG_set0` is modelled as OpenSSL 3.0 has it: it
refuses a `nullptr` for `r` or `s` with `0` and takes both otherwise.

An owning holder (`SSL_*_Ptr`, `OpenSSLGuardedOutputBuffer`) is modelled where
its scope ends: `onThrow` when it is handed to the caller on return and so only
frees on unwinding, `atScopeExit` when it frees on every way out, and a
`catch` that frees and rethrows is `onThrow` as well.

The result is an account of the allocations over every run of these wrappers,
each call in its own `try` block (`runOwning_holders`): the allocations after
the run, with those the calls took over from the caller's holders, are exactly
those the holders of the results own, those allocated before, and the ones the
calls leaked. A call leaks only where the source leaves a failure to OpenSSL:
`_EVP_PKEY_paramgen` and `_EC_KEY_key2buf`, which have no holder, when a failing
native call leaves memory behind (OpenSSL's do not), and `_ECDSA_SIG_set0`,
which releases both holders before the call that may refuse them, whenever
exactly one of `r` and `s` is `nullptr`. The guarded buffer, the holders and the
`catch` in `_EVP_PKEY_keygen` keep the others from leaking whatever OpenSSL does.
So the allocations are exactly what the live holders own after every run in
which no call leaks, and after no other.
-/
import MoCOCrW.Bio

set_option autoImplicit false

namespace mococrw.openssl

/-! ## Allocations and what the native calls did -/

/-- The allocations OpenSSL has handed out and not been given back, latest first. -/
abbrev Allocations := List Nat

/-- What a holder of the pointer `p` owns: nothing for `nullptr`. -/
def ownedBy (p : Nat) : List Nat := if p = 0 then [] else [p]

/-- What a native call that fills an output pointer did: the value it returned,
and the pointer it left in the output parameter. -/
structure OutAnswer where
  rv : Int
  out : Nat
  deriving DecidableEq, Repr

/-- What a native call that allocates a buffer did: the value it returned, the
buffer it left in the output parameter, and the bytes in that buffer. -/
structure BufferAnswer where
  rv : Int
  out : Nat
  bytes : List UInt8
  deriving DecidableEq, Repr

/-- What a native call that writes into the caller's buffer did: the value it
returned and the bytes it wrote, whose count it reports. -/
structure WriteAnswer where
  rv : Int
  bytes : List UInt8
  deriving DecidableEq, Repr

namespace lib.OpenSSLLib

/-- A native call that leaves a new allocation in its output parameter. -/
def allocating (a : OutAnswer) : EStateM Error Allocations (Int × Nat) :=
  modifyGet fun heap => ((a.rv, a.out), ownedBy a.out ++ heap)

/-- Giving an allocation back; every `*_free` of OpenSSL does nothing on `nullptr`. -/
def freeAllocation (p : Nat) (heap : Allocations) : Allocations :=
  if p = 0 then heap else heap.erase p

/-- `EVP_PKEY_keygen(ctx, &ptr)`. -/
def SSL_EVP_PKEY_keygen (a : OutAnswer) : EStateM Error Allocations (Int × Nat) := allocating a

/-- `EVP_PKEY_paramgen(ctx, &ptr)`. -/
def SSL_EVP_PKEY_paramgen (a : OutAnswer) : EStateM Error Allocations (Int × Nat) := allocating a

/-- `EC_KEY_new_by_curve_name(nid)`, which returns the key it allocated. -/
def SSL_EC_KEY_new_by_curve_name (key : Nat) : EStateM Error Allocations Nat :=
  modifyGet fun heap => (key, ownedBy key ++ heap)

/-- `EVP_PKEY_CTX_new(pkey, nullptr)`, which returns the context it allocated. -/
def SSL_EVP_PKEY_CTX_new (ctx : Nat) : EStateM Error Allocations Nat :=
  modifyGet fun heap => (ctx, ownedBy ctx ++ heap)

/-- `i2d_ECDSA_SIG(sig, &pp)` with `*pp == nullptr`: OpenSSL allocates the DER buffer. -/
def SSL_i2d_ECDSA_SIG (a : BufferAnswer) : EStateM Error Allocations (Int × Nat × List UInt8) :=
  modifyGet fun heap => ((a.rv, a.out, a.bytes), ownedBy a.out ++ heap)

/-- `EC_KEY_key2buf(key, form, &pbuf, nullptr)`: OpenSSL allocates the octet buffer. -/
def SSL_EC_KEY_key2buf (a : BufferAnswer) : EStateM Error Allocations (Int × Nat × List UInt8) :=
  modifyGet fun heap => ((a.rv, a.out, a.bytes), ownedBy a.out ++ heap)

/-- `ECDSA_SIG_set0(sig, r, s)`: `0` when `r` or `s` is
`nullptr`; otherwise `sig` takes both and the call returns `1`. -/
def SSL_ECDSA_SIG_set0 (r s : Nat) : Int := if r = 0 ∨ s = 0 then 0 else 1

/-- A native call that writes `a.bytes` at the start of the caller's buffer and
reports their count. -/
def writing (a : WriteAnswer) (buf : List UInt8) : Int × Nat × List UInt8 :=
  (a.rv, a.bytes.length, overwrite buf a.bytes)

/-- `EVP_PKEY_derive(ctx, key, &keylen)` with a buffer. -/
def SSL_EVP_PKEY_derive (a : WriteAnswer) (key : List UInt8) : Int × Nat × List UInt8 :=
  writing a key

/-- `HMAC_Final(ctx, md, &len)`. -/
def SSL_HMAC_Final (a : WriteAnswer) (md : List UInt8) : Int × Nat × List UInt8 := writing a md

/-- `CMAC_Final(ctx, out, &poutlen)`. -/
def SSL_CMAC_Final (a : WriteAnswer) (out : List UInt8) : Int × Nat × List UInt8 :=
  writing a out

def SSL_EVP_PKEY_free (p : Nat) (heap : Allocations) : Allocations := freeAllocation p heap

def SSL_OPENSSL_free (p : Nat) (heap : Allocations) : Allocations := freeAllocation p heap

def SSL_EC_KEY_free (p : Nat) (heap : Allocations) : Allocations := freeAllocation p heap

def SSL_EVP_PKEY_CTX_free (p : Nat) (heap : Allocations) : Allocations := freeAllocation p heap

end lib.OpenSSLLib

/-- `EVP_MAX_MD_SIZE`. -/
def EVP_MAX_MD_SIZE : Nat := 64

/-- `EVP_MAX_BLOCK_LENGTH`. -/
def EVP_MAX_BLOCK_LENGTH : Nat := 32

/-! ## Holders -/

/-- Unwinding through a holder, or through a `catch` that cleans up and
rethrows: when `body` throws, `cleanup` runs and the exception goes on. -/
def onThrow {α : Type} (cleanup : Allocations → Allocations)
    (body : EStateM Error Allocations α) : EStateM Error Allocations α := fun heap =>
  match body heap with
  | .ok a heap' => .ok a heap'
  | .error e heap' => .error e (cleanup heap')

/-- A holder whose scope ends with `body`: `cleanup` runs on every way out. -/
def atScopeExit {α : Type} (cleanup : Allocations → Allocations)
    (body : EStateM Error Allocations α) : EStateM Error Allocations α := fun heap =>
  match body heap with
  | .ok a heap' => .ok a (cleanup heap')
  | .error e heap' => .error e (cleanup heap')

/-- `OpensslCallPtr::callChecked` on a pointer a native call returned. -/
def checkedPtr (p : Nat) : EStateM Error Allocations Nat :=
  MonadExcept.ofExcept (OpensslCallPtr.callChecked (if p = 0 then none else some p))

/-! ## The wrappers -/

/-- `_EVP_PKEY_keygen(ctx)`: a failing call frees what OpenSSL left in `ptr`
before the exception goes on. -/
def _EVP_PKEY_keygen (a : OutAnswer) : EStateM Error Allocations Nat := do
  let (rv, ptr) ← lib.OpenSSLLib.SSL_EVP_PKEY_keygen a
  let _ ← onThrow (fun heap => if ptr ≠ 0 then lib.OpenSSLLib.SSL_EVP_PKEY_free ptr heap else heap)
    (MonadExcept.ofExcept (OpensslCallIsOne.callChecked rv))
  return ptr

/-- `_EVP_PKEY_paramgen(ctx)`: no `catch`. -/
def _EVP_PKEY_paramgen (a : OutAnswer) : EStateM Error Allocations Nat := do
  let (rv, ptr) ← lib.OpenSSLLib.SSL_EVP_PKEY_paramgen a
  let _ ← MonadExcept.ofExcept (OpensslCallIsOne.callChecked rv)
  return ptr

/-- `_i2d_ECDSA_SIG(sig)`: `outputBuffer` frees the DER buffer when its scope ends. -/
def _i2d_ECDSA_SIG (a : BufferAnswer) : EStateM Error Allocations (List UInt8) :=
  atScopeExit (fun heap => if a.out ≠ 0 then lib.OpenSSLLib.SSL_OPENSSL_free a.out heap else heap)
    do
      let (result, out, bytes) ← lib.OpenSSLLib.SSL_i2d_ECDSA_SIG a
      if result ≤ 0 then
        throw (.openSSLExceptionWith "ECDSA Signature serialization to DER failed.")
      else if out = 0 then
        throw (.openSSLExceptionWith
          "ECDSA Signature serialization to DER failed: Returned no data")
      else return bytes.take result.toNat

/-- `_ECDSA_SIG_set0(sig, r, s)`: both holders release their `BIGNUM` before the call. -/
def _ECDSA_SIG_set0 (r s : Nat) : EStateM Error Allocations Unit := do
  let _ ← MonadExcept.ofExcept (OpensslCallIsOne.callChecked (lib.OpenSSLLib.SSL_ECDSA_SIG_set0 r s))

/-- `_EC_KEY_oct2key(nid, buf)`: the holder `key` frees the new key when
`EC_KEY_oct2key` fails, given the key `EC_KEY_new_by_curve_name` returned and
the value `EC_KEY_oct2key` returned. -/
def _EC_KEY_oct2key (newKey : Nat) (rv : Int) : EStateM Error Allocations Nat := do
  let key ← lib.OpenSSLLib.SSL_EC_KEY_new_by_curve_name newKey >>= checkedPtr
  let _ ← onThrow (lib.OpenSSLLib.SSL_EC_KEY_free key)
    (MonadExcept.ofExcept (OpensslCallIsOne.callChecked rv))
  return key

/-- `_EC_KEY_key2buf(evp, form)`, given the `EC_KEY` that
`EVP_PKEY_get0_EC_KEY` returned (no allocation) and what `EC_KEY_key2buf` did.
The buffer is freed after the copy; a failing `EC_KEY_key2buf` throws before. -/
def _EC_KEY_key2buf (eckey : Nat) (a : BufferAnswer) :
    EStateM Error Allocations (List UInt8) := do
  let _ ← checkedPtr eckey
  let (rv, pbuf, bytes) ← lib.OpenSSLLib.SSL_EC_KEY_key2buf a
  let length ← MonadExcept.ofExcept (OpensslCallIsPositive.callChecked rv)
  let result := bytes.take length.toNat
  modify (lib.OpenSSLLib.SSL_OPENSSL_free pbuf)
  return result

/-- `_EVP_derive_key(peerkey, key)`, given the context `EVP_PKEY_CTX_new`
returned, the values `EVP_PKEY_derive_init` and `EVP_PKEY_derive_set_peer`
returned, the size query (`EVP_PKEY_derive` with no buffer: its value and the
length it reports) and what the second `EVP_PKEY_derive` did. The holder `ctx`
frees the context on every way out. -/
def _EVP_derive_key (newCtx : Nat) (initRv peerRv : Int) (query : Int × Nat)
    (derive : WriteAnswer) : EStateM Error Allocations (List UInt8) := do
  let ctx ← lib.OpenSSLLib.SSL_EVP_PKEY_CTX_new newCtx >>= checkedPtr
  atScopeExit (lib.OpenSSLLib.SSL_EVP_PKEY_CTX_free ctx) do
    let _ ← MonadExcept.ofExcept (OpensslCallIsOne.callChecked initRv)
    let _ ← MonadExcept.ofExcept (OpensslCallIsOne.callChecked peerRv)
    let _ ← MonadExcept.ofExcept (OpensslCallIsOne.callChecked query.1)
    let secret_len := query.2
    let result := List.replicate secret_len 0
    let (rv, _, result) := lib.OpenSSLLib.SSL_EVP_PKEY_derive derive result
    let _ ← MonadExcept.ofExcept (OpensslCallIsOne.callChecked rv)
    return result

/-- `_HMAC_Final(ctx)`. -/
def _HMAC_Final (a : WriteAnswer) : Except Error (List UInt8) := do
  let length := EVP_MAX_MD_SIZE
  let md := List.replicate length 0
  let (rv, length, md) := lib.OpenSSLLib.SSL_HMAC_Final a md
  let _ ← OpensslCallIsOne.callChecked rv
  return vectorResize md length

/-- `_CMAC_Final(ctx)`; the `assert(length <= cmac.size())` of a debug build is
not modelled. -/
def _CMAC_Final (a : WriteAnswer) : Except Error (List UInt8) := do
  let cmac := List.replicate EVP_MAX_BLOCK_LENGTH 0
  let (rv, length, cmac) := lib.OpenSSLLib.SSL_CMAC_Final a cmac
  let _ ← OpensslCallIsOne.callChecked rv
  return vectorResize cmac length

/-! ## Runs -/

/-- A call of one of the wrappers that hand out or take over OpenSSL memory, by
what its native calls did. -/
inductive OwningCall where
  | keygen (a : OutAnswer)
  | paramgen (a : OutAnswer)
  | i2dSig (a : BufferAnswer)
  | set0 (r s : Nat)
  | oct2key (newKey : Nat) (rv : Int)
  | key2buf (eckey : Nat) (a : BufferAnswer)
  | deriveKey (newCtx : Nat) (initRv peerRv : Int) (query : Int × Nat) (derive : WriteAnswer)

/-- The call, with what the caller's holder of its result owns as its value:
the key for `_EVP_PKEY_keygen`, `_EVP_PKEY_paramgen` and `_EC_KEY_oct2key`, the
two `BIGNUM`s for the signature `_ECDSA_SIG_set0` fills, and nothing for the
byte vectors the others return. -/
def OwningCall.run : OwningCall → EStateM Error Allocations (List Nat)
  | .keygen a => ownedBy <$> _EVP_PKEY_keygen a
  | .paramgen a => ownedBy <$> _EVP_PKEY_paramgen a
  | .i2dSig a => (fun _ => []) <$> _i2d_ECDSA_SIG a
  | .set0 r s => (fun _ => ownedBy r ++ ownedBy s) <$> _ECDSA_SIG_set0 r s
  | .oct2key newKey rv => ownedBy <$> _EC_KEY_oct2key newKey rv
  | .key2buf eckey a => (fun _ => []) <$> _EC_KEY_key2buf eckey a
  | .deriveKey newCtx initRv peerRv query derive =>
    (fun _ => []) <$> _EVP_derive_key newCtx initRv peerRv query derive

/-- `try { ... } catch (...) {}` around a call: an exception leaves no result,
so nothing held, and the allocations as the call left them. -/
def catchAll (x : EStateM Error Allocations (List Nat)) : EStateM Error Allocations (List Nat) :=
  fun heap => match x heap with
    | .ok owned heap' => .ok owned heap'
    | .error _ heap' => .ok [] heap'

/-- Calls one after another, each in its own `try` block: what the holders of
their results own. -/
def runOwning : List OwningCall → EStateM Error Allocations (List Nat)
  | [] => pure []
  | c :: cs => do
    let owned ← catchAll c.run
    let rest ← runOwning cs
    return owned ++ rest

end mococrw.openssl

namespace MoCOCrW.Ownership

open mococrw.openssl lib.OpenSSLLib MoCOCrW.Bio

/-! ## Support -/

@[simp] theorem ownedBy_zero : ownedBy 0 = [] := rfl

theorem ownedBy_of_ne {p : Nat} (h : p ≠ 0) : ownedBy p = [p] := if_neg h

/-- Giving back what was just handed out leaves the allocations as they were. -/
@[simp] theorem freeAllocation_ownedBy (p : Nat) (heap : Allocations) :
    freeAllocation p (ownedBy p ++ heap) = heap := by
  by_cases h : p = 0
  · simp [freeAllocation, h]
  · simp [freeAllocation, ownedBy_of_ne h, h]

@[simp] theorem ownedBy_eq_nil (p : Nat) : ownedBy p = [] ↔ p = 0 := by
  unfold ownedBy; split <;> simp_all

@[simp] theorem writing_fst (a : WriteAnswer) (buf : List UInt8) : (writing a buf).1 = a.rv := rfl

section Apply

variable {α β : Type}

@[simp] theorem onThrow_ofExcept_ok_bind (c : Allocations → Allocations) (a : α)
    (f : α → EStateM Error Allocations β) (s : Allocations) :
    (onThrow c (MonadExcept.ofExcept (.ok a)) >>= f) s = f a s := rfl

@[simp] theorem onThrow_ofExcept_error_bind (c : Allocations → Allocations) (e : Error)
    (f : α → EStateM Error Allocations β) (s : Allocations) :
    (onThrow c (MonadExcept.ofExcept (.error e : Except Error α)) >>= f) s = .error e (c s) :=
  rfl

@[simp] theorem atScopeExit_apply (c : Allocations → Allocations)
    (body : EStateM Error Allocations α) (s : Allocations) :
    atScopeExit c body s = match body s with
      | .ok a s' => .ok a (c s')
      | .error e s' => .error e (c s') := rfl

end Apply

/-! ## One lemma per wrapper -/

theorem _EVP_PKEY_keygen_eq (a : OutAnswer) (heap : Allocations) :
    _EVP_PKEY_keygen a heap =
      if a.rv = 1 then .ok a.out (ownedBy a.out ++ heap) else .error .openSSLException heap := by
  by_cases h : a.rv = 1 <;>
    simp [map_apply, _EVP_PKEY_keygen, SSL_EVP_PKEY_keygen, allocating, callChecked_isOne_eq, h,
      SSL_EVP_PKEY_free]

theorem _EVP_PKEY_paramgen_eq (a : OutAnswer) (heap : Allocations) :
    _EVP_PKEY_paramgen a heap =
      if a.rv = 1 then .ok a.out (ownedBy a.out ++ heap)
      else .error .openSSLException (ownedBy a.out ++ heap) := by
  by_cases h : a.rv = 1 <;>
    simp [map_apply, _EVP_PKEY_paramgen, SSL_EVP_PKEY_paramgen, allocating, callChecked_isOne_eq, h]

theorem _i2d_ECDSA_SIG_eq (a : BufferAnswer) (heap : Allocations) :
    _i2d_ECDSA_SIG a heap =
      if a.rv ≤ 0 then
        .error (.openSSLExceptionWith "ECDSA Signature serialization to DER failed.") heap
      else if a.out = 0 then
        .error (.openSSLExceptionWith
          "ECDSA Signature serialization to DER failed: Returned no data") heap
      else .ok (a.bytes.take a.rv.toNat) heap := by
  by_cases h : a.rv ≤ 0
  · simp [map_apply, _i2d_ECDSA_SIG, SSL_i2d_ECDSA_SIG, h, SSL_OPENSSL_free]
  · by_cases ho : a.out = 0 <;>
      simp [map_apply, _i2d_ECDSA_SIG, SSL_i2d_ECDSA_SIG, h, ho, SSL_OPENSSL_free]

theorem _ECDSA_SIG_set0_eq (r s : Nat) (heap : Allocations) :
    _ECDSA_SIG_set0 r s heap =
      if r = 0 ∨ s = 0 then .error .openSSLException heap else .ok () heap := by
  by_cases h : r = 0 ∨ s = 0 <;>
    simp [map_apply, _ECDSA_SIG_set0, SSL_ECDSA_SIG_set0, callChecked_isOne_eq, h]

theorem _EC_KEY_oct2key_eq (newKey : Nat) (rv : Int) (heap : Allocations) :
    _EC_KEY_oct2key newKey rv heap =
      if newKey = 0 then .error .openSSLException heap
      else if rv = 1 then .ok newKey (ownedBy newKey ++ heap)
      else .error .openSSLException heap := by
  by_cases hk : newKey = 0
  · simp [map_apply, _EC_KEY_oct2key, SSL_EC_KEY_new_by_curve_name, checkedPtr, hk]
  · by_cases h : rv = 1 <;>
      simp [map_apply, _EC_KEY_oct2key, SSL_EC_KEY_new_by_curve_name, checkedPtr,
        callChecked_isOne_eq, hk, h, SSL_EC_KEY_free]

theorem _EC_KEY_key2buf_eq (eckey : Nat) (a : BufferAnswer) (heap : Allocations) :
    _EC_KEY_key2buf eckey a heap =
      if eckey = 0 then .error .openSSLException heap
      else if 0 < a.rv then .ok (a.bytes.take a.rv.toNat) heap
      else .error .openSSLException (ownedBy a.out ++ heap) := by
  by_cases hk : eckey = 0
  · simp [map_apply, _EC_KEY_key2buf, checkedPtr, hk]
  · by_cases h : 0 < a.rv <;>
      simp [map_apply, _EC_KEY_key2buf, SSL_EC_KEY_key2buf, checkedPtr, callChecked_positive_eq, hk, h,
        SSL_OPENSSL_free]

theorem _EVP_derive_key_eq (newCtx : Nat) (initRv peerRv : Int) (query : Int × Nat)
    (derive : WriteAnswer) (heap : Allocations) :
    _EVP_derive_key newCtx initRv peerRv query derive heap =
      if newCtx = 0 then .error .openSSLException heap
      else if initRv = 1 ∧ peerRv = 1 ∧ query.1 = 1 ∧ derive.rv = 1 then
        .ok (overwrite (List.replicate query.2 0) derive.bytes) heap
      else .error .openSSLException heap := by
  by_cases hk : newCtx = 0
  · simp [map_apply, _EVP_derive_key, SSL_EVP_PKEY_CTX_new, checkedPtr, hk]
  · simp [map_apply, _EVP_derive_key, SSL_EVP_PKEY_CTX_new, checkedPtr, hk, callChecked_isOne_eq,
      SSL_EVP_PKEY_derive, writing, SSL_EVP_PKEY_CTX_free, ite_and]
    split_ifs <;> simp [map_apply]

/-! ## Output buffers -/

/-- Cut to the count the native call reported, a buffer it wrote into holds
exactly what it wrote. -/
theorem vectorResize_writing {a : WriteAnswer} {n : Nat} (h : a.bytes.length ≤ n) :
    vectorResize (writing a (List.replicate n 0)).2.2 (writing a (List.replicate n 0)).2.1 =
      a.bytes :=
  vectorResize_overwrite (by simpa using h)

/-- `_HMAC_Final` returns exactly the MAC OpenSSL wrote, when it fits its buffer. -/
theorem _HMAC_Final_of_fits {a : WriteAnswer} (hrv : a.rv = 1)
    (h : a.bytes.length ≤ EVP_MAX_MD_SIZE) : _HMAC_Final a = .ok a.bytes := by
  simp only [_HMAC_Final, SSL_HMAC_Final, OpensslCallIsOne.callChecked_eq, callChecked_isOne_eq,
    writing_fst, hrv, if_true, ok_bind, pure_eq_ok, vectorResize_writing h]

/-- `_CMAC_Final` returns exactly the MAC OpenSSL wrote, when it fits its buffer. -/
theorem _CMAC_Final_of_fits {a : WriteAnswer} (hrv : a.rv = 1)
    (h : a.bytes.length ≤ EVP_MAX_BLOCK_LENGTH) : _CMAC_Final a = .ok a.bytes := by
  simp only [_CMAC_Final, SSL_CMAC_Final, OpensslCallIsOne.callChecked_eq, callChecked_isOne_eq,
    writing_fst, hrv, if_true, ok_bind, pure_eq_ok, vectorResize_writing h]

/-! ## The account over runs -/

/-- The allocations a call takes over from its caller's holders: the two
`BIGNUM`s whose holders `_ECDSA_SIG_set0` releases before the call. -/
def consumed : OwningCall → List Nat
  | .set0 r s => ownedBy r ++ ownedBy s
  | _ => []

/-- The allocations a call leaves behind with no holder: what a failing
`EVP_PKEY_paramgen` or `EC_KEY_key2buf` left in its output parameter, and the
`BIGNUM`s `ECDSA_SIG_set0` refused. -/
def leaked : OwningCall → List Nat
  | .paramgen a => if a.rv = 1 then [] else ownedBy a.out
  | .set0 r s => if r = 0 ∨ s = 0 then ownedBy r ++ ownedBy s else []
  | .key2buf eckey a => if eckey = 0 ∨ 0 < a.rv then [] else ownedBy a.out
  | _ => []

/-- The calls that leak nothing: every call of a wrapper with a holder or a
`catch`; `_EVP_PKEY_paramgen` and `_EC_KEY_key2buf` when a failing native call
leaves no memory behind; `_ECDSA_SIG_set0` when `r` and `s` are both `nullptr`
or neither is. -/
def leakFree : OwningCall → Bool
  | .paramgen a => a.rv == 1 || a.out == 0
  | .set0 r s => (r == 0) == (s == 0)
  | .key2buf eckey a => eckey == 0 || decide (0 < a.rv) || a.out == 0
  | _ => true

theorem leaked_eq_nil_iff (c : OwningCall) : leaked c = [] ↔ leakFree c = true := by
  cases c with
  | paramgen a => by_cases h : a.rv = 1 <;> simp [leaked, leakFree, h]
  | set0 r s =>
    by_cases hr : r = 0 <;> by_cases hs : s = 0 <;> simp [leaked, leakFree, hr, hs]
  | key2buf eckey a =>
    by_cases hk : eckey = 0 <;> by_cases h : 0 < a.rv <;> simp [leaked, leakFree, hk, h]
  | _ => simp [leaked, leakFree]

theorem catchAll_map_apply {α : Type} (f : α → List Nat) (x : EStateM Error Allocations α)
    (heap : Allocations) :
    catchAll (f <$> x) heap = match x heap with
      | .ok a heap' => .ok (f a) heap'
      | .error _ heap' => .ok [] heap' := by
  rw [catchAll, map_apply]
  cases h : x heap with
  | ok a heap' => rw [bind_apply_of_ok h]; rfl
  | error e heap' => rw [bind_apply_of_error h]

/-- **One call in its `try` block keeps the account.** The allocations after it,
with those it took over, are what its result's holder owns, what it leaked, and
the allocations before it. -/
theorem caught_accounts (c : OwningCall) (heap : Allocations) :
    ∃ owned heap', catchAll c.run heap = .ok owned heap' ∧
      List.Perm (heap' ++ consumed c) (owned ++ leaked c ++ heap) := by
  cases c with
  | keygen a =>
    simp only [OwningCall.run, catchAll_map_apply, _EVP_PKEY_keygen_eq]
    split_ifs <;> exact ⟨_, _, rfl, by simp [consumed, leaked]⟩
  | paramgen a =>
    simp only [OwningCall.run, catchAll_map_apply, _EVP_PKEY_paramgen_eq]
    split_ifs <;> exact ⟨_, _, rfl, by simp [consumed, leaked, *]⟩
  | i2dSig a =>
    simp only [OwningCall.run, catchAll_map_apply, _i2d_ECDSA_SIG_eq]
    split_ifs <;> exact ⟨_, _, rfl, by simp [consumed, leaked]⟩
  | set0 r s =>
    simp only [OwningCall.run, catchAll_map_apply, _ECDSA_SIG_set0_eq]
    split_ifs with h <;> refine ⟨_, _, rfl, List.perm_iff_count.mpr fun p => ?_⟩ <;>
      simp only [consumed, leaked, h, if_true, if_false, List.count_append, List.count_nil] <;>
      omega
  | oct2key newKey rv =>
    simp only [OwningCall.run, catchAll_map_apply, _EC_KEY_oct2key_eq]
    split_ifs <;> exact ⟨_, _, rfl, by simp [consumed, leaked]⟩
  | key2buf eckey a =>
    simp only [OwningCall.run, catchAll_map_apply, _EC_KEY_key2buf_eq]
    split_ifs <;> exact ⟨_, _, rfl, by simp [consumed, leaked, *]⟩
  | deriveKey newCtx initRv peerRv query derive =>
    simp only [OwningCall.run, catchAll_map_apply, _EVP_derive_key_eq]
    split_ifs <;> exact ⟨_, _, rfl, by simp [consumed, leaked]⟩

/-- The account of a whole run, by induction over the calls. -/
theorem runOwning_accounts (cs : List OwningCall) (heap : Allocations) :
    ∃ held heap', runOwning cs heap = .ok held heap' ∧
      List.Perm (heap' ++ (cs.map consumed).flatten) (held ++ (cs.map leaked).flatten ++ heap) := by
  induction cs generalizing heap with
  | nil => exact ⟨[], heap, rfl, by simp⟩
  | cons c cs ih =>
    obtain ⟨owned, heap₁, hc, hperm₁⟩ := caught_accounts c heap
    obtain ⟨rest, heap', hcs, hperm₂⟩ := ih heap₁
    refine ⟨owned ++ rest, heap', ?_, ?_⟩
    · rw [runOwning, bind_apply_of_ok hc, bind_apply_of_ok hcs]
      rfl
    · rw [List.perm_iff_count] at hperm₁ hperm₂ ⊢
      intro p
      have h₁ := hperm₁ p
      have h₂ := hperm₂ p
      simp only [List.count_append, List.map_cons, List.flatten_cons] at h₁ h₂ ⊢
      omega

/-- A run leaks nothing exactly when none of its calls does. -/
theorem flatten_leaked_eq_nil_iff (cs : List OwningCall) :
    (cs.map leaked).flatten = [] ↔ ∀ c ∈ cs, leakFree c = true := by
  simp only [List.flatten_eq_nil_iff, List.mem_map, forall_exists_index, and_imp,
    forall_apply_eq_imp_iff₂, leaked_eq_nil_iff]

/-- A key generated, then `_ECDSA_SIG_set0` given one `nullptr`: the other
`BIGNUM` is left allocated with no holder. -/
example : runOwning [.keygen ⟨1, 7⟩, .set0 5 0] [5] = .ok [7] [7, 5] := rfl

end MoCOCrW.Ownership
