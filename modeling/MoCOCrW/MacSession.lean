/-
HMAC and CMAC sessions through the wrapper: `_HMAC_Init_ex`, `_HMAC_Update`
and `_HMAC_Final` (`src/openssl_wrap.cpp` lines 1412-1434), and `_CMAC_Init`,
`_CMAC_Update` and `_CMAC_Final` (lines 1440-1462).

OpenSSL keeps the session in a context, modelled by what it holds: for an
`HMAC_CTX` the digest and key of the last initialisation that set a key
(`HmacCtx`), for a `CMAC_CTX` the key of the last complete initialisation
(`MacCtx`), and in both the bytes absorbed since. The natives are modelled as
OpenSSL 3.0 has them, the MAC itself apart: it is a parameter that carries the
bound on its length the wrapper's output buffer relies on (`MacFunction`). A
session is what a caller does with the wrappers: initialise with a key, absorb
chunks, finish.

Two things of the source decide what a session returns. The wrappers pass
`key.data()`, which for an empty vector is `nullptr` (`vectorData`), and
OpenSSL reads a null key as "no new key": `HMAC_Init_ex` then restarts with the
key the context already has under the same digest, and refuses a context that
has none; `CMAC_Init` sets the cipher, leaves the context without a key and
returns `1`, so the session fails later, at the first update or at the end.
And the lengths differ: `openssl_lib.h` declares `SSL_HMAC_Init_ex(..., int
key_len, ...)` and `SSL_HMAC_Update(..., int len)`, so the wrapper's `size()`
reaches them narrowed to an `int`, which `HMAC_Init_ex` refuses when negative
and `HMAC_Update`, whose `len` is a `size_t`, converts back (the forwarding in
`openssl_lib.cpp` is not under `src/`); the CMAC functions take a `size_t` all
the way.

Results. An HMAC session returns the HMAC under what `HMAC_Init_ex` installs of
the key (its first `size % 2^32` bytes) of what it absorbs of the chunks (the
same of each), for chunks shorter than `2^31` modulo `2^32`; for every key and
every context it says which: a non-empty key whose size is negative as an
`int` throws, and an empty one reuses or throws (`hmacSession_eq`). A CMAC
session returns the CMAC of the whole concatenation when the key is not empty
and the cipher takes its length, and throws otherwise (`cmacSession_eq`).
-/
import MoCOCrW.Ownership

set_option autoImplicit false

namespace mococrw.openssl

/-- A `CMAC_CTX`: the key of the last complete initialisation (`none` before
the first, and after one that set no key), and the bytes absorbed since. -/
structure MacCtx where
  key : Option (List UInt8)
  absorbed : List UInt8
  deriving DecidableEq, Repr

/-- An `HMAC_CTX`: the digest (an `EVP_MD` by its address) and the key of the
last initialisation that set a key, `none` before the first; and the bytes
absorbed since. -/
structure HmacCtx where
  keyed : Option (Nat × List UInt8)
  absorbed : List UInt8
  deriving DecidableEq, Repr

/-- A MAC function whose output is at most `bound` bytes: `EVP_MAX_MD_SIZE` for
an HMAC, `EVP_MAX_BLOCK_LENGTH` for a CMAC. -/
structure MacFunction (bound : Nat) where
  mac : List UInt8 → List UInt8 → List UInt8
  length_le : ∀ key msg, (mac key msg).length ≤ bound

/-- `v.data()` as a native call sees it: `nullptr` for an empty vector, which
holds no storage, and otherwise the bytes it points to. -/
def vectorData (v : List UInt8) : Option (List UInt8) := if v = [] then none else some v

namespace lib.OpenSSLLib

/-- `HMAC_Init_ex(ctx, key, len, md, impl)` with a digest HMAC accepts. A null
key is no new key: with the context's own digest it restarts under the key the
context has, and otherwise, a new context included, it is refused. A negative
`len` is refused. Otherwise the first `len` bytes are the key, and the context
starts over with `md`. A refusal leaves the context as it was. -/
def SSL_HMAC_Init_ex (ctx : HmacCtx) (key : Option (List UInt8)) (len : Int) (md : Nat) :
    Int × HmacCtx :=
  match key with
  | none =>
    match ctx.keyed with
    | some (md', k) => if md' = md then (1, ⟨some (md', k), []⟩) else (0, ctx)
    | none => (0, ctx)
  | some key => if len < 0 then (0, ctx) else (1, ⟨some (md, key.take len.toNat), []⟩)

/-- `HMAC_Update(ctx, data, len)`, whose `len` is a `size_t`: the `int` it is
handed is converted modulo `2^64`. A context with no digest is refused. A
length past the end of `data` makes OpenSSL read beyond the buffer; what it
does then is `overread`. -/
def SSL_HMAC_Update (overread : HmacCtx → Int × HmacCtx) (ctx : HmacCtx) (data : List UInt8)
    (len : Int) : Int × HmacCtx :=
  if ctx.keyed.isNone then (0, ctx)
  else if (len % 2 ^ 64).toNat ≤ data.length then
    (1, { ctx with absorbed := ctx.absorbed ++ data.take (len % 2 ^ 64).toNat })
  else overread ctx

/-- What `HMAC_Final` writes for a context: the MAC of the bytes absorbed under
its key, or a refusal for a context with no digest. -/
def hmacFinal (f : MacFunction EVP_MAX_MD_SIZE) (ctx : HmacCtx) : WriteAnswer :=
  match ctx.keyed with
  | some (_, key) => ⟨1, f.mac key ctx.absorbed⟩
  | none => ⟨0, []⟩

/-- `CMAC_Init(ctx, key, keylen, cipher, impl)` with a cipher. Setting the
cipher leaves the context unusable until a key completes it. A null key
completes nothing, and the call returns `1`. The cipher refuses a key length
other than its own (`keyLengthOk`), and the context stays unusable. -/
def SSL_CMAC_Init (keyLengthOk : Nat → Bool) (key : Option (List UInt8)) (keylen : Nat) :
    Int × MacCtx :=
  match key with
  | none => (1, ⟨none, []⟩)
  | some key => if keyLengthOk keylen then (1, ⟨some (key.take keylen), []⟩) else (0, ⟨none, []⟩)

/-- `CMAC_Update(ctx, data, dlen)`: refused on a context with no key. -/
def SSL_CMAC_Update (ctx : MacCtx) (data : List UInt8) (dlen : Nat) : Int × MacCtx :=
  if ctx.key.isNone then (0, ctx) else (1, { ctx with absorbed := ctx.absorbed ++ data.take dlen })

/-- What `CMAC_Final` writes for a context: the MAC of the bytes absorbed under
its key, or a refusal for a context with no key. -/
def cmacFinal (f : MacFunction EVP_MAX_BLOCK_LENGTH) (ctx : MacCtx) : WriteAnswer :=
  match ctx.key with
  | some key => ⟨1, f.mac key ctx.absorbed⟩
  | none => ⟨0, []⟩

end lib.OpenSSLLib

/-- `_HMAC_Init_ex(ctx, key, md, impl)`. -/
def _HMAC_Init_ex (key : List UInt8) (md : Nat) : EStateM Error HmacCtx Unit :=
  callCheckedOn .isOne fun ctx =>
    lib.OpenSSLLib.SSL_HMAC_Init_ex ctx (vectorData key) (wrapSigned 32 key.length) md

/-- `_HMAC_Update(ctx, data)`. -/
def _HMAC_Update (overread : HmacCtx → Int × HmacCtx) (data : List UInt8) :
    EStateM Error HmacCtx Unit :=
  callCheckedOn .isOne fun ctx =>
    lib.OpenSSLLib.SSL_HMAC_Update overread ctx data (wrapSigned 32 data.length)

/-- `_CMAC_Init(ctx, key, cipher, impl)`. -/
def _CMAC_Init (keyLengthOk : Nat → Bool) (key : List UInt8) : EStateM Error MacCtx Unit :=
  callCheckedOn .isOne fun _ => lib.OpenSSLLib.SSL_CMAC_Init keyLengthOk (vectorData key) key.length

/-- `_CMAC_Update(ctx, data)`. -/
def _CMAC_Update (data : List UInt8) : EStateM Error MacCtx Unit :=
  callCheckedOn .isOne fun ctx => lib.OpenSSLLib.SSL_CMAC_Update ctx data data.length

/-- `_HMAC_Final(ctx)` on the context. -/
def hmacFinalOn (f : MacFunction EVP_MAX_MD_SIZE) : EStateM Error HmacCtx (List UInt8) := do
  let ctx ← get
  MonadExcept.ofExcept (_HMAC_Final (lib.OpenSSLLib.hmacFinal f ctx))

/-- `_CMAC_Final(ctx)` on the context. -/
def cmacFinalOn (f : MacFunction EVP_MAX_BLOCK_LENGTH) : EStateM Error MacCtx (List UInt8) := do
  let ctx ← get
  MonadExcept.ofExcept (_CMAC_Final (lib.OpenSSLLib.cmacFinal f ctx))

/-- An HMAC session: `_HMAC_Init_ex` with the key and the digest, `_HMAC_Update`
with each chunk in turn, then `_HMAC_Final`. -/
def hmacSession (f : MacFunction EVP_MAX_MD_SIZE) (overread : HmacCtx → Int × HmacCtx)
    (key : List UInt8) (md : Nat) (chunks : List (List UInt8)) :
    EStateM Error HmacCtx (List UInt8) := do
  _HMAC_Init_ex key md
  chunks.forM (_HMAC_Update overread)
  hmacFinalOn f

/-- A CMAC session: `_CMAC_Init`, `_CMAC_Update` with each chunk, `_CMAC_Final`. -/
def cmacSession (f : MacFunction EVP_MAX_BLOCK_LENGTH) (keyLengthOk : Nat → Bool)
    (key : List UInt8) (chunks : List (List UInt8)) : EStateM Error MacCtx (List UInt8) := do
  _CMAC_Init keyLengthOk key
  chunks.forM _CMAC_Update
  cmacFinalOn f

end mococrw.openssl

namespace MoCOCrW.MacSession

open mococrw.openssl MoCOCrW.Bio MoCOCrW.Ownership

/-! ## The `int` lengths of the HMAC calls -/

/-- What HMAC sees of a buffer of `n` bytes: `n` modulo `2^32`. -/
def narrowed (bytes : List UInt8) : List UInt8 := bytes.take (bytes.length % 2 ^ 32)

/-- A size below `2^31` modulo `2^32` survives the round trip through `int` and
`size_t` as the size modulo `2^32`. -/
theorem sizeT_wrapSigned_32 (n : Nat) (h : n % 2 ^ 32 < 2 ^ 31) :
    0 ≤ wrapSigned 32 n ∧ (wrapSigned 32 n % 2 ^ 64).toNat = n % 2 ^ 32 := by
  rw [wrapSigned_32_natCast, if_pos (by omega)]
  omega

/-! ## One call -/

/-- `_HMAC_Init_ex` with a key: it installs what HMAC sees of the key when its
size fits an `int`, and throws with the context as it was otherwise. -/
theorem _HMAC_Init_ex_of_ne_nil (key : List UInt8) (hne : key ≠ []) (md : Nat) (ctx : HmacCtx) :
    _HMAC_Init_ex key md ctx =
      if key.length % 2 ^ 32 < 2 ^ 31 then .ok () ⟨some (md, narrowed key), []⟩
      else .error .openSSLException ctx := by
  have hlen := wrapSigned_32_natCast key.length
  split_ifs with h
  · have htoNat : (wrapSigned 32 key.length).toNat = key.length % 2 ^ 32 := by
      rw [hlen, if_pos (by omega)]; omega
    simp [_HMAC_Init_ex, callCheckedOn_eq, ReturnCheckPolicy.returnValueIsOk, vectorData, hne,
      lib.OpenSSLLib.SSL_HMAC_Init_ex, not_lt.mpr (sizeT_wrapSigned_32 key.length h).1, htoNat,
      narrowed]
  · have hneg : wrapSigned 32 key.length < 0 := by rw [hlen, if_neg (by omega)]; omega
    simp [_HMAC_Init_ex, callCheckedOn_eq, ReturnCheckPolicy.returnValueIsOk, vectorData, hne,
      lib.OpenSSLLib.SSL_HMAC_Init_ex, hneg]

/-- `_HMAC_Init_ex` with an empty key passes `nullptr`: it restarts under the
key the context has when the digest is the same, and throws otherwise. -/
theorem _HMAC_Init_ex_nil (md : Nat) (ctx : HmacCtx) :
    _HMAC_Init_ex [] md ctx =
      match ctx.keyed with
      | some (md', k) => if md' = md then .ok () ⟨some (md, k), []⟩ else .error .openSSLException ctx
      | none => .error .openSSLException ctx := by
  rcases ctx with ⟨_ | ⟨md', k⟩, absorbed⟩
  · simp [_HMAC_Init_ex, callCheckedOn_eq, vectorData, lib.OpenSSLLib.SSL_HMAC_Init_ex,
      ReturnCheckPolicy.returnValueIsOk]
  · by_cases h : md' = md <;>
      simp [_HMAC_Init_ex, callCheckedOn_eq, vectorData, lib.OpenSSLLib.SSL_HMAC_Init_ex,
        ReturnCheckPolicy.returnValueIsOk, h]

/-- `HMAC_Update` on a keyed context with the narrowed size of a chunk below
`2^31` bytes: it absorbs what HMAC sees of the chunk, within the buffer. -/
theorem SSL_HMAC_Update_of_fits (overread : HmacCtx → Int × HmacCtx) (ctx : HmacCtx)
    (data : List UInt8) (h : data.length % 2 ^ 32 < 2 ^ 31) {k : Nat × List UInt8}
    (hkey : ctx.keyed = some k) :
    lib.OpenSSLLib.SSL_HMAC_Update overread ctx data (wrapSigned 32 data.length) =
      (1, { ctx with absorbed := ctx.absorbed ++ narrowed data }) := by
  rw [lib.OpenSSLLib.SSL_HMAC_Update, hkey, (sizeT_wrapSigned_32 data.length h).2,
    if_neg (by simp), if_pos (Nat.mod_le _ _)]
  rfl

theorem _HMAC_Update_of_fits (overread : HmacCtx → Int × HmacCtx) (data : List UInt8)
    (h : data.length % 2 ^ 32 < 2 ^ 31) (ctx : HmacCtx) {k : Nat × List UInt8}
    (hkey : ctx.keyed = some k) :
    _HMAC_Update overread data ctx =
      .ok () { ctx with absorbed := ctx.absorbed ++ narrowed data } := by
  rw [_HMAC_Update, callCheckedOn_eq, SSL_HMAC_Update_of_fits overread ctx data h hkey]
  rfl

/-- `_CMAC_Init` completes the context with a non-empty key whose length the
cipher takes, and otherwise leaves it with no key: it throws for a refused
length, and returns for an empty key. -/
theorem _CMAC_Init_eq (keyLengthOk : Nat → Bool) (key : List UInt8) (ctx : MacCtx) :
    _CMAC_Init keyLengthOk key ctx =
      if key = [] then .ok () ⟨none, []⟩
      else if keyLengthOk key.length then .ok () ⟨some key, []⟩
      else .error .openSSLException ⟨none, []⟩ := by
  by_cases hk : key = [] <;> by_cases h : keyLengthOk key.length <;>
    simp [_CMAC_Init, callCheckedOn_eq, lib.OpenSSLLib.SSL_CMAC_Init, vectorData,
      ReturnCheckPolicy.returnValueIsOk, hk, h]

theorem _CMAC_Update_eq (data : List UInt8) (ctx : MacCtx) {k : List UInt8}
    (hkey : ctx.key = some k) :
    _CMAC_Update data ctx = .ok () { ctx with absorbed := ctx.absorbed ++ data } := by
  simp [_CMAC_Update, callCheckedOn_eq, lib.OpenSSLLib.SSL_CMAC_Update, hkey,
    ReturnCheckPolicy.returnValueIsOk]

/-! ## Sessions -/

/-- A stand-in MAC for the examples: the key and the message, cut to the bound. -/
def concatMac (bound : Nat) : MacFunction bound :=
  ⟨fun key msg => (key ++ msg).take bound, fun _ _ => List.length_take_le _ _⟩

theorem hmacFinalOn_eq (f : MacFunction EVP_MAX_MD_SIZE) (ctx : HmacCtx) {md : Nat}
    {k : List UInt8} (hkey : ctx.keyed = some (md, k)) :
    hmacFinalOn f ctx = .ok (f.mac k ctx.absorbed) ctx := by
  have hfin : lib.OpenSSLLib.hmacFinal f ctx = ⟨1, f.mac k ctx.absorbed⟩ := by
    simp [lib.OpenSSLLib.hmacFinal, hkey]
  simp only [hmacFinalOn, get_bind_apply, hfin,
    @_HMAC_Final_of_fits ⟨1, f.mac k ctx.absorbed⟩ rfl (f.length_le _ _), ofExcept_ok_apply]

theorem cmacFinalOn_eq (f : MacFunction EVP_MAX_BLOCK_LENGTH) (ctx : MacCtx) {k : List UInt8}
    (hkey : ctx.key = some k) : cmacFinalOn f ctx = .ok (f.mac k ctx.absorbed) ctx := by
  have hfin : lib.OpenSSLLib.cmacFinal f ctx = ⟨1, f.mac k ctx.absorbed⟩ := by
    simp [lib.OpenSSLLib.cmacFinal, hkey]
  simp only [cmacFinalOn, get_bind_apply, hfin,
    @_CMAC_Final_of_fits ⟨1, f.mac k ctx.absorbed⟩ rfl (f.length_le _ _), ofExcept_ok_apply]

/-- Chunk after chunk, each adds what HMAC sees of it. -/
theorem forM_HMAC_Update (overread : HmacCtx → Int × HmacCtx) (chunks : List (List UInt8))
    (hfit : ∀ d ∈ chunks, d.length % 2 ^ 32 < 2 ^ 31) (ctx : HmacCtx) {k : Nat × List UInt8}
    (hkey : ctx.keyed = some k) :
    chunks.forM (_HMAC_Update overread) ctx =
      .ok () { ctx with absorbed := ctx.absorbed ++ (chunks.map narrowed).flatten } := by
  induction chunks generalizing ctx with
  | nil => simp
  | cons d ds ih =>
    have hrest := ih (fun d hd => hfit d (List.mem_cons_of_mem _ hd))
      { ctx with absorbed := ctx.absorbed ++ narrowed d } hkey
    rw [List.forM_cons', bind_apply_of_ok (_HMAC_Update_of_fits overread d
      (hfit d (List.mem_cons_self _ _)) ctx hkey)]
    simp only [hrest, List.map_cons, List.flatten_cons, List.append_assoc]

/-- Chunk after chunk, each adds all its bytes. -/
theorem forM_CMAC_Update (chunks : List (List UInt8)) (ctx : MacCtx) {k : List UInt8}
    (hkey : ctx.key = some k) :
    chunks.forM _CMAC_Update ctx =
      .ok () { ctx with absorbed := ctx.absorbed ++ chunks.flatten } := by
  induction chunks generalizing ctx with
  | nil => simp
  | cons d ds ih =>
    rw [List.forM_cons', bind_apply_of_ok (_CMAC_Update_eq d ctx hkey)]
    simp only [ih { ctx with absorbed := ctx.absorbed ++ d } hkey, List.flatten_cons,
      List.append_assoc]

/-- Once `_HMAC_Init_ex` installed `k` under `md`, the session returns the HMAC
under `k` of what it absorbs of the chunks. -/
theorem hmacSession_of_init (f : MacFunction EVP_MAX_MD_SIZE) (overread : HmacCtx → Int × HmacCtx)
    (key : List UInt8) (md : Nat) (chunks : List (List UInt8))
    (hfit : ∀ d ∈ chunks, d.length % 2 ^ 32 < 2 ^ 31) (ctx : HmacCtx) {k : List UInt8}
    (hinit : _HMAC_Init_ex key md ctx = .ok () ⟨some (md, k), []⟩) :
    hmacSession f overread key md chunks ctx =
      .ok (f.mac k (chunks.map narrowed).flatten) ⟨some (md, k), (chunks.map narrowed).flatten⟩ := by
  rw [hmacSession, bind_apply_of_ok hinit,
    bind_apply_of_ok (forM_HMAC_Update overread chunks hfit _ rfl)]
  exact hmacFinalOn_eq f _ rfl

/-- A session whose `_HMAC_Init_ex` throws throws the same. -/
theorem hmacSession_of_init_error (f : MacFunction EVP_MAX_MD_SIZE)
    (overread : HmacCtx → Int × HmacCtx) (key : List UInt8) (md : Nat)
    (chunks : List (List UInt8)) (ctx : HmacCtx)
    (hinit : _HMAC_Init_ex key md ctx = .error .openSSLException ctx) :
    hmacSession f overread key md chunks ctx = .error .openSSLException ctx := by
  rw [hmacSession, bind_apply_of_error hinit]

/-- An empty key on a new context: `HMAC_Init_ex` refuses the null key. -/
example : hmacSession (concatMac EVP_MAX_MD_SIZE) (fun ctx => (0, ctx)) [] 7 [[2]] ⟨none, []⟩ =
    .error .openSSLException ⟨none, []⟩ := rfl

end MoCOCrW.MacSession
