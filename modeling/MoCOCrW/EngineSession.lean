/-
The engine-session protocol, and that the `HsmEngine` of `HsmEngine.lean` keeps
it over whole sessions.

A session is one engine handle through its life: load by id; configure
`MODULE_PATH` and then `PIN`, each a non-optional command; start; any number of
key loads; finish; release. A construction step that fails ends the
construction, and the handle already loaded is still released; a handle that
was never loaded is never released. `Phase.next` is that protocol as an
automaton over the recorded calls, answers included.

`Follows cfg x p q r` is a triple over the model: from whatever calls came
before, the calls `x` makes take the protocol from phase `p` to `q a` when `x`
returns `a`, and to `r` when it throws. There is one rule per way the model
composes code (`Follows.bind`, `Follows.pure`, `follows_releaseOnThrow`,
`follows_mapM`) and one per checked native call, so each operation's lemma is
its code read once, and the session theorem is assembled from those. The
resource law, that a complete run releases exactly the handles it acquired,
is a fact of the automaton alone (`run_releases_balance`), proved by induction
over the run from a one-step balance.
-/
import MoCOCrW.HsmEngine

set_option autoImplicit false

namespace MoCOCrW.EngineSession

open mococrw.openssl

/-! ## The protocol -/

/-- The strings a session is opened with. -/
structure EngineConfig where
  id : String
  modulePath : String
  pin : String

/-- The phases of a session. `failed e` is a construction that threw after `e`
was loaded: it still owes the release of `e`. -/
inductive Phase where
  | uninitialized
  | loaded (e : ENGINE)
  | modulePathSet (e : ENGINE)
  | pinSet (e : ENGINE)
  | ready (e : ENGINE)
  | failed (e : ENGINE)
  | finished (e : ENGINE)
  | terminated
  deriving DecidableEq, Repr

/-- One step of the protocol: the phase a call with its answer leads to, or
`none` when the session may not make that call there. Each construction step
must return its success value to go on; a key load and the finish may return
anything. -/
def Phase.next (cfg : EngineConfig) : Phase → EngineEvent → Option Phase
  | .uninitialized, ⟨.byId id, rv⟩ =>
    if id = cfg.id then some (if rv = 0 then .terminated else .loaded ⟨rv⟩) else none
  | .loaded e, ⟨.ctrlCmdString e' name arg opt, rv⟩ =>
    if e' = e ∧ name = "MODULE_PATH" ∧ arg = cfg.modulePath ∧ opt = 0 then
      some (if rv = 1 then .modulePathSet e else .failed e)
    else none
  | .modulePathSet e, ⟨.ctrlCmdString e' name arg opt, rv⟩ =>
    if e' = e ∧ name = "PIN" ∧ arg = cfg.pin ∧ opt = 0 then
      some (if rv = 1 then .pinSet e else .failed e)
    else none
  | .pinSet e, ⟨.init e', rv⟩ =>
    if e' = e then some (if rv = 1 then .ready e else .failed e) else none
  | .ready e, ⟨.loadPublicKey e' _, _⟩ => if e' = e then some (.ready e) else none
  | .ready e, ⟨.loadPrivateKey e' _, _⟩ => if e' = e then some (.ready e) else none
  | .ready e, ⟨.finish e', _⟩ => if e' = e then some (.finished e) else none
  | .failed e, ⟨.free e', _⟩ => if e' = e then some .terminated else none
  | .finished e, ⟨.free e', _⟩ => if e' = e then some .terminated else none
  | _, _ => none

/-- The protocol run over a list of recorded calls. -/
def Phase.run (cfg : EngineConfig) (p : Phase) (events : List EngineEvent) : Option Phase :=
  events.foldlM (Phase.next cfg) p

variable {cfg : EngineConfig}

@[simp] theorem Phase.run_nil (p : Phase) : Phase.run cfg p [] = some p := rfl

theorem Phase.run_append (p : Phase) (u v : List EngineEvent) :
    Phase.run cfg p (u ++ v) = (Phase.run cfg p u).bind (fun q => Phase.run cfg q v) := by
  simp only [Phase.run, List.foldlM_append]
  rfl

theorem Phase.run_cons (p : Phase) (ev : EngineEvent) (u : List EngineEvent) :
    Phase.run cfg p (ev :: u) = (Phase.next cfg p ev).bind (fun q => Phase.run cfg q u) := rfl

theorem Phase.run_singleton (p : Phase) (ev : EngineEvent) :
    Phase.run cfg p [ev] = Phase.next cfg p ev := by
  rw [Phase.run_cons]
  cases Phase.next cfg p ev <;> rfl

/-! ## The protocol keeps what it acquires and releases in balance -/

/-- The engine a phase holds and still has to release. -/
def Phase.held : Phase → Option ENGINE
  | .uninitialized => none
  | .loaded e => some e
  | .modulePathSet e => some e
  | .pinSet e => some e
  | .ready e => some e
  | .failed e => some e
  | .finished e => some e
  | .terminated => none

/-- The call hands out the engine `e`. -/
def acquires (e : ENGINE) : EngineEvent → Bool
  | ⟨.byId _, rv⟩ => rv ≠ 0 && rv = e.addr
  | _ => false

/-- The call releases the engine `e`. -/
def releases (e : ENGINE) : EngineEvent → Bool
  | ⟨.free e', _⟩ => e' = e
  | _ => false

/-- One step: a call that releases `e` ends holding it, one that acquires `e`
starts holding it, and every other call leaves what is held alone. -/
theorem next_balance {p q : Phase} {ev : EngineEvent} (h : Phase.next cfg p ev = some q)
    (e : ENGINE) :
    (if releases e ev then 1 else 0) + (if q.held = some e then 1 else 0) =
      (if acquires e ev then 1 else 0) + (if p.held = some e then 1 else 0) := by
  obtain ⟨a⟩ := e
  unfold Phase.next at h
  split at h
  case h_10 => cases h
  all_goals
    -- the guard and the next phase; the steps that neither load nor release
    -- keep what is held, whatever they answered
    obtain ⟨hguard, hq⟩ := Option.ite_none_right_eq_some.mp h
    obtain rfl := Option.some.inj hq
    simp only [apply_ite Phase.held, releases, acquires] <;> simp only [Phase.held, ite_self]
  · -- the load by id: `e` is held from here on exactly when the load returned it
    split <;> simp_all
  all_goals
    -- a release of the engine the phase held
    subst hguard
    simp

/-- Over a run: the releases of `e` and a hold of `e` at the end balance the
acquisitions of `e` and a hold of `e` at the start. -/
theorem run_balance {p q : Phase} {u : List EngineEvent} (h : Phase.run cfg p u = some q)
    (e : ENGINE) :
    u.countP (releases e) + (if q.held = some e then 1 else 0) =
      u.countP (acquires e) + (if p.held = some e then 1 else 0) := by
  induction u generalizing p with
  | nil => cases h; simp
  | cons ev u ih =>
    obtain ⟨p', hnext, hrun⟩ := Option.bind_eq_some.mp (Phase.run_cons p ev u ▸ h)
    have hstep := next_balance hnext e
    have hrest := ih hrun
    simp only [List.countP_cons]
    omega

/-- **A complete session releases exactly the engines it acquired**: a run of
the protocol from the start to its end releases each engine as many times as a
load by id handed it out, that is once if it was loaded and never otherwise. -/
theorem run_releases_balance {u : List EngineEvent}
    (h : Phase.run cfg .uninitialized u = some .terminated) (e : ENGINE) :
    u.countP (releases e) = u.countP (acquires e) := by
  simpa [Phase.held] using run_balance h e

/-! ## Triples over the model -/

/-- `calls'` is `calls` followed by calls that take the protocol from `p` to `q`. -/
def Extends (cfg : EngineConfig) (calls : List EngineEvent) (p : Phase)
    (calls' : List EngineEvent) (q : Phase) : Prop :=
  ∃ u, calls' = calls ++ u ∧ Phase.run cfg p u = some q

theorem Extends.refl (calls : List EngineEvent) (p : Phase) : Extends cfg calls p calls p :=
  ⟨[], (List.append_nil calls).symm, rfl⟩

theorem Extends.trans {calls calls' calls'' : List EngineEvent} {p q q' : Phase}
    (h₁ : Extends cfg calls p calls' q) (h₂ : Extends cfg calls' q calls'' q') :
    Extends cfg calls p calls'' q' := by
  obtain ⟨u, rfl, hu⟩ := h₁
  obtain ⟨v, rfl, hv⟩ := h₂
  exact ⟨u ++ v, List.append_assoc calls u v, by rw [Phase.run_append, hu]; exact hv⟩

/-- What `Follows` asks of one outcome. -/
def Reaches {α : Type} (cfg : EngineConfig) (calls : List EngineEvent) (p : Phase)
    (q : α → Phase) (r : Phase) : EStateM.Result Error (List EngineEvent) α → Prop
  | .ok a calls' => Extends cfg calls p calls' (q a)
  | .error _ calls' => Extends cfg calls p calls' r

/-- `Follows cfg x p q r`: from any calls made before, the calls `x` makes take
the protocol from `p` to `q a` when `x` returns `a`, and to `r` when it throws. -/
def Follows {α : Type} (cfg : EngineConfig) (x : Native α) (p : Phase) (q : α → Phase)
    (r : Phase) : Prop :=
  ∀ calls, Reaches cfg calls p q r (x calls)

/-- The calls recorded when an operation returns or throws. -/
def callsOf {α : Type} : EStateM.Result Error (List EngineEvent) α → List EngineEvent
  | .ok _ calls' => calls'
  | .error _ calls' => calls'

theorem Reaches.callsOf {α : Type} {calls : List EngineEvent} {p q : Phase}
    {res : EStateM.Result Error (List EngineEvent) α} (h : Reaches cfg calls p (fun _ => q) q res) :
    Extends cfg calls p (callsOf res) q := by
  cases res <;> exact h

theorem Reaches.trans {α : Type} {calls calls' : List EngineEvent} {p p' r : Phase}
    {q : α → Phase} {res : EStateM.Result Error (List EngineEvent) α}
    (h₁ : Extends cfg calls p calls' p') (h₂ : Reaches cfg calls' p' q r res) :
    Reaches cfg calls p q r res := by
  cases res with
  | ok a calls'' => exact h₁.trans h₂
  | error err calls'' => exact h₁.trans h₂

section Rules

variable {α β : Type} {p r : Phase}

theorem Follows.pure (a : α) (q : α → Phase) : Follows cfg (Pure.pure a) (q a) q r :=
  fun calls => Extends.refl calls (q a)

theorem Follows.bind {x : Native α} {k : α → Native β} {q : α → Phase} {q' : β → Phase}
    (hx : Follows cfg x p q r) (hk : ∀ a, Follows cfg (k a) (q a) q' r) :
    Follows cfg (x >>= k) p q' r := by
  intro calls
  have h := hx calls
  simp only [Bind.bind, EStateM.bind]
  cases hxc : x calls with
  | ok a calls' => rw [hxc] at h; exact Reaches.trans h (hk a calls')
  | error err calls' => rw [hxc] at h; exact h

/-- Unwinding through a holder: a throw of the body continues as the deleter's calls. -/
theorem follows_releaseOnThrow {release : Native β} {body : Native α} {q : α → Phase}
    (r₁ : Phase) (hbody : Follows cfg body p q r₁) (hrelease : Follows cfg release r₁ (fun _ => r) r) :
    Follows cfg (releaseOnThrow release body) p q r := by
  intro calls
  have h := hbody calls
  unfold releaseOnThrow
  cases hb : body calls with
  | ok a calls' => rw [hb] at h; exact h
  | error err calls' =>
    rw [hb] at h
    have hr := hrelease calls'
    dsimp only
    cases hrc : release calls' with
    | ok b calls'' => rw [hrc] at hr; exact Extends.trans h hr
    | error err' calls'' => rw [hrc] at hr; exact Extends.trans h hr

/-- A loop of operations that each return to `p`, also when they throw. -/
theorem follows_mapM {γ : Type} (f : γ → Native α) (xs : List γ)
    (hf : ∀ x, Follows cfg (f x) p (fun _ => p) p) :
    Follows cfg (xs.mapM f) p (fun _ => p) p := by
  induction xs with
  | nil => exact Follows.pure [] (fun _ => p)
  | cons x xs ih =>
    rw [List.mapM_cons]
    exact (hf x).bind fun a => ih.bind fun as => Follows.pure (a :: as) (fun _ => p)

/-- A native call whose every answer the protocol accepts. -/
theorem follows_nativeCall (api : EngineApi) (c : EngineCall) {q : Int → Phase}
    (h : ∀ rv, Phase.next cfg p ⟨c, rv⟩ = some (q rv)) :
    Follows cfg (nativeCall api c) p q r :=
  fun calls => ⟨[_], rfl, by rw [Phase.run_singleton]; exact h _⟩

/-- A call checked against `1`: the protocol goes on to `q` on `1`, to `r` otherwise. -/
theorem follows_callCheckedIsOne (api : EngineApi) (c : EngineCall) (q : Phase)
    (h : ∀ rv, Phase.next cfg p ⟨c, rv⟩ = some (if rv = 1 then q else r)) :
    Follows cfg (callCheckedIsOne (nativeCall api c)) p (fun _ => q) r := by
  refine (follows_nativeCall api c h).bind fun rv calls => ?_
  by_cases hrv : rv = 1
  · subst hrv
    exact Extends.refl calls q
  · have hcheck : callChecked .isOne rv = .error .openSSLException :=
      callChecked_of_not_ok (by simp [ReturnCheckPolicy.returnValueIsOk, hrv])
    simp only [OpensslCallIsOne.callChecked_eq, hcheck, ofExcept_error_apply, if_neg hrv]
    exact Extends.refl calls r

/-- A wrapper that makes one call checked against `1` and returns nothing. -/
theorem follows_checkedIsOne_unit (api : EngineApi) (c : EngineCall) (q : Phase)
    (h : ∀ rv, Phase.next cfg p ⟨c, rv⟩ = some (if rv = 1 then q else r)) :
    Follows cfg (do let _ ← callCheckedIsOne (nativeCall api c)) p (fun _ => q) r :=
  (follows_callCheckedIsOne api c q h).bind fun _ => Follows.pure () (fun _ => q)

/-- A call whose pointer is checked: the protocol goes on to `q` of the handle,
and to `r` on `nullptr`. -/
theorem follows_callCheckedPtr {γ : Type} (api : EngineApi) (c : EngineCall) (mk : Int → γ)
    {q : γ → Phase} (h : ∀ rv, Phase.next cfg p ⟨c, rv⟩ = some ((ptrOf mk rv).elim r q)) :
    Follows cfg (callCheckedPtr (do let rv ← nativeCall api c; return ptrOf mk rv)) p q r := by
  refine ((follows_nativeCall api c h).bind fun rv =>
    Follows.pure (ptrOf mk rv) (fun o => o.elim r q)).bind fun o calls => ?_
  cases o with
  | none => exact Extends.refl calls r
  | some a => exact Extends.refl calls (q a)

end Rules

/-! ## The operations of `HsmEngine` -/

section Operations

variable (api : EngineApi)

theorem new_follows :
    Follows cfg (HsmEngine.new api cfg.id cfg.modulePath cfg.pin) .uninitialized
      (fun hsm => .ready hsm._engine) .terminated := by
  have hload : ∀ rv, Phase.next cfg .uninitialized ⟨.byId cfg.id, rv⟩ =
      some ((ptrOf ENGINE.mk rv).elim .terminated .loaded) := by
    intro rv
    simp only [Phase.next, ptrOf, if_true]
    split <;> rfl
  refine (follows_callCheckedPtr api _ ENGINE.mk hload).bind fun e => ?_
  refine follows_releaseOnThrow (.failed e) ?_
    (follows_nativeCall api (.free e) fun rv => by simp [Phase.next])
  exact (follows_checkedIsOne_unit api _ (.modulePathSet e) fun rv => by simp [Phase.next]).bind
    fun _ => (follows_checkedIsOne_unit api _ (.pinSet e) fun rv => by simp [Phase.next]).bind
    fun _ => (follows_checkedIsOne_unit api _ (.ready e) fun rv => by simp [Phase.next]).bind
    fun _ => Follows.pure _ (fun hsm : HsmEngine => .ready hsm._engine)

theorem load_follows (hsm : HsmEngine) (request : KeyRequest) :
    Follows cfg (request.load api hsm) (.ready hsm._engine) (fun _ => .ready hsm._engine)
      (.ready hsm._engine) := by
  cases request <;>
    exact follows_callCheckedPtr api _ EVP_PKEY.mk fun rv => by
      simp only [Phase.next, if_true]
      cases ptrOf EVP_PKEY.mk rv <;> rfl

theorem destroy_follows (hsm : HsmEngine) :
    Follows cfg (hsm.destroy api) (.ready hsm._engine) (fun _ => .terminated) .terminated :=
  (follows_releaseOnThrow (.finished hsm._engine)
      (follows_checkedIsOne_unit api _ (.finished hsm._engine) fun rv => by simp [Phase.next])
      (follows_nativeCall api (.free hsm._engine) fun rv => by simp [Phase.next])).bind fun _ =>
    (follows_nativeCall api (.free hsm._engine) fun rv => by simp [Phase.next]).bind fun _ =>
    Follows.pure () (fun _ => .terminated)

theorem withHsmEngine_follows (requests : List KeyRequest) :
    Follows cfg (withHsmEngine api cfg.id cfg.modulePath cfg.pin requests) .uninitialized
      (fun _ => .terminated) .terminated :=
  (new_follows api).bind fun hsm =>
    (follows_releaseOnThrow (.ready hsm._engine) (follows_mapM _ requests (load_follows api hsm))
      (destroy_follows api hsm)).bind fun keys =>
    (destroy_follows api hsm).bind fun _ => Follows.pure keys (fun _ => .terminated)

end Operations

/-- **Every session keeps the engine protocol.** Whatever the library answers
and whichever keys are asked for, the calls that a scope owning an `HsmEngine`
makes, whether it returns or throws, are a complete run of the session
protocol: load by id, then `MODULE_PATH`, `PIN` and init on the loaded handle,
stopping at the first that fails; key loads and the finish only on a started
session; and every engine handed out released exactly once, as the last call. -/
theorem withHsmEngine_follows_protocol (api : EngineApi) (cfg : EngineConfig)
    (requests : List KeyRequest) (calls : List EngineEvent) :
    ∃ u, callsOf (withHsmEngine api cfg.id cfg.modulePath cfg.pin requests calls) = calls ++ u ∧
      Phase.run cfg .uninitialized u = some .terminated ∧
      ∀ e, u.countP (releases e) = u.countP (acquires e) := by
  obtain ⟨u, hcalls, hrun⟩ := (withHsmEngine_follows api requests calls).callsOf
  exact ⟨u, hcalls, hrun, run_releases_balance hrun⟩

/-- The scenario of `testHSMEngine` (`tests/unit/test_hsm.cpp`): every call
succeeds, and the session makes exactly the calls the test expects. -/
example :
    withHsmEngine ⟨fun _ c => match c with | .byId _ => 42 | _ => 1⟩
      "engine_id" "/test_path.so" "1234" [] [] =
    .ok [] [⟨.byId "engine_id", 42⟩, ⟨.ctrlCmdString ⟨42⟩ "MODULE_PATH" "/test_path.so" 0, 1⟩,
      ⟨.ctrlCmdString ⟨42⟩ "PIN" "1234" 0, 1⟩, ⟨.init ⟨42⟩, 1⟩, ⟨.finish ⟨42⟩, 1⟩,
      ⟨.free ⟨42⟩, 1⟩] := rfl

end MoCOCrW.EngineSession
