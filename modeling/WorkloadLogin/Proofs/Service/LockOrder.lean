import WorkloadLogin.Proofs.Service.Calls

/-! # The order in which calls take the locks

A call takes the configuration lock first, and only under it the connection lock; it gives them up
in the opposite order. So it stands on one of five rungs of a ladder, and every call that goes up
comes down again before it returns, on success and on every error.
-/
namespace WorkloadLogin.Service
variable {α : Type} {q : Request} {a : q.Answer} {access : Access}

/-- Requests that no lock has to do with. -/
def Request.LockFree : Request → Prop
  | .join _ _ | .obtain _ | .leave _ => False
  | _ => True

theorem Request.Neutral.lockFree (h : q.Neutral) : q.LockFree := by
  cases q <;> first | exact h | trivial

/-- How far a call has come with the two locks, and the access that it has to the first. -/
inductive Rung where
  | outside
  | atConfig (access : Access)
  | inConfig (access : Access)
  | atConnect (access : Access)
  | inConnect (access : Access)
  deriving DecidableEq

namespace Rung

def place : Rung → Lock → Place
  | outside, _ => .outside
  | atConfig access, .config => .waiting access
  | atConfig _, .connect => .outside
  | inConfig access, .config => .holding access
  | inConfig _, .connect => .outside
  | atConnect access, .config => .holding access
  | atConnect _, .connect => .waiting .exclusive
  | inConnect access, .config => .holding access
  | inConnect _, .connect => .holding .exclusive

inductive Moves : Rung → (q : Request) → q.Answer → Rung → Prop
  | joinConfig (access : Access) : Moves outside (.join .config access) () (atConfig access)
  | obtainConfig (access : Access) : Moves (atConfig access) (.obtain .config) () (inConfig access)
  | leaveConfig (access : Access) : Moves (inConfig access) (.leave .config) () outside
  | joinConnect (access : Access) :
      Moves (inConfig access) (.join .connect .exclusive) () (atConnect access)
  | obtainConnect (access : Access) :
      Moves (atConnect access) (.obtain .connect) () (inConnect access)
  | leaveConnect (access : Access) :
      Moves (inConnect access) (.leave .connect) () (inConfig access)
  | lockFree {φ : Rung} {q : Request} (a : q.Answer) (hq : q.LockFree) : Moves φ q a φ

theorem place_eq_update_config {φ ψ : Rung} (h : ψ.place .connect = φ.place .connect) :
    ψ.place = Function.update φ.place .config (ψ.place .config) := by
  funext lock
  cases lock <;> simp [h]

theorem place_eq_update_connect {φ ψ : Rung} (h : ψ.place .config = φ.place .config) :
    ψ.place = Function.update φ.place .connect (ψ.place .connect) := by
  funext lock
  cases lock <;> simp [h]

theorem Moves.relocates {φ ψ : Rung} (h : Moves φ q a ψ) : q.Relocates φ.place ψ.place := by
  cases h with
  | joinConfig access => exact ⟨rfl,place_eq_update_config rfl⟩
  | obtainConfig access => exact ⟨_,rfl,place_eq_update_config rfl⟩
  | leaveConfig access => exact ⟨⟨_,rfl⟩,place_eq_update_config rfl⟩
  | joinConnect access => exact ⟨rfl,place_eq_update_connect rfl⟩
  | obtainConnect access => exact ⟨_,rfl,place_eq_update_connect rfl⟩
  | leaveConnect access => exact ⟨⟨_,rfl⟩,place_eq_update_connect rfl⟩
  | lockFree a hq => cases q <;> first | rfl | exact hq.elim

end Rung

def ladder : Protocol where
  Stance := Rung
  place := Rung.place
  Moves := Rung.Moves
  relocates := Rung.Moves.relocates

/-! ## Calls go up and down the ladder -/

variable {φ : Rung} {x body : Action α}

theorem balanced_lockFree (hq : q.LockFree) : Balanced ladder (ask q) φ :=
  balanced_ask fun a => .lockFree a hq

/-- A body under the connection lock goes up by a rung and down again. -/
theorem balanced_holding_connect (h : Balanced ladder body (.inConnect access)) :
    Balanced ladder (holding .connect .exclusive body) (.inConfig access) := by
  refine Follows.holding (.joinConnect access) (.obtainConnect access) (h.mono fun r ψ hψ => ?_)
  subst hψ
  exact ⟨_,.leaveConnect access,rfl⟩

theorem balanced_holding_config (h : Balanced ladder body (.inConfig access)) :
    Balanced ladder (holding .config access body) .outside := by
  refine Follows.holding (.joinConfig access) (.obtainConfig access) (h.mono fun r ψ hψ => ?_)
  subst hψ
  exact ⟨_,.leaveConfig access,rfl⟩

theorem balanced_findRole_ladder (name : String) (absent : Error) :
    Balanced ladder (findRole name absent) φ :=
  balanced_findRole (P := ladder) (fun _ a => .lockFree a trivial) name absent

theorem balanced_findConfig_ladder (need : ConfigNeed) : Balanced ladder (findConfig need) φ := by
  refine (balanced_lockFree (q := .readConfig) trivial).orFail fun r => ?_
  cases r with
  | none => exact balanced_throw _
  | some config => exact balanced_pure _

theorem balanced_crossCheck_ladder (client : ClientId) (role : Role) (identity : Identity)
    (connection : Option Connection) :
    Balanced ladder (crossCheck client role identity connection) φ :=
  balanced_crossCheck (P := ladder) (fun _ _ r => .lockFree r trivial) role identity connection

theorem balanced_connect (settings : Platform.Settings) :
    Balanced ladder (connect settings) φ := by
  have hstart : Balanced ladder (ask (.startConnect settings)) φ := balanced_lockFree trivial
  have hawait : Balanced ladder (ask .awaitConnect) φ := balanced_lockFree trivial
  refine hstart.bind fun _ => hawait.orFail fun client => ?_
  have hkeep : Balanced ladder (ask (.keep client)) φ := balanced_lockFree trivial
  exact hkeep.bind fun _ => balanced_pure client

theorem balanced_getOrConnect (settings : Platform.Settings) :
    Balanced ladder (getOrConnect settings) (.inConfig access) := by
  have hcached : ∀ φ : Rung, Balanced ladder (ask .cached) φ := fun _ => balanced_lockFree trivial
  refine (hcached _).bind fun found => ?_
  cases found with
  | some client => exact balanced_pure client
  | none =>
    refine balanced_holding_connect ((hcached _).bind fun found => ?_)
    cases found with
    | some client => exact balanced_pure client
    | none => exact balanced_connect settings

theorem balanced_login (request : LoginRequest) (connection : Option Connection) :
    Balanced ladder (login request connection) .outside := by
  have hnow : Balanced ladder (ask .now) Rung.outside := balanced_lockFree trivial
  refine hnow.bind fun now => ?_
  refine (balanced_orFail _ _).bind fun _ => ?_
  refine (balanced_findRole_ladder _ _).bind fun role => ?_
  refine (balanced_orFail _ _).bind fun _ => ?_
  refine (balanced_orFail _ _).bind fun signingTime => ?_
  refine balanced_holding_config ((balanced_findConfig_ladder _).bind fun config => ?_)
  refine (balanced_orFail _ _).bind fun _ => ?_
  have hverify : Balanced ladder (verify config request signingTime now) (.inConfig .shared) :=
    balanced_verify (P := ladder) (fun a hq => .lockFree a hq.lockFree) _ _ _ _
  refine hverify.bind fun identity => ?_
  refine (balanced_getOrConnect _).bind fun client => ?_
  refine (balanced_crossCheck_ladder client role identity connection).bind fun _ => ?_
  have hnames : Balanced ladder (lookupNames client identity) (.inConfig .shared) :=
    balanced_lookupNames (P := ladder) (fun _ _ r => .lockFree r trivial) identity
  exact hnames.bind fun _ => balanced_pure _

theorem balanced_renew (credential : Credential) (connection : Option Connection) :
    Balanced ladder (renew credential connection) .outside := by
  refine balanced_holding_config ((balanced_findConfig_ladder _).bind fun config => ?_)
  refine (balanced_orFail _ _).bind fun renewal => ?_
  refine (balanced_findRole_ladder _ _).bind fun role => ?_
  refine (balanced_getOrConnect _).bind fun client => ?_
  have htaint : Balanced ladder (ask (.taint client)) (.inConfig .shared) :=
    balanced_lockFree trivial
  have hcheck := (balanced_crossCheck_ladder (φ := .inConfig .shared) client role renewal.identity
    connection).tryCatch fun e => htaint.bind fun _ => balanced_throw (α := Unit) e
  exact hcheck.bind fun _ => balanced_pure _

theorem balanced_writeConfig (config : Config) :
    Balanced ladder (writeConfig config) .outside := by
  unfold writeConfig
  cases config.gap? with
  | some gap => exact balanced_throw _
  | none =>
    have hstore : Balanced ladder (ask (.storeConfig config)) (.inConfig .exclusive) :=
      balanced_lockFree trivial
    have hforget : Balanced ladder forgetClient (.inConfig .exclusive) :=
      balanced_holding_connect (balanced_lockFree (q := .forget) trivial)
    exact balanced_holding_config (hstore.orFail fun _ => hforget.bind fun _ => balanced_pure ())

theorem follows_call_ladder (call : Call) :
    Follows ladder call.talk .outside fun _ ψ => ψ = .outside := by
  cases call with
  | login request connection => exact Follows.bind (balanced_login request connection)
  | renew credential connection => exact Follows.bind (balanced_renew credential connection)
  | writeConfig config => exact Follows.bind (balanced_writeConfig config)

end WorkloadLogin.Service
