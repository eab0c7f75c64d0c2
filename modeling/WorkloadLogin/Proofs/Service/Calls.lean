import WorkloadLogin.Proofs.Service.Balance

/-! # Logins, renewals and writes follow their custody

Each part of a call either leaves the stance of its task alone or moves it in one known way. The
calls are put together from these parts and end outside all locks.
-/
namespace WorkloadLogin.Service
variable {α β ε : Type} {q : Request} {φ : Custody} {Q : Except Error β → Custody → Prop}

/-! ## Actions that leave the stance alone -/

/-- The action goes through no move but those that change nothing. -/
def Steady (x : Action α) (φ : Custody) : Prop := Follows custody x.run φ fun _ ψ => ψ = φ

theorem steady_ask (hq : q.Neutral) : Steady (ask q) φ :=
  balanced_ask (P := custody) fun a => .neutral a hq

theorem steady_pure (a : α) : Steady (pure a) φ := rfl

theorem steady_throw (e : Error) : Steady (throw e : Action α) φ := rfl

theorem steady_orFail (failure : ε → Error) (r : Except ε α) : Steady (orFail failure r) φ :=
  balanced_orFail failure r

theorem Steady.bind_follows {x : Action α} {f : α → Action β} (hx : Steady x φ)
    (hok : ∀ a, Follows custody (f a).run φ Q) (herror : ∀ e, Q (.error e) φ) :
    Follows custody (x >>= f).run φ Q := Balanced.bind_follows hx hok herror

theorem Steady.bind {x : Action α} {f : α → Action β} (hx : Steady x φ)
    (hf : ∀ a, Steady (f a) φ) : Steady (x >>= f) φ := Balanced.bind hx hf

theorem Steady.tryCatch {x : Action α} {handler : Error → Action α} (hx : Steady x φ)
    (hh : ∀ e, Steady (handler e) φ) : Steady (tryCatch x handler) φ := Balanced.tryCatch hx hh

theorem steady_findRole (name : String) (absent : Error) : Steady (findRole name absent) φ :=
  balanced_findRole (P := custody) (fun _ a => .neutral a trivial) name absent

theorem steady_verify (config : Config) (request : LoginRequest) (signingTime : Instant)
    (now : Timestamp) : Steady (verify config request signingTime now) φ :=
  balanced_verify (P := custody) (fun a hq => .neutral a hq) config request signingTime now

/-- A client that the task has come by may be asked anything. -/
theorem steady_crossCheck {client : ClientId} (hcl : φ.client = some client) (role : Role)
    (identity : Identity) (connection : Option Connection) :
    Steady (crossCheck client role identity connection) φ :=
  balanced_crossCheck (P := custody) (fun kind guid r => .lookup kind guid r hcl) role identity
    connection

theorem steady_lookupNames {client : ClientId} (hcl : φ.client = some client)
    (identity : Identity) : Steady (lookupNames client identity) φ :=
  balanced_lookupNames (P := custody) (fun kind guid r => .lookup kind guid r hcl) identity

/-! ## Coming by a client -/

/-- The stance of a task that relies on a configuration, with the client it uses, if any. -/
def relying (config : Config) (client : Option ClientId) : Custody :=
  { config := .holding .shared, read := some config, client := client }

theorem follows_findConfig (need : ConfigNeed) {Q : Except Error Config → Custody → Prop}
    (hok : ∀ config, Q (.ok config) (relying config none))
    (herror : ∀ e, Q (.error e) { config := .holding .shared }) :
    Follows custody (findConfig need).run { config := .holding .shared } Q := by
  refine Follows.ask_bind fun r => ⟨_,.readConfig r rfl rfl,?_⟩
  cases r with
  | error e => exact herror _
  | ok config =>
    cases config with
    | none => exact herror _
    | some config => exact hok config

theorem follows_connect (config : Config) :
    Follows custody (connect config.platformSettings).run
      { relying config none with connect := .holding .exclusive } fun r ψ =>
        ψ = { relying config r.toOption with connect := .holding .exclusive } := by
  refine Follows.ask_bind fun _ => ⟨_,.startConnect rfl rfl,?_⟩
  refine Follows.ask_bind fun r => ⟨_,.awaitConnect r rfl,?_⟩
  cases r with
  | error e => rfl
  | ok client => exact Follows.ask_bind fun _ => ⟨_,.keep rfl,rfl⟩

theorem follows_getOrConnect (config : Config) (client : Option ClientId) :
    Follows custody (getOrConnect config.platformSettings).run (relying config client) fun r ψ =>
      ψ = relying config r.toOption := by
  refine Follows.ask_bind fun r => ⟨_,.cached r rfl,?_⟩
  cases r with
  | some client => rfl
  | none =>
    refine Follows.holding (.joinConnect .exclusive rfl) (.obtainConnect rfl) ?_
    refine Follows.ask_bind fun r => ⟨_,.cached r rfl,?_⟩
    cases r with
    | some client => exact ⟨_,.leaveConnect rfl,rfl⟩
    | none =>
      refine (follows_connect config).mono fun r ψ hψ => ?_
      subst hψ
      exact ⟨_,.leaveConnect rfl,rfl⟩

/-! ## The calls -/

/-- The task may let go of the configuration lock. -/
structure Leavable (φ : Custody) : Prop where
  config : ∃ access, φ.config = .holding access
  connect : φ.connect = .outside
  unreset : φ.unreset = false

theorem leavable_relying (config : Config) (client : Option ClientId) :
    Leavable (relying config client) := ⟨⟨_,rfl⟩,rfl,rfl⟩

/-- A body that ends where it may let go of the lock runs under it from outside to outside. -/
theorem follows_holding_config {access : Access} {body : Action α}
    (h : Follows custody body.run { config := .holding access } fun _ ψ => Leavable ψ) :
    Follows custody (holding .config access body).run {} fun _ ψ => ψ = {} := by
  refine Follows.holding (.joinConfig access rfl rfl) (.obtainConfig rfl) (h.mono fun r ψ hψ => ?_)
  obtain ⟨⟨access,hc⟩,hn,hu⟩ := hψ
  exact ⟨{},.leaveConfig hc hn hu,rfl⟩

/-- What follows on a client that was come by: it is used, and the stance stays. -/
theorem follows_client {config : Config} {f : ClientId → Action β}
    (hf : ∀ client, Steady (f client) (relying config (some client))) :
    Follows custody (getOrConnect config.platformSettings >>= f).run (relying config none)
      fun _ ψ => Leavable ψ := by
  refine Follows.bind_action ((follows_getOrConnect config none).mono fun r ψ hψ => ?_)
  subst hψ
  cases r with
  | ok client => exact (hf client).mono fun _ ψ hψ => hψ ▸ leavable_relying _ _
  | error e => exact leavable_relying _ _

theorem follows_login (request : LoginRequest) (connection : Option Connection) :
    Follows custody (login request connection).run {} fun _ ψ => ψ = {} := by
  refine (steady_ask (q := .now) trivial).bind_follows (fun now => ?_) fun _ => rfl
  refine (steady_orFail _ _).bind_follows (fun _ => ?_) fun _ => rfl
  refine (steady_findRole _ _).bind_follows (fun role => ?_) fun _ => rfl
  refine (steady_orFail _ _).bind_follows (fun _ => ?_) fun _ => rfl
  refine (steady_orFail _ _).bind_follows (fun signingTime => ?_) fun _ => rfl
  refine follows_holding_config (Follows.bind_action (follows_findConfig _ (fun config => ?_)
    fun _ => ⟨⟨_,rfl⟩,rfl,rfl⟩))
  refine (steady_orFail _ _).bind_follows (fun _ => ?_) fun _ => leavable_relying _ _
  refine (steady_verify _ _ _ _).bind_follows (fun identity => ?_) fun _ => leavable_relying _ _
  exact follows_client fun client => (steady_crossCheck rfl _ _ _).bind fun _ =>
    (steady_lookupNames rfl _).bind fun _ => steady_pure _

theorem follows_renew (credential : Credential) (connection : Option Connection) :
    Follows custody (renew credential connection).run {} fun _ ψ => ψ = {} := by
  refine follows_holding_config (Follows.bind_action (follows_findConfig _ (fun config => ?_)
    fun _ => ⟨⟨_,rfl⟩,rfl,rfl⟩))
  refine (steady_orFail _ _).bind_follows (fun renewal => ?_) fun _ => leavable_relying _ _
  refine (steady_findRole _ _).bind_follows (fun role => ?_) fun _ => leavable_relying _ _
  refine follows_client fun client => Steady.bind ?_ fun _ => steady_pure _
  exact (steady_crossCheck rfl _ _ _).tryCatch fun e =>
    (steady_ask (q := .taint client) trivial).bind fun _ => steady_throw e

theorem follows_forgetClient :
    Follows custody forgetClient.run { config := .holding .exclusive, unreset := true }
      fun _ ψ => ψ = { config := .holding .exclusive } := by
  refine Follows.holding (.joinConnect .exclusive rfl) (.obtainConnect rfl) ?_
  exact Follows.ask fun dropped => ⟨_,.forget dropped rfl rfl,_,.leaveConnect rfl,rfl⟩

theorem follows_writeConfig (config : Config) :
    Follows custody (writeConfig config).run {} fun _ ψ => ψ = {} := by
  unfold writeConfig
  cases config.gap? with
  | some gap => rfl
  | none =>
    refine follows_holding_config (Follows.ask_bind fun r => ⟨_,.storeConfig config r rfl,?_⟩)
    cases r with
    | error e => exact ⟨⟨_,rfl⟩,rfl,rfl⟩
    | ok _ =>
      refine Follows.orFail_bind (fun _ _ => ?_) nofun
      refine Follows.bind_action (follows_forgetClient.mono fun r ψ hψ => ?_)
      subst hψ
      cases r with
      | ok _ => exact ⟨⟨_,rfl⟩,rfl,rfl⟩
      | error e => exact ⟨⟨_,rfl⟩,rfl,rfl⟩

/-- The calls that share a configuration and a client. -/
inductive Call where
  | login (request : LoginRequest) (connection : Option Connection)
  | renew (credential : Credential) (connection : Option Connection)
  | writeConfig (config : Config)

inductive Reply where
  | credential (r : Except Error Credential)
  | written (r : Except Error Unit)

def Call.talk : Call → Talk Reply
  | login request connection => do return .credential (← (Service.login request connection).run)
  | renew credential connection => do
    return .credential (← (Service.renew credential connection).run)
  | writeConfig config => do return .written (← (Service.writeConfig config).run)

theorem follows_call (call : Call) : Follows custody call.talk {} fun _ ψ => ψ = {} := by
  cases call with
  | login request connection => exact Follows.bind (follows_login request connection)
  | renew credential connection => exact Follows.bind (follows_renew credential connection)
  | writeConfig config => exact Follows.bind (follows_writeConfig config)

end WorkloadLogin.Service
