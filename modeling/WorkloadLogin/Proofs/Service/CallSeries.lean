import WorkloadLogin.Proofs.Service.Agreement
import WorkloadLogin.Proofs.Service.ConfigWrites

/-! # Tasks that go on calling

A task may make any number of calls, each in the light of the replies before it, while other tasks
do the same. However their requests cross each other, what is stored at any time is what was stored
last, it lacks nothing, and every connection attempt is made with its settings.
-/
namespace WorkloadLogin.Service
variable {σ ρ : Type} {w : World σ} {task : TaskId} {q : Request} {a : q.Answer} {x : Talk ρ}
  {talk : TaskId → Option (Talk ρ)} {store : Store} {world : σ} {p : Pool σ ρ}
  {initial : Option Config} {trace : List Event}

/-- A task that makes calls one after another. -/
inductive CallSeries {ρ : Type} : Talk ρ → Prop
  | done (r : ρ) : CallSeries (pure r)
  | call (call : Call) {next : Reply → Talk ρ} (h : ∀ r, CallSeries (next r)) :
      CallSeries (call.talk >>= next)
  | resolveRole (name : String) {next : Except Error String → Talk ρ}
      (h : ∀ r, CallSeries (next r)) : CallSeries ((resolveRole name).run >>= next)

theorem steady_resolveRole (name : String) (φ : Custody) : Steady (resolveRole name) φ := by
  unfold resolveRole
  split
  · exact steady_throw _
  · exact (steady_findRole _ _).bind fun _ => steady_pure _

/-- Between two calls a task holds nothing. -/
theorem CallSeries.follows (h : CallSeries x) :
    Follows custody x ({} : Custody) fun _ ψ => ψ = ({} : Custody) := by
  induction h with
  | done r => rfl
  | call call _ ih =>
    refine Follows.bind ((follows_call call).mono fun r ψ hψ => ?_)
    subst hψ
    exact ih r
  | resolveRole name _ ih =>
    refine Follows.bind ((steady_resolveRole name _).mono fun r ψ hψ => ?_)
    subst hψ
    exact ih r

theorem asks_call (call : Call) : Asks Request.StoresComplete call.talk := by
  have hstoreless : ∀ {α : Type} {x : Talk α}, Asks Request.Storeless x →
      Asks Request.StoresComplete x := fun hx => hx.mono fun _ => Request.Storeless.storesComplete
  cases call with
  | login request connection => exact (hstoreless (asks_login ..)).bind fun _ => trivial
  | renew credential connection => exact (hstoreless (asks_renew ..)).bind fun _ => trivial
  | writeConfig config => exact (asks_writeConfig config).bind fun _ => trivial

theorem CallSeries.asks (h : CallSeries x) : Asks Request.StoresComplete x := by
  induction h with
  | done r => trivial
  | call call _ ih => exact (asks_call call).bind ih
  | resolveRole name _ ih =>
    exact ((asks_resolveRole name).mono fun _ => Request.Storeless.storesComplete).bind ih

/-! ## What is stored -/

/-- The configuration that was stored last, or the one at first if none was. -/
def lastStored (initial : Option Config) : List Event → Option Config
  | [] => initial
  | ⟨_,.storeConfig config,.ok _⟩ :: _ => some config
  | _ :: rest => lastStored initial rest

theorem lastStored_cons :
    lastStored initial (⟨task,q,a⟩ :: trace) = q.configAfter a (lastStored initial trace) := by
  cases q with
  | storeConfig config => cases a <;> rfl
  | _ => rfl

theorem sound_lastStored (hinitial : Sound initial)
    (htrace : ∀ e ∈ trace, e.request.StoresComplete) : Sound (lastStored initial trace) := by
  induction trace with
  | nil => exact hinitial
  | cons e rest ih =>
    obtain ⟨hfirst,hrest⟩ := List.forall_mem_cons.mp htrace
    obtain ⟨task,q,a⟩ := e
    rw [lastStored_cons]
    cases q with
    | storeConfig config =>
      cases a with
      | error text => exact ih hrest
      | ok _ => exact sound_some (gap?_eq_none_iff.mp hfirst)
    | _ => exact ih hrest

theorem config_of_reachable (hr : Pool.Reachable w (Pool.start talk store world) p) :
    p.state.store.config = lastStored store.config p.trace := by
  induction hr with
  | refl => rfl
  | tail _ hstep ih =>
    cases hstep with
    | surroundings roles world => exact ih
    | answer ht ha =>
      rw [Pool.answered,lastStored_cons,← ih]
      exact (effect_of_answer ha).config

/-! ## What clients are connected with -/

theorem exists_agreement_of_series (htalk : ∀ task x, talk task = some x → CallSeries x)
    (hr : Pool.Reachable w (Pool.start talk store world) p) :
    ∃ stance, Tracked custody (fun _ ψ => ψ = ({} : Custody)) p stance ∧ Agreement p stance := by
  have hstart : Tracked custody (fun _ ψ => ψ = ({} : Custody)) (Pool.start talk store world)
      fun _ => ({} : Custody) :=
    tracked_start store world (fun hx => (htalk _ _ hx).follows) fun lock => by cases lock <;> rfl
  have hagree : Agreement (Pool.start talk store world) fun _ => {} :=
    ⟨nofun,nofun,nofun,nofun,nofun,fun h => by simp [Pool.start] at h⟩
  exact exists_tracked_of_reachable hstart hagree (fun ht hi he hm => hi.answered ht he hm)
    (fun _ _ hi => ⟨hi.stored,hi.unreset,hi.attempt,hi.client,hi.cached,hi.lookups⟩) hr

/-- A connection attempt uses the settings of what is stored when it starts. -/
theorem attempt_of_trace (htalk : ∀ task x, talk task = some x → CallSeries x)
    (hr : Pool.Reachable w (Pool.start talk store world) p) {later earlier : List Event}
    {settings : Platform.Settings}
    (h : p.trace = later ++ ⟨task,.startConnect settings,()⟩ :: earlier) :
    ∃ config, lastStored store.config earlier = some config ∧
      settings = config.platformSettings := by
  obtain ⟨p',next,s,hp',htrace,ht,-⟩ := Pool.exists_answer_of_trace hr rfl h
  obtain ⟨stance,htracked,hagree⟩ := exists_agreement_of_series htalk hp'
  obtain ⟨ψ,hmove,-⟩ := htracked.follows ht ()
  have hstored := config_of_reachable hp'
  rw [htrace] at hstored
  cases hmove with
  | startConnect hn hread =>
    exact ⟨_,hstored.symm.trans (hagree.stored hread).2.1,rfl⟩
  | neutral a hq => exact hq.elim

/-! ## All or nothing -/

/-- A configuration is written whole or not at all: a write that fails leaves store and cache, and
one that succeeds replaces the configuration alone and drops the client. Whether calls follow each
other or cross each other, what is stored is what was written last, it lacks nothing if nothing was
lacking at first, and who needs a client connects with its settings. -/
theorem config_written_whole_or_not :
    (∀ config : Config, config.gap? = none ↔ Sufficient config) ∧
    (∀ {σ : Type} (w : World σ) (s : State σ) config,
      (s.Idle ∨ config.gap? ≠ none →
        ∃ r, (Schedule.alone w (writeConfig config).run s).1 = some r) ∧
      ∀ r t, Schedule.alone w (writeConfig config).run s = (some r,t) →
        WriteEnds w s config t r) ∧
    (∀ {σ : Type} (w : World σ) (s : State σ) es, Sequence w s es →
      (∀ e ∈ es, e.operation.IsCall) → Sound s.store.config →
      ∀ earlier e later, es = earlier ++ e :: later →
        e.before.store.config = lastWritten s.store.config earlier ∧
        Sound e.before.store.config ∧ Sound e.after.store.config ∧
        (e.operation.Arrives w e.before → e.before.cache.client? = none →
          ∃ config, lastWritten s.store.config earlier = some config ∧
            attempts (deeds e.asked) = [config.platformSettings]) ∧
        ∀ settings ∈ attempts (deeds e.asked),
          ∃ config, lastWritten s.store.config earlier = some config ∧
            settings = config.platformSettings) ∧
    (∀ {σ ρ : Type} (w : World σ) (talk : TaskId → Option (Talk ρ)) store world p,
      (∀ task x, talk task = some x → CallSeries x) → Sound store.config →
      Pool.Reachable w (Pool.start talk store world) p →
        p.state.store.config = lastStored store.config p.trace ∧ Sound p.state.store.config ∧
        ∀ later task settings earlier,
          p.trace = later ++ ⟨task,.startConnect settings,()⟩ :: earlier →
          ∃ config, lastStored store.config earlier = some config ∧
            settings = config.platformSettings) := by
  refine ⟨fun _ => gap?_eq_none_iff,?_,?_,?_⟩
  · intro σ w s config
    refine ⟨fun h => ?_,fun r t hrun => writeConfig_ends (settle_of_alone hrun)⟩
    obtain ⟨r,t,hend⟩ : Ends w 0 (writeConfig config) s := ends_writeConfig h
    exact ⟨r,alone_eq_some_iff.mpr ⟨t,hend⟩⟩
  · intro σ w s es hes hcalls hsound earlier e later hsplit
    obtain ⟨hhappens,hstored,hbefore,hafter⟩ := hes.stored hcalls hsound hsplit
    refine ⟨hstored,hbefore,hafter,?_,?_⟩
    · intro harrives hneeds
      obtain ⟨config,hconfig,hattempts⟩ :=
        (CacheDiscipline.of_happens hhappens).connects harrives hneeds
      exact ⟨config,hstored.symm.trans hconfig,hattempts⟩
    · intro settings hs
      obtain ⟨config,hconfig,hsettings⟩ := hhappens.attempts_eq hs
      exact ⟨config,hstored.symm.trans hconfig,hsettings⟩
  · intro σ ρ w talk store world p htalk hsound hr
    have hstored := config_of_reachable hr
    obtain ⟨-,htrace⟩ := asks_of_reachable (fun task x hx => (htalk task x hx).asks) hr
    refine ⟨hstored,?_,fun later task settings earlier h => attempt_of_trace htalk hr h⟩
    rw [hstored]
    exact sound_lastStored hsound htrace

/-- A configuration that lacks nothing. -/
def sampleConfig : Config :=
  { identityCaCertificates := ["pem"], apiAddress := "api", clientId := "client" }

/-- The sample state before anything is configured. -/
def blankState : State Script :=
  { sampleState with store := { sampleState.store with config := none } }

/-- The sample configuration is written, and a login follows. -/
def writtenState : State Script :=
  (Schedule.alone Script.world (writeConfig sampleConfig).run blankState).2

def issuedState : State Script :=
  (Schedule.alone Script.world (login sampleRequest (some ⟨"10.0.0.1"⟩)).run writtenState).2

/-- The requests of the login, in order. -/
def loginRequests : List Request :=
  (issuedState.log.take (issuedState.log.length - writtenState.log.length)).reverse

theorem config_written_whole_or_not_sample :
    ∃ first second, Sequence Script.world blankState [first,second] ∧
      first.operation = .writeConfig sampleConfig ∧
      second.operation = .login sampleRequest (some ⟨"10.0.0.1"⟩) ∧
      WriteEnds Script.world blankState sampleConfig first.after (.ok ()) ∧
      second.before.store.config = some sampleConfig ∧ second.failure = none ∧
      attempts (deeds second.asked) = [sampleConfig.platformSettings] := by
  have hwritten : Schedule.alone Script.world (writeConfig sampleConfig).run blankState =
    (some (.ok ()),writtenState) := Prod.ext (by decide +kernel) rfl
  have hissued : Schedule.alone Script.world
      (login sampleRequest (some ⟨"10.0.0.1"⟩)).run writtenState =
    (some (.ok sampleCredential),issuedState) := Prod.ext (by decide +kernel) rfl
  let first : Episode Script :=
    ⟨.writeConfig sampleConfig,blankState,writtenState.log.reverse,none,writtenState⟩
  let second : Episode Script :=
    ⟨.login sampleRequest (some ⟨"10.0.0.1"⟩),writtenState,loginRequests,none,issuedState⟩
  have hlog : issuedState.log = loginRequests.reverse ++ writtenState.log := by decide +kernel
  have hsequence : Sequence Script.world blankState [first,second] :=
    .cons sampleScript rfl ⟨⟨_,hwritten,rfl⟩,by simp [first,blankState,sampleState]⟩
      (.cons writtenState.world rfl ⟨⟨_,hissued,rfl⟩,hlog⟩ .nil)
  obtain ⟨-,hwrite,hcalls,-⟩ := config_written_whole_or_not
  have hends := (hwrite Script.world blankState sampleConfig).2 _ _ hwritten
  have hall : ∀ e ∈ [first,second], e.operation.IsCall := by simp [first,second,Operation.IsCall]
  obtain ⟨hstored,-⟩ := hcalls _ _ _ hsequence hall sound_none [first] second [] rfl
  have hattempts : attempts (deeds loginRequests) = [sampleConfig.platformSettings] := by
    decide +kernel
  exact ⟨first,second,hsequence,rfl,rfl,hends,hstored,rfl,hattempts⟩

end WorkloadLogin.Service
