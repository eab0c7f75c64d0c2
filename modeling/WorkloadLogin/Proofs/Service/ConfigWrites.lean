import WorkloadLogin.Proofs.Service.CacheAutomaton
import WorkloadLogin.Proofs.Service.Requests

/-! # Writing a configuration

A write replaces the configuration and drops the client, or it fails and leaves both as they were.
As calls follow each other, what is stored is therefore what was written last, and no client is
connected with any other settings.
-/
namespace WorkloadLogin.Service
open Text
variable {σ : Type} {w : World σ} {task : TaskId} {s t : State σ} {config : Config}
  {e : Episode σ} {es : List (Episode σ)} {initial : Option Config}

/-! ## Complete configurations -/

/-- Nothing is lacking that a login depends on. -/
structure Sufficient (config : Config) : Prop where
  root : ∃ text ∈ config.identityCaCertificates, allBlank text = false
  address : allBlank config.apiAddress = false
  account : config.username ≠ "" ∨ config.clientId ≠ ""

theorem gap?_eq_none_iff : config.gap? = none ↔ Sufficient config := by
  have hroot : config.identityCaCertificates.all allBlank = false ↔
      ∃ text ∈ config.identityCaCertificates, allBlank text = false := by
    simp [List.all_eq_false]
  have haccount : (config.username.isEmpty && config.clientId.isEmpty) = false ↔
      config.username ≠ "" ∨ config.clientId ≠ "" := by
    simp [imp_iff_not_or]
  unfold Config.gap?
  constructor
  · intro h
    split at h
    · cases h
    rename_i hr
    split at h
    · cases h
    rename_i ha
    split at h
    · cases h
    rename_i hu
    exact ⟨hroot.mp (Bool.eq_false_iff.mpr hr),Bool.eq_false_iff.mpr ha,
      haccount.mp (Bool.eq_false_iff.mpr hu)⟩
  · intro h
    rw [if_neg (Bool.eq_false_iff.mp (hroot.mpr h.root)),if_neg (Bool.eq_false_iff.mp h.address),
      if_neg (Bool.eq_false_iff.mp (haccount.mpr h.account))]

/-- There is no configuration, or it lacks nothing. -/
def Sound (stored : Option Config) : Prop := ∀ config, stored = some config → Sufficient config

theorem sound_none : Sound none := nofun

theorem sound_some (h : Sufficient config) : Sound (some config) := by
  rintro _ ⟨⟩
  exact h

/-! ## One write -/

/-- How a write can end, and what it leaves. -/
inductive WriteEnds (w : World σ) (s : State σ) (config : Config) (t : State σ) :
    Except Error Unit → Prop
  | incomplete {gap : Config.Gap} (hgap : config.gap? = some gap) (hstore : t.store = s.store)
      (hcache : t.cache = s.cache) :
      WriteEnds w s config t (.error (.rejected (.incompleteConfig gap)))
  | refused {text : String} (hconfig : Sufficient config)
      (hfault : w.storageFault s.world .putConfig = some text) (hstore : t.store = s.store)
      (hcache : t.cache = s.cache) : WriteEnds w s config t (.error (.storage text))
  | replaced (hconfig : Sufficient config) (hfault : w.storageFault s.world .putConfig = none)
      (hstored : t.store.config = some config) (hroles : t.store.roles = s.store.roles)
      (hcache : t.cache = .absent) : WriteEnds w s config t (.ok ())

@[simp] theorem State.left_store (s : State σ) (lock : Lock) :
    (s.left lock task).store = s.store := by
  cases lock <;> rfl

@[simp] theorem State.left_cache (s : State σ) (lock : Lock) :
    (s.left lock task).cache = s.cache := by
  cases lock <;> rfl

/-- What storing a configuration makes of store and cache. -/
theorem answer_storeConfig (config : Config) (s : State σ) :
    State.answer w task (.storeConfig config) s =
      some (match w.storageFault s.world .putConfig with
        | some text => (.error text,s.record (.storeConfig config))
        | none => (.ok (),{ s.record (.storeConfig config) with
            store := s.store.setConfig (some config) })) := by
  simp only [State.answer,State.reply,State.stored]
  cases w.storageFault s.world .putConfig <;> rfl

theorem store_of_forgetClient {r : Except Error Bool}
    (h : outcome? w task forgetClient s = some (r,t)) :
    t.store = s.store ∧ t.cache = .absent := by
  obtain ⟨u,hu,rfl⟩ := outcome?_holding_some h
  cases hu
  exact ⟨by simp,by simp⟩

theorem writeConfig_ends {r : Except Error Unit}
    (h : outcome? w task (writeConfig config) s = some (r,t)) : WriteEnds w s config t r := by
  unfold writeConfig at h
  cases hgap : config.gap? with
  | some gap =>
    rw [hgap] at h
    cases h
    exact .incomplete hgap rfl rfl
  | none =>
    rw [hgap] at h
    have hconfig := gap?_eq_none_iff.mp hgap
    obtain ⟨u,hu,rfl⟩ := outcome?_holding_some h
    rw [outcome?_ask_bind,answer_storeConfig,Option.bind_some,State.queued_world] at hu
    cases hfault : w.storageFault s.world .putConfig with
    | some text =>
      rw [hfault] at hu
      cases hu
      exact .refused hconfig hfault (by simp [State.record]) (by simp)
    | none =>
      rw [hfault,outcome?_orFail_bind] at hu
      rw [outcome?_bind] at hu
      obtain ⟨⟨found,v⟩,hforget,hend⟩ := Option.bind_eq_some_iff.mp hu
      obtain ⟨⟨b,rfl⟩,-⟩ := outcome?_forgetClient_some hforget
      cases hend
      obtain ⟨hstore,hcache⟩ := store_of_forgetClient hforget
      have hstored : (u.left .config task).store = s.store.setConfig (some config) := by
        simp [hstore]
      refine .replaced hconfig hfault ?_ ?_ (by simp [hcache])
      · rw [hstored]
        rfl
      · rw [hstored]
        rfl

/-- A write returns unless it has to wait for a lock, and it waits for none if something is
lacking. -/
theorem ends_writeConfig (h : s.Idle ∨ config.gap? ≠ none) :
    Ends w task (writeConfig config) s := by
  unfold writeConfig
  cases hgap : config.gap? with
  | some gap => exact ends_throw _
  | none =>
    have hs : s.Idle := h.resolve_right fun hno => hno hgap
    refine .holding hs.config ?_
    have hforget : ∀ u : State σ, u.connectQueue = [] → Ends w task forgetClient u :=
      fun u hu => .holding hu ⟨_,_,outcome?_ask .forget _⟩
    have hstore : State.answer w task (.storeConfig config) (s.entered .config task .exclusive) =
        _ := answer_storeConfig config _
    rw [State.entered_world] at hstore
    cases hfault : w.storageFault s.world .putConfig with
    | some text =>
      rw [hfault] at hstore
      exact .ask_bind hstore (ends_throw _)
    | none =>
      rw [hfault] at hstore
      refine .ask_bind hstore ((ends_orFail ..).bind fun _ u hu => ?_)
      cases hu
      refine (hforget _ ?_).bind fun _ _ _ => ends_pure _
      exact hs.connect

/-! ## Calls one after another -/

/-- A call to the service, not an edit of its stores. -/
def Operation.IsCall : Operation → Prop
  | .login _ _ | .renew _ _ | .resolveRole _ | .writeConfig _ => True
  | _ => False

/-- The configuration that an episode has written. -/
def Episode.written? (e : Episode σ) : Option Config :=
  match e.operation, e.failure with
  | .writeConfig config, none => some config
  | _, _ => none

/-- The configuration that was written last, or the one at first if none was. -/
def lastWritten (initial : Option Config) (es : List (Episode σ)) : Option Config :=
  (es.filterMap Episode.written?).getLast?.or initial

theorem lastWritten_cons (initial : Option Config) (e : Episode σ) (es : List (Episode σ)) :
    lastWritten initial (e :: es) = lastWritten (e.written?.or initial) es := by
  unfold lastWritten
  rw [List.filterMap_cons]
  cases e.written? with
  | none => rfl
  | some config =>
    cases h : (es.filterMap Episode.written?).getLast? <;> simp [List.getLast?_cons,h]

/-- A call that asks for no write leaves the configuration. -/
theorem config_of_storeless {α : Type} {x : Talk α} {a : α} (hx : Asks Request.Storeless x)
    (h : settle w task x s = some (a,t)) : t.store = s.store := by
  obtain ⟨asked,hlog,hasked⟩ := asked_of_asks hx h
  obtain ⟨asked',hlog',-,hstore⟩ := exists_asked h
  obtain rfl := asked_unique (hlog.symm.trans hlog')
  refine hstore fun hmem => ?_
  obtain ⟨q,hq,hdeed⟩ := List.mem_filterMap.mp hmem
  have hno := hasked q hq
  cases q with
  | storeConfig config => exact hno
  | _ => cases hdeed

/-- After a call there is what it has written, if anything; and it has written nothing that lacks
something. -/
theorem Episode.Happens.stored (h : e.Happens w) (hcall : e.operation.IsCall) :
    e.after.store.config = e.written?.or e.before.store.config ∧ Sound e.written? := by
  obtain ⟨operation,before,asked,failure,after⟩ := e
  obtain ⟨hends,-⟩ := h
  have hkept : ∀ {α : Type} {x : Action α}, Asks Request.Storeless x.run →
      Returns w x before failure after → after.store.config = before.store.config := by
    intro α x hx hreturns
    obtain ⟨r,hrun,-⟩ := hreturns.outcome
    rw [config_of_storeless hx hrun]
  cases operation with
  | login request connection => exact ⟨hkept (asks_login ..) hends,sound_none⟩
  | renew c connection => exact ⟨hkept (asks_renew ..) hends,sound_none⟩
  | resolveRole name => exact ⟨hkept (asks_resolveRole _) hends,sound_none⟩
  | writeConfig config =>
    obtain ⟨r,hrun,rfl⟩ := Returns.outcome hends
    cases writeConfig_ends hrun with
    | incomplete hgap hstore => exact ⟨congrArg Store.config hstore,sound_none⟩
    | refused hconfig hfault hstore => exact ⟨congrArg Store.config hstore,sound_none⟩
    | replaced hconfig hfault hstored => exact ⟨hstored,sound_some hconfig⟩
  | putRole name role | deleteRole name | setConfig config => exact hcall.elim

/-- As calls follow each other, each finds stored what was written last. -/
theorem Sequence.stored (h : Sequence w s es) (hcalls : ∀ e ∈ es, e.operation.IsCall)
    (hsound : Sound s.store.config) {earlier later : List (Episode σ)}
    (hes : es = earlier ++ e :: later) :
    e.Happens w ∧ e.before.store.config = lastWritten s.store.config earlier ∧
      Sound e.before.store.config ∧ Sound e.after.store.config := by
  induction h generalizing earlier with
  | nil => cases earlier <;> cases hes
  | @cons s first rest world hb he hrest ih =>
    obtain ⟨hfirst,hlater⟩ := List.forall_mem_cons.mp hcalls
    obtain ⟨hstored,hwritten⟩ := he.stored hfirst
    have hbefore : first.before.store.config = s.store.config := by rw [hb]
    rw [hbefore] at hstored
    have hafter : Sound first.after.store.config := by
      rw [hstored]
      cases hw : first.written? with
      | none => exact hsound
      | some config =>
        rw [hw] at hwritten
        exact hwritten
    cases earlier with
    | nil =>
      obtain ⟨rfl,rfl⟩ := List.cons.inj hes
      exact ⟨he,hbefore,hbefore ▸ hsound,hafter⟩
    | cons first' earlier =>
      obtain ⟨rfl,hrest'⟩ := List.cons.inj hes
      obtain ⟨hhappens,hfound,hsounds⟩ := ih hlater hafter hrest'
      rw [hstored] at hfound
      exact ⟨hhappens,by rw [hfound,lastWritten_cons],hsounds⟩

/-- A client is connected with the settings of the stored configuration, or not at all. -/
theorem Episode.Happens.attempts_eq (h : e.Happens w) {settings : Platform.Settings}
    (hs : settings ∈ attempts (deeds e.asked)) :
    ∃ config, e.before.store.config = some config ∧ settings = config.platformSettings := by
  have hkept := CacheDiscipline.of_happens h
  by_cases hneeds : e.operation.Arrives w e.before ∧ e.before.cache.client? = none
  · obtain ⟨config,hconfig,hattempts⟩ := hkept.connects hneeds.1 hneeds.2
    rw [hattempts] at hs
    exact ⟨config,hconfig,List.mem_singleton.mp hs⟩
  · rw [hkept.spares hneeds] at hs
    cases hs

end WorkloadLogin.Service
