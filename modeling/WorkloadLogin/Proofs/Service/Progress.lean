import WorkloadLogin.Proofs.Service.PlatformGates

/-! # Actions that end

A task by itself waits for nothing but a connection that is being made, as long as no lock is held.
-/
namespace WorkloadLogin.Service
variable {σ α β ε : Type} {w : World σ} {task : TaskId} {s u : State σ}

/-- The action ends by itself. -/
def Ends (w : World σ) (task : TaskId) (x : Action α) (s : State σ) : Prop :=
  ∃ r t, outcome? w task x s = some (r,t)

theorem ends_pure (a : α) : Ends w task (pure a) s := ⟨_,_,rfl⟩

theorem ends_throw (e : Error) : Ends w task (throw e : Action α) s := ⟨_,_,rfl⟩

theorem ends_orFail (failure : ε → Error) (x : Except ε α) :
    Ends w task (orFail failure x) s := by
  cases x with
  | ok a => exact ends_pure a
  | error e => exact ends_throw _

theorem Ends.bind {x : Action α} {f : α → Action β} (hx : Ends w task x s)
    (hf : ∀ a u, outcome? w task x s = some (.ok a,u) → Ends w task (f a) u) :
    Ends w task (x >>= f) s := by
  obtain ⟨r,u,h⟩ := hx
  unfold Ends
  rw [outcome?_bind,h]
  cases r with
  | error e => exact ⟨_,_,rfl⟩
  | ok a => exact hf a u h

theorem Ends.ask_bind {q : Request} {f : q.Answer → Action β} {a : q.Answer}
    (hq : State.answer w task q s = some (a,u)) (hf : Ends w task (f a) u) :
    Ends w task (ask q >>= f) s := by
  unfold Ends
  rw [outcome?_ask_bind,hq]
  exact hf

theorem Ends.holding {lock : Lock} {access : Access} {body : Action α} (hq : s.queue lock = [])
    (h : Ends w task body (s.entered lock task access)) :
    Ends w task (holding lock access body) s := by
  obtain ⟨r,t,h⟩ := h
  unfold Ends
  rw [outcome?_holding hq,h]
  exact ⟨_,_,rfl⟩

theorem Ends.tryCatch {x : Action α} {handler : Error → Action α} (hx : Ends w task x s)
    (hh : ∀ e u, Ends w task (handler e) u) : Ends w task (tryCatch x handler) s := by
  obtain ⟨r,u,h⟩ := hx
  change ∃ r t, settle w task (x.run >>= _) s = some (r,t)
  rw [settle_bind]
  change ∃ r t, (outcome? w task x s).bind _ = some (r,t)
  rw [h]
  cases r with
  | ok a => exact ⟨_,_,rfl⟩
  | error e => exact hh e u

theorem ends_findRole (name : String) (absent : Error) : Ends w task (findRole name absent) s := by
  refine .ask_bind (answer_readRole name s) (.bind (ends_orFail ..) fun found _ _ => ?_)
  cases found with
  | none => exact ends_throw _
  | some role => exact ends_pure role

theorem ends_findConfig (need : ConfigNeed) : Ends w task (findConfig need) s := by
  refine .ask_bind (answer_readConfig s) (.bind (ends_orFail ..) fun found _ _ => ?_)
  cases found with
  | none => exact ends_throw _
  | some config => exact ends_pure config

theorem ends_confirm (client : ClientId) (kind : Platform.Kind) (guid : String) :
    Ends w task (confirm client kind guid) s := .ask_bind rfl (ends_orFail ..)

theorem ends_crossCheck (client : ClientId) (role : Role) (identity : Identity)
    (connection : Option Connection) :
    Ends w task (crossCheck client role identity connection) s := by
  refine (ends_orFail ..).bind fun _ _ _ => ?_
  refine (ends_orFail ..).bind fun _ _ _ => ?_
  refine (ends_confirm ..).bind fun _ _ _ => ?_
  refine (ends_orFail ..).bind fun _ _ _ => ?_
  refine (ends_confirm ..).bind fun _ _ _ => ?_
  refine (ends_orFail ..).bind fun _ _ _ => ?_
  exact (ends_confirm ..).bind fun _ _ _ => ends_orFail ..

/-- The attempt that a task without a client would make has an outcome. -/
def Answered (w : World σ) (settings : Platform.Settings) (cache : Cache) (before : σ) : Prop :=
  cache.client? = none → ∃ ended, w.awaitConnect (w.startConnect settings before) = some ended

theorem ends_connect {settings : Platform.Settings} {ended : Except Platform.Error ClientId × σ}
    (h : w.awaitConnect (w.startConnect settings s.world) = some ended) :
    Ends w task (connect settings) s := by
  have hstart : State.answer w task (.startConnect settings) s = some ((),
      { s.record (.startConnect settings) with world := w.startConnect settings s.world }) := rfl
  have hawait : State.answer w task .awaitConnect
      { s.record (.startConnect settings) with world := w.startConnect settings s.world } =
        some (ended.1,{ (s.record (.startConnect settings)).record .awaitConnect with
          world := ended.2 }) := by
    simp only [State.answer,State.reply,h]
    rfl
  refine .ask_bind hstart (.ask_bind hawait ((ends_orFail ..).bind fun client v _ => ?_))
  exact .ask_bind rfl (ends_pure _)

theorem ends_getOrConnect {settings : Platform.Settings} (hq : s.queue .connect = [])
    (h : Answered w settings s.cache s.world) : Ends w task (getOrConnect settings) s := by
  have hcached : ∀ v : State σ,
      State.answer w task .cached v = some (v.cache.client?,v.record .cached) := fun _ => rfl
  refine .ask_bind (hcached s) ?_
  cases hclient : s.cache.client? with
  | some client => exact ends_pure client
  | none =>
    refine .holding (by simpa using hq) (.ask_bind (hcached _) ?_)
    obtain ⟨ended,hended⟩ := h hclient
    simp only [State.entered_cache,State.record_cache,hclient]
    exact ends_connect (by simpa using hended)

end WorkloadLogin.Service
