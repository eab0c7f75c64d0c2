import WorkloadLogin.Proofs.Service.CacheTrace
import WorkloadLogin.Proofs.Service.Flight
import WorkloadLogin.Proofs.Service.Schedules
import WorkloadLogin.Service.Script

/-! # One attempt at a time, and no client that was given up

Whatever the order in which tasks ask for the client, taint it and empty the cache, one of them
connects at a time and only while there is no fresh client. From one step that takes the cache out
of freshness to the next, at most one attempt succeeds, and all tasks that find a client find that
one.
-/
namespace WorkloadLogin.Service
variable {σ ρ : Type} {w : World σ} {task t u : TaskId} {q : Request} {a : q.Answer} {e : Event}
  {trace earlier later : List Event} {client c : ClientId}

/-! ## The invariant -/

/-- The stances of a task that holds the lock and has found the cache without a fresh client. -/
def Flight.Vacant : Flight → Prop
  | clear | connecting | delivered _ => True
  | _ => False

/-- What the stances of the tasks and the trace say about the cache. -/
structure Flights (p : Pool σ ρ) (stance : TaskId → Flight) : Prop where
  cache : p.state.cache = cacheOf p.trace
  attempting : ∀ {t}, stance t = .connecting ↔ Attempting t p.trace
  vacant : ∀ {t}, (stance t).Vacant → p.state.cache.client? = none
  atStart : ∀ {t}, stance t = .connecting → cacheAtStart t p.trace = p.state.cache
  fresh : ∀ {c}, p.state.cache = .fresh c → deliveries (spell p.trace) = [c]
  /-- A client counts from its delivery on, before it is in the cache. -/
  delivered : ∀ {t c}, stance t = .delivered c → deliveries (spell p.trace) = [c]
  barren : p.state.cache.client? = none → (∀ t c, stance t ≠ .delivered c) →
    deliveries (spell p.trace) = []
  read : ∀ {t c}, ⟨t,.cached,some c⟩ ∈ spell p.trace → deliveries (spell p.trace) = [c]
  reader : ∀ {t c}, ⟨t,.cached,some c⟩ ∈ p.trace →
    stance t = .idle (some c) ∨ stance t = .holding (some c)
  /-- The answer by which a task came by its client fell in the spell of this client. -/
  got : ∀ {t c}, (stance t).got = some c → ∃ later q a earlier,
    p.trace = later ++ ⟨t,q,a⟩ :: earlier ∧ deliveries (spell (⟨t,q,a⟩ :: earlier)) = [c]

variable {p : Pool σ ρ} {stance : TaskId → Flight} {next : Talk ρ} {s : State σ} {φ ψ : Flight}
  {Q : ρ → Flight → Prop}

theorem Flight.Vacant.place (h : φ.Vacant) : φ.place .connect = .holding .exclusive := by
  cases φ <;> first | rfl | exact h.elim

/-- The lock is exclusive, so no two tasks are under it. -/
theorem Tracked.eq_of_holding (ht : Tracked flight Q p stance)
    (htask : (stance task).place .connect = .holding .exclusive)
    (hother : (stance t).place .connect = .holding .exclusive) : t = task :=
  (ht.lined .connect).eq_of_exclusive htask hother

/-- While a task is at work on a vacant cache, no other one can fill or empty it. -/
theorem Flights.cache_kept (h : Flights p stance) (ht : Tracked flight Q p stance)
    (he : Effect task q a p.state s) (hm : Flight.Moves (stance task) q a ψ) (hne : t ≠ task)
    (hv : (stance t).Vacant) : s.cache = p.state.cache := by
  have hcache := he.cache
  cases hm with
  | keep hφ => exact absurd (ht.eq_of_holding (by rw [hφ]; rfl) hv.place) hne
  | forget dropped hφ => exact absurd (ht.eq_of_holding (by rw [hφ]; rfl) hv.place) hne
  | taint client changed hφ =>
    have hnone := h.vacant hv
    rw [hcache, Request.cacheAfter, Cache.taint, if_neg]
    intro hfresh
    simp [hfresh, Cache.client?] at hnone
  | _ => exact hcache

/-! ## What one answer keeps -/

theorem Flights.attempting_answered (h : Flights p stance) (hm : Flight.Moves (stance task) q a ψ) :
    Function.update stance task ψ t = .connecting ↔ Attempting t (⟨task,q,a⟩ :: p.trace) := by
  by_cases htask : t = task
  · subst htask
    rw [Function.update_self]
    have hcalm : (∀ settings, q ≠ .startConnect settings) → q ≠ .awaitConnect →
        stance t ≠ .connecting → ψ ≠ .connecting →
        (ψ = .connecting ↔ Attempting t (⟨t,q,a⟩ :: p.trace)) := fun hs ha hφ hψ =>
      iff_of_false hψ fun hat => hφ (h.attempting.mpr ((attempting_cons hs ha).mp hat))
    cases hm with
    | start settings hφ => exact iff_of_true rfl (.inl rfl)
    | fail e hφ => exact iff_of_false nofun fun hat => hat.1 rfl
    | deliver client hφ => exact iff_of_false nofun fun hat => hat.1 rfl
    | relook r hφ => exact hcalm nofun nofun (by simp [hφ]) (by cases r <;> exact nofun)
    | _ => exact hcalm nofun nofun (by simp [*]) nofun
  · rw [Function.update_of_ne htask, h.attempting, attempting_cons_of_ne (Ne.symm htask)]

theorem Flights.vacant_answered (h : Flights p stance) (ht : Tracked flight Q p stance)
    (he : Effect task q a p.state s) (hm : Flight.Moves (stance task) q a ψ)
    (hv : (Function.update stance task ψ t).Vacant) : s.cache.client? = none := by
  by_cases htask : t = task
  · subst htask
    rw [Function.update_self] at hv
    have hcache := he.cache
    cases hm with
    | relook r hφ =>
      cases r with
      | none => rw [hcache]; exact he.truthful.symm
      | some client => exact hv.elim
    | start settings hφ => rw [hcache]; exact h.vacant (by rw [hφ]; trivial)
    | deliver client hφ => rw [hcache]; exact h.vacant (by rw [hφ]; trivial)
    | _ => exact hv.elim
  · rw [Function.update_of_ne htask] at hv
    rw [h.cache_kept ht he hm htask hv]
    exact h.vacant hv

theorem Flights.atStart_answered (h : Flights p stance) (ht : Tracked flight Q p stance)
    (he : Effect task q a p.state s) (hm : Flight.Moves (stance task) q a ψ)
    (hc : Function.update stance task ψ t = .connecting) :
    cacheAtStart t (⟨task,q,a⟩ :: p.trace) = s.cache := by
  by_cases htask : t = task
  · subst htask
    rw [Function.update_self] at hc
    have hcache := he.cache
    cases hm with
    | start settings hφ =>
      rw [hcache, cacheAtStart, if_pos rfl, ← h.cache]
      rfl
    | relook r hφ => cases r <;> cases hc
    | _ => cases hc
  · rw [Function.update_of_ne htask] at hc
    rw [cacheAtStart_cons_of_ne (Ne.symm htask), h.cache_kept ht he hm htask (by rw [hc]; trivial)]
    exact h.atStart hc

/-- Whoever connects has had nobody deliver a client since the cache lost its last one. -/
theorem Flights.barren_of_connecting (h : Flights p stance) (ht : Tracked flight Q p stance)
    (hφ : stance task = .connecting) : deliveries (spell p.trace) = [] := by
  refine h.barren (h.vacant (by rw [hφ]; trivial)) fun t c hc => ?_
  have heq := ht.eq_of_holding (by rw [hφ]; rfl) (by rw [hc]; rfl)
  rw [heq, hφ] at hc
  cases hc

theorem Flights.deliveries_of_deliver (h : Flights p stance) (ht : Tracked flight Q p stance)
    (hφ : stance task = .connecting) :
    deliveries (spell (⟨task,.awaitConnect,.ok client⟩ :: p.trace)) = [client] := by
  have hvacant := h.vacant (t := task) (by rw [hφ]; trivial)
  rw [h.cache] at hvacant
  rw [deliveries_spell_cons fun hr => hr.1 hvacant, h.barren_of_connecting ht hφ]
  rfl

theorem Flights.fresh_answered (h : Flights p stance) (he : Effect task q a p.state s)
    (hm : Flight.Moves (stance task) q a ψ) (hc : s.cache = .fresh c) :
    deliveries (spell (⟨task,q,a⟩ :: p.trace)) = [c] := by
  have hcache := he.cache
  rw [hc] at hcache
  have hcalm : q.cacheAfter p.state.cache = p.state.cache →
      (⟨task,q,a⟩ : Event).delivery? = none →
      deliveries (spell (⟨task,q,a⟩ :: p.trace)) = [c] := by
    intro hsame hd
    rw [deliveries_spell_calm (h.cache ▸ hsame) hd]
    exact h.fresh (hcache.trans hsame).symm
  cases hm with
  | deliver client hφ =>
    have hvacant := h.vacant (t := task) (by rw [hφ]; trivial)
    rw [show p.state.cache = .fresh c from hcache.symm] at hvacant
    cases hvacant
  | keep hφ =>
    cases hcache
    have hr : ¬ Retires ⟨task,.keep c,()⟩ p.trace := fun hr => Option.some_ne_none c hr.2
    rw [deliveries_spell_cons hr]
    exact h.delivered hφ
  | forget dropped hφ => cases hcache
  | taint client changed hφ =>
    refine hcalm ?_ rfl
    simp only [Request.cacheAfter, Cache.taint] at hcache ⊢
    split at hcache
    · cases hcache
    · simp [*]
  | _ => exact hcalm rfl rfl

theorem Flights.deliveries_of_read (h : Flights p stance)
    (he : Effect task .cached (some c) p.state s)
    (hm : Flight.Moves (stance task) .cached (some c) ψ) :
    deliveries (spell (⟨task,.cached,some c⟩ :: p.trace)) = [c] :=
  h.fresh_answered he hm (he.cache.trans (Cache.client?_eq_some_iff.mp he.truthful.symm))

theorem Flights.delivered_answered (h : Flights p stance) (ht : Tracked flight Q p stance)
    (he : Effect task q a p.state s) (hm : Flight.Moves (stance task) q a ψ)
    (hd : Function.update stance task ψ t = .delivered c) :
    deliveries (spell (⟨task,q,a⟩ :: p.trace)) = [c] := by
  by_cases htask : t = task
  · subst htask
    rw [Function.update_self] at hd
    cases hm with
    | deliver client hφ =>
      cases hd
      exact h.deliveries_of_deliver ht hφ
    | relook r hφ => cases r <;> cases hd
    | _ => cases hd
  · rw [Function.update_of_ne htask] at hd
    have hkept := h.cache_kept ht he hm htask (by rw [hd]; trivial)
    rw [deliveries_spell_calm, h.delivered hd]
    · rw [← h.cache, ← he.cache, hkept]
    · cases hm with
      | deliver client hφ =>
        exact absurd (ht.eq_of_holding (by rw [hφ]; rfl) (by rw [hd]; rfl)) htask
      | _ => rfl

theorem Flights.barren_answered (h : Flights p stance) (he : Effect task q a p.state s)
    (hm : Flight.Moves (stance task) q a ψ) (hc : s.cache.client? = none)
    (hnone : ∀ t c, Function.update stance task ψ t ≠ .delivered c) :
    deliveries (spell (⟨task,q,a⟩ :: p.trace)) = [] := by
  have hcache := he.cache
  by_cases hr : Retires ⟨task,q,a⟩ p.trace
  · rw [spell_cons_of_retires hr]
    rfl
  have hbefore : p.state.cache.client? = none := by
    by_contra hsome
    refine hr ⟨h.cache ▸ hsome,?_⟩
    rw [cacheOf, ← h.cache, ← hcache, hc]
  have hnobody : (∀ c, stance task ≠ .delivered c) → ∀ t c, stance t ≠ .delivered c := by
    intro htask t c
    by_cases heq : t = task
    · exact heq ▸ htask c
    · exact Function.update_of_ne heq ψ stance ▸ hnone t c
  rw [deliveries_spell_cons hr]
  cases hm with
  | deliver client hφ => exact absurd (Function.update_self ..) (hnone task client)
  | keep hφ =>
    rw [hcache] at hc
    cases hc
  | _ => exact h.barren hbefore (hnobody (by simp [*]))

theorem Flights.read_answered (h : Flights p stance) (ht : Tracked flight Q p stance)
    (he : Effect task q a p.state s) (hm : Flight.Moves (stance task) q a ψ)
    (hread : ⟨t,.cached,some c⟩ ∈ spell (⟨task,q,a⟩ :: p.trace)) :
    deliveries (spell (⟨task,q,a⟩ :: p.trace)) = [c] := by
  by_cases hr : Retires ⟨task,q,a⟩ p.trace
  · rw [spell_cons_of_retires hr] at hread
    cases hread
  rw [spell_cons_of_not_retires hr] at hread
  rcases List.mem_cons.mp hread with hnow | hbefore
  · cases hnow
    exact h.deliveries_of_read he hm
  · rw [deliveries_spell_cons hr, h.read hbefore]
    cases hm with
    | deliver client hφ => simpa [h.barren_of_connecting ht hφ] using h.read hbefore
    | _ => rfl

/-- A task that has found a client in the cache asks for nothing more than to leave. -/
theorem Flights.reader_answered (h : Flights p stance) (hm : Flight.Moves (stance task) q a ψ)
    (hread : ⟨t,.cached,some c⟩ ∈ (⟨task,q,a⟩ :: p.trace : List Event)) :
    Function.update stance task ψ t = .idle (some c) ∨
      Function.update stance task ψ t = .holding (some c) := by
  rcases List.mem_cons.mp hread with hnow | hbefore
  · cases hnow
    rw [Function.update_self]
    cases hm with
    | look r hφ => exact .inl rfl
    | relook r hφ => exact .inr rfl
  · have hold := h.reader hbefore
    by_cases htask : t = task
    · subst htask
      rw [Function.update_self]
      cases hm with
      | leave hφ =>
        rw [hφ] at hold
        rcases hold with hidle | hholding
        · cases hidle
        · cases hholding
          exact .inl rfl
      | _ => simp_all
    · rwa [Function.update_of_ne htask]

theorem Flights.got_answered (h : Flights p stance) (ht : Tracked flight Q p stance)
    (he : Effect task q a p.state s) (hm : Flight.Moves (stance task) q a ψ)
    (hgot : (Function.update stance task ψ t).got = some c) :
    ∃ later q' a' earlier, ⟨task,q,a⟩ :: p.trace = later ++ ⟨t,q',a'⟩ :: earlier ∧
      deliveries (spell (⟨t,q',a'⟩ :: earlier)) = [c] := by
  have hkept : (stance t).got = some c → ∃ later q' a' earlier,
      ⟨task,q,a⟩ :: p.trace = later ++ ⟨t,q',a'⟩ :: earlier ∧
        deliveries (spell (⟨t,q',a'⟩ :: earlier)) = [c] := by
    intro hgot
    obtain ⟨later,q',a',earlier,htrace,hdeliveries⟩ := h.got hgot
    exact ⟨_ :: later,q',a',earlier,congrArg _ htrace,hdeliveries⟩
  by_cases htask : t = task
  · subst htask
    rw [Function.update_self] at hgot
    cases hm with
    | look r hφ =>
      obtain rfl : r = some c := hgot
      exact ⟨[],_,_,_,rfl,h.deliveries_of_read he (.look _ hφ)⟩
    | relook r hφ =>
      cases r with
      | none => cases hgot
      | some client =>
        cases hgot
        exact ⟨[],_,_,_,rfl,h.deliveries_of_read he (.relook _ hφ)⟩
    | deliver client hφ =>
      cases hgot
      exact ⟨[],_,_,_,rfl,h.deliveries_of_deliver ht hφ⟩
    | keep hφ => exact hkept (by rw [hφ]; exact hgot)
    | leave hφ => exact hkept (by rw [hφ]; exact hgot)
    | _ => cases hgot
  · rw [Function.update_of_ne htask] at hgot
    exact hkept hgot

theorem Flights.answered (h : Flights p stance) (ht : Tracked flight Q p stance)
    (he : Effect task q a p.state s) (hm : Flight.Moves (stance task) q a ψ) :
    Flights (p.answered task q a next s) (Function.update stance task ψ) where
  cache := by
    change s.cache = q.cacheAfter (cacheOf p.trace)
    rw [he.cache, h.cache]
  attempting := h.attempting_answered hm
  vacant := h.vacant_answered ht he hm
  atStart := h.atStart_answered ht he hm
  fresh := h.fresh_answered he hm
  delivered := h.delivered_answered ht he hm
  barren := h.barren_answered he hm
  read := h.read_answered ht he hm
  reader := h.reader_answered hm
  got := h.got_answered ht he hm

/-! ## Every order of calls -/

/-- Calls of tasks on the cache, with no client in it. -/
def Pool.ofCacheCalls (calls : TaskId → Option CacheCall) (store : Store) (world : σ) :
    Pool σ CacheReply :=
  .start (fun task => (calls task).map CacheCall.talk) store world

theorem tracked_ofCacheCalls (calls : TaskId → Option CacheCall) (store : Store) (world : σ) :
    Tracked flight CacheReply.Ends (Pool.ofCacheCalls calls store world) fun _ => .idle none := by
  refine tracked_start store world (fun hx => ?_) fun lock => by cases lock <;> rfl
  obtain ⟨call,-,rfl⟩ := Option.map_eq_some_iff.mp hx
  exact follows_cacheCall call

theorem flights_ofCacheCalls (calls : TaskId → Option CacheCall) (store : Store) (world : σ) :
    Flights (Pool.ofCacheCalls calls store world) fun _ => .idle none where
  cache := rfl
  attempting := iff_of_false nofun id
  vacant := nofun
  atStart := nofun
  fresh := nofun
  delivered := nofun
  barren _ _ := rfl
  read := nofun
  reader := nofun
  got := nofun

/-- Connecting is single flight, and no client that was given up comes back. Traces are latest
first, so `earlier` is what had been answered at some moment, and `e :: earlier` one answer more. -/
structure SingleFlight (p : Pool σ CacheReply) : Prop where
  cache : p.state.cache = cacheOf p.trace
  /-- At most one attempt is under way. -/
  one : ∀ {later earlier t u}, p.trace = later ++ earlier → Attempting t earlier →
    Attempting u earlier → t = u
  start : ∀ {later t settings a earlier},
    p.trace = later ++ ⟨t,.startConnect settings,a⟩ :: earlier →
    (cacheOf earlier).client? = none ∧ ∀ u, ¬ Attempting u earlier
  failed : ∀ {later t e earlier}, p.trace = later ++ ⟨t,.awaitConnect,.error e⟩ :: earlier →
    Attempting t earlier ∧
      cacheOf (⟨t,.awaitConnect,.error e⟩ :: earlier) = cacheAtStart t earlier
  /-- At most one attempt succeeds in a spell, and whoever finds a client in it finds that one. -/
  succeeded : ∀ {later earlier}, p.trace = later ++ earlier →
    (deliveries (spell earlier)).length ≤ 1
  read : ∀ {later earlier t c}, p.trace = later ++ earlier → ⟨t,.cached,some c⟩ ∈ spell earlier →
    deliveries (spell earlier) = [c] ∧
      ∀ {r}, p.talk t = some (.done r) → r = .client (.ok c)
  returned : ∀ {t c}, p.talk t = some (.done (.client (.ok c))) → ∃ later q a earlier,
    p.trace = later ++ ⟨t,q,a⟩ :: earlier ∧ deliveries (spell (⟨t,q,a⟩ :: earlier)) = [c]
  tainted : ∀ {later t c changed earlier}, p.trace = later ++ ⟨t,.taint c,changed⟩ :: earlier →
    (changed = true ↔ cacheOf earlier = .fresh c) ∧
      cacheOf (⟨t,.taint c,changed⟩ :: earlier) = if changed then .tainted else cacheOf earlier
  /-- A reset that has ended left the cache empty, and says whether there was a fresh client. -/
  reset : ∀ {t r}, p.talk t = some (.done (.dropped r)) → ∃ later dropped earlier,
    r = .ok dropped ∧ p.trace = later ++ ⟨t,.forget,dropped⟩ :: earlier ∧
      (dropped = true ↔ ∃ c, cacheOf earlier = .fresh c) ∧
      cacheOf (⟨t,.forget,dropped⟩ :: earlier) = .absent
  /-- Where attempts deliver new clients only, a call without a step before the one that gave a
  client up does not return it. -/
  gone : ∀ {later e earlier c t}, (deliveries p.trace).Nodup → p.trace = later ++ e :: earlier →
    cacheOf earlier = .fresh c → Retires e earlier → (∀ x ∈ e :: earlier, x.task ≠ t) →
      p.talk t ≠ some (.done (.client (.ok c)))

theorem Flights.length_deliveries_spell (h : Flights p stance) :
    (deliveries (spell p.trace)).length ≤ 1 := by
  by_cases hd : ∃ t c, stance t = .delivered c
  · obtain ⟨t,c,hd⟩ := hd
    simp [h.delivered hd]
  · cases hc : p.state.cache.client? with
    | some c => simp [h.fresh (Cache.client?_eq_some_iff.mp hc)]
    | none => simp [h.barren hc fun t c hdc => hd ⟨t,c,hdc⟩]

theorem CacheReply.client?_eq_some_iff {r : CacheReply} :
    r.client? = some c ↔ r = .client (.ok c) := by
  cases r with
  | client r => cases r <;> simp [client?, Except.toOption]
  | _ => simp [client?]

section Reachable
variable {calls : TaskId → Option CacheCall} {store : Store} {world : σ} {p : Pool σ CacheReply}

theorem exists_flights_of_reachable
    (hp : Pool.Reachable w (Pool.ofCacheCalls calls store world) p) :
    ∃ stance, Tracked flight CacheReply.Ends p stance ∧ Flights p stance :=
  exists_tracked_of_reachable (tracked_ofCacheCalls calls store world)
    (flights_ofCacheCalls calls store world) (fun ht hi he hm => hi.answered ht he hm)
    (fun _ _ hi => ⟨hi.cache,hi.attempting,hi.vacant,hi.atStart,hi.fresh,hi.delivered,hi.barren,
      hi.read,hi.reader,hi.got⟩) hp

/-- The stances when a part of a trace was the whole. -/
theorem exists_flights_of_trace (hp : Pool.Reachable w (Pool.ofCacheCalls calls store world) p)
    (h : p.trace = later ++ earlier) :
    ∃ (p' : Pool σ CacheReply) (stance : TaskId → Flight),
      Tracked flight CacheReply.Ends p' stance ∧ Flights p' stance ∧ p'.trace = earlier := by
  obtain ⟨p',hp',htrace⟩ := Pool.exists_reachable_of_trace hp rfl h
  obtain ⟨stance,ht,hi⟩ := exists_flights_of_reachable hp'
  exact ⟨p',stance,ht,hi,htrace⟩

/-- The stance of the task of an event, and of the others, when it was answered. -/
theorem exists_moves_of_trace (hp : Pool.Reachable w (Pool.ofCacheCalls calls store world) p)
    (h : p.trace = later ++ e :: earlier) :
    ∃ (p' : Pool σ CacheReply) (stance : TaskId → Flight) (ψ : Flight),
      Tracked flight CacheReply.Ends p' stance ∧ Flights p' stance ∧ p'.trace = earlier ∧
        Flight.Moves (stance e.task) e.request e.answer ψ := by
  obtain ⟨p',next,s,hp',htrace,htalk,-⟩ := Pool.exists_answer_of_trace hp rfl h
  obtain ⟨stance,ht,hi⟩ := exists_flights_of_reachable hp'
  obtain ⟨ψ,hm,-⟩ := ht.follows htalk e.answer
  exact ⟨p',stance,ψ,ht,hi,htrace,hm⟩

theorem eq_of_attempting (hp : Pool.Reachable w (Pool.ofCacheCalls calls store world) p)
    (h : p.trace = later ++ earlier) (ht : Attempting t earlier) (hu : Attempting u earlier) :
    t = u := by
  obtain ⟨p',stance,htracked,hi,rfl⟩ := exists_flights_of_trace hp h
  exact htracked.eq_of_holding (by rw [hi.attempting.mpr hu]; rfl)
    (by rw [hi.attempting.mpr ht]; rfl)

theorem not_fresh_of_startConnect (hp : Pool.Reachable w (Pool.ofCacheCalls calls store world) p)
    {settings : Platform.Settings} {a : Unit}
    (h : p.trace = later ++ ⟨t,.startConnect settings,a⟩ :: earlier) :
    (cacheOf earlier).client? = none ∧ ∀ u, ¬ Attempting u earlier := by
  obtain ⟨p',stance,ψ,ht,hi,rfl,hm⟩ := exists_moves_of_trace hp h
  have hclear : stance t = .clear := by cases hm; assumption
  refine ⟨?_,fun u hu => ?_⟩
  · rw [← hi.cache]
    exact hi.vacant (by rw [hclear]; trivial)
  · have hconnecting := hi.attempting.mpr hu
    have heq : u = t := ht.eq_of_holding (by rw [hclear]; rfl) (by rw [hconnecting]; rfl)
    rw [heq, hclear] at hconnecting
    cases hconnecting

theorem cacheOf_failed_eq (hp : Pool.Reachable w (Pool.ofCacheCalls calls store world) p)
    {error : Platform.Error} (h : p.trace = later ++ ⟨t,.awaitConnect,.error error⟩ :: earlier) :
    Attempting t earlier ∧
      cacheOf (⟨t,.awaitConnect,.error error⟩ :: earlier) = cacheAtStart t earlier := by
  obtain ⟨p',stance,ψ,ht,hi,rfl,hm⟩ := exists_moves_of_trace hp h
  have hconnecting : stance t = .connecting := by cases hm; assumption
  exact ⟨hi.attempting.mp hconnecting,hi.cache.symm.trans (hi.atStart hconnecting).symm⟩

theorem deliveries_spell_of_read (hp : Pool.Reachable w (Pool.ofCacheCalls calls store world) p)
    (h : p.trace = later ++ earlier) (hread : ⟨t,.cached,some c⟩ ∈ spell earlier) :
    deliveries (spell earlier) = [c] ∧ ∀ {r}, p.talk t = some (.done r) → r = .client (.ok c) := by
  refine ⟨?_,fun {r} hdone => ?_⟩
  · obtain ⟨p',stance,ht,hi,rfl⟩ := exists_flights_of_trace hp h
    exact hi.read hread
  · obtain ⟨stance,ht,hi⟩ := exists_flights_of_reachable hp
    have hmem : ⟨t,.cached,some c⟩ ∈ p.trace := by
      rw [h]
      exact List.mem_append_right _ (mem_of_mem_spell hread)
    have hend : stance t = .idle r.client? := ht.follows hdone
    rw [← CacheReply.client?_eq_some_iff]
    rcases hi.reader hmem with hidle | hholding
    · exact Flight.idle.inj (hend.symm.trans hidle)
    · cases hend.symm.trans hholding

/-- A call that returns a client came by it in the spell in which this client was delivered. -/
theorem exists_spell_of_returned (hp : Pool.Reachable w (Pool.ofCacheCalls calls store world) p)
    (h : p.talk t = some (.done (.client (.ok c)))) : ∃ later q a earlier,
    p.trace = later ++ ⟨t,q,a⟩ :: earlier ∧ deliveries (spell (⟨t,q,a⟩ :: earlier)) = [c] := by
  obtain ⟨stance,ht,hi⟩ := exists_flights_of_reachable hp
  have hend : stance t = .idle (some c) := ht.follows h
  exact hi.got (by rw [hend]; rfl)

theorem tainted_iff_fresh (hp : Pool.Reachable w (Pool.ofCacheCalls calls store world) p)
    {changed : Bool} (h : p.trace = later ++ ⟨t,.taint c,changed⟩ :: earlier) :
    (changed = true ↔ cacheOf earlier = .fresh c) ∧
      cacheOf (⟨t,.taint c,changed⟩ :: earlier) =
        if changed then .tainted else cacheOf earlier := by
  obtain ⟨p',next,s,hp',rfl,-,ha⟩ := Pool.exists_answer_of_trace hp rfl h
  obtain ⟨stance,ht,hi⟩ := exists_flights_of_reachable hp'
  have hchanged : changed = (p'.state.cache.taint c).1 := by
    simp only [State.answer, State.reply, Option.map_some, Option.some.injEq, Prod.mk.injEq] at ha
    exact ha.1.symm
  rw [cacheOf, Request.cacheAfter, ← hi.cache, hchanged, Cache.taint]
  split <;> simp [*]

/-- Emptying the cache tells whether there was a fresh client in it. -/
theorem dropped_iff_fresh (hp : Pool.Reachable w (Pool.ofCacheCalls calls store world) p)
    {dropped : Bool} (h : p.trace = later ++ ⟨t,.forget,dropped⟩ :: earlier) :
    dropped = true ↔ ∃ c, cacheOf earlier = .fresh c := by
  obtain ⟨p',next,s,hp',rfl,-,ha⟩ := Pool.exists_answer_of_trace hp rfl h
  obtain ⟨stance,-,hi⟩ := exists_flights_of_reachable hp'
  have hdropped : dropped = p'.state.cache.client?.isSome := by
    simp only [State.answer, State.reply, Option.map_some, Option.some.injEq, Prod.mk.injEq] at ha
    exact ha.1.symm
  rw [hdropped, ← hi.cache, Option.isSome_iff_exists]
  exact exists_congr fun c => Cache.client?_eq_some_iff

/-- Only resets answer that they have dropped a client or none, and those have emptied the cache. -/
theorem exists_forget_of_reset (hp : Pool.Reachable w (Pool.ofCacheCalls calls store world) p)
    {r : Except Error Bool} (h : p.talk t = some (.done (.dropped r))) :
    ∃ later dropped earlier, r = .ok dropped ∧ p.trace = later ++ ⟨t,.forget,dropped⟩ :: earlier ∧
      (dropped = true ↔ ∃ c, cacheOf earlier = .fresh c) ∧
      cacheOf (⟨t,.forget,dropped⟩ :: earlier) = .absent := by
  obtain ⟨x,hx,hlead⟩ := Pool.leads_of_reachable hp rfl h
  obtain ⟨call,-,rfl⟩ := Option.map_eq_some_iff.mp hx
  cases call with
  | getOrConnect settings =>
    obtain ⟨_,he⟩ := hlead.exists_of_map
    cases he
  | taint client =>
    obtain ⟨_,he⟩ := hlead.exists_of_map
    cases he
  | reset =>
    obtain ⟨_,_,_,htrace,hobtain⟩ := Leads.of_ask_done (q := .join .connect .exclusive) hlead
    obtain ⟨_,_,_,rfl,hforget⟩ := Leads.of_ask_done (q := .obtain .connect) hobtain
    obtain ⟨later,dropped,_,rfl,hleave⟩ := Leads.of_ask_done (q := .forget) hforget
    obtain ⟨_,_,_,rfl,hdone⟩ := Leads.of_ask_done (q := .leave .connect) hleave
    cases hdone.of_done
    rw [List.append_assoc, List.append_assoc] at htrace
    exact ⟨_,dropped,_,rfl,htrace,dropped_iff_fresh hp htrace,rfl⟩

theorem ne_returned_of_retired (hp : Pool.Reachable w (Pool.ofCacheCalls calls store world) p)
    (hdistinct : (deliveries p.trace).Nodup) (h : p.trace = later ++ e :: earlier)
    (hfresh : cacheOf earlier = .fresh c) (hr : Retires e earlier)
    (hafter : ∀ x ∈ e :: earlier, x.task ≠ t) :
    p.talk t ≠ some (.done (.client (.ok c))) := by
  intro hdone
  obtain ⟨front,q,a,back,htrace,hgot⟩ := exists_spell_of_returned hp hdone
  obtain ⟨between,rfl,rfl⟩ := exists_between_of_append (htrace.symm.trans h)
    fun hx => hafter _ hx rfl
  -- The client was delivered once before it was given up and once behind that.
  -- Behind the event that gave the client up, only another delivery could have brought it back.
  have hlate : c ∈ deliveries (front ++ ⟨t,q,a⟩ :: between) := by
    have hbetween : c ∈ deliveries (⟨t,q,a⟩ :: between) :=
      mem_deliveries_of_spell_append hr (by rw [List.cons_append, hgot]; exact .head _)
    rw [deliveries, List.filterMap_append]
    exact List.mem_append_right _ hbetween
  have hearly : c ∈ deliveries (e :: earlier) := by
    have hcut : p.trace = (front ++ ⟨t,q,a⟩ :: between ++ [e]) ++ earlier := by simpa using h
    obtain ⟨p',stance',-,hi',rfl⟩ := exists_flights_of_trace hp hcut
    have hspell := hi'.fresh (hi'.cache.trans hfresh)
    have hearlier := mem_deliveries_of_spell (hspell ▸ List.mem_singleton_self c)
    rw [deliveries, ← List.singleton_append, List.filterMap_append]
    exact List.mem_append_right _ hearlier
  rw [h, deliveries, List.filterMap_append] at hdistinct
  exact (List.nodup_append.mp hdistinct).2.2 c hlate c hearly rfl

/-- Whatever calls ask for the client, taint clients and reset the cache, and in whatever order
their steps come: one attempt at a time, only while there is no fresh client, and a failed one
leaves the cache as it was; one client at most in each spell, which is the one that everybody finds
or returns; a taint hits exactly the fresh client; a reset empties the cache; and no call that
starts after a client was given up returns it, if attempts deliver new clients only. -/
theorem single_flight (calls : TaskId → Option CacheCall) (store : Store) (world : σ)
    {p : Pool σ CacheReply} (hp : Pool.Reachable w (Pool.ofCacheCalls calls store world) p) :
    SingleFlight p where
  cache := by
    obtain ⟨stance,-,hi⟩ := exists_flights_of_reachable hp
    exact hi.cache
  one := eq_of_attempting hp
  start := not_fresh_of_startConnect hp
  failed := cacheOf_failed_eq hp
  succeeded h := by
    obtain ⟨p',stance,-,hi,rfl⟩ := exists_flights_of_trace hp h
    exact hi.length_deliveries_spell
  read := deliveries_spell_of_read hp
  returned := exists_spell_of_returned hp
  tainted := tainted_iff_fresh hp
  reset := exists_forget_of_reset hp
  gone := ne_returned_of_retired hp

end Reachable

/-- A task that taints the first client, and others that ask for the client. -/
def sampleCacheCalls : TaskId → Option CacheCall
  | 1 => some (.taint 0)
  | _ => some (.getOrConnect {})

def sampleFlightsStart : Pool Script CacheReply :=
  .ofCacheCalls sampleCacheCalls {} { now := ⟨⟨60,.zero⟩,0⟩ }

/-- Tasks 0, 1 and 2 after each other. -/
def sampleFlights : Pool Script CacheReply :=
  ((sampleFlightsStart.advance Script.world 0 (CacheCall.getOrConnect {}).talk).advance
    Script.world 1 (CacheCall.taint 0).talk).advance Script.world 2 (CacheCall.getOrConnect {}).talk

/-- The task behind the taint does not come by the client that was tainted. -/
theorem single_flight_sample : deliveries sampleFlights.trace = [1,0] ∧
    sampleFlights.talk 2 ≠ some (.done (.client (.ok 0))) := by
  have hreach : Pool.Reachable Script.world sampleFlightsStart sampleFlights :=
    ((Pool.reachable_advance rfl).trans (Pool.reachable_advance rfl)).trans
      (Pool.reachable_advance rfl)
  have hdeliveries : deliveries sampleFlights.trace = [1,0] := rfl
  have htrace : sampleFlights.trace = sampleFlights.trace.take 8 ++
      ⟨1,.taint 0,true⟩ :: sampleFlights.trace.drop 9 := rfl
  refine ⟨hdeliveries,(single_flight _ _ _ hreach).gone (by rw [hdeliveries]; decide) htrace rfl
    ?_ ?_⟩
  · decide +kernel
  · decide +kernel

end WorkloadLogin.Service
