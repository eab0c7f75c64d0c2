import Mathlib.Data.List.Basic
import Mathlib.Order.Basic
import WorkloadLogin.Proofs.Service.Agreement
import WorkloadLogin.Proofs.Service.LockOrder

/-! # Calls do not deadlock

A queue is fair: whoever joins stands behind all that asked before, so that a reader waits behind a
writer that waits itself. Hence a call can wait for calls that hold nothing yet. The ladder still
gives every waiting call a rank above all it waits for: places in the connection queue come before
places in the configuration queue, and in one queue the order is that of the places.
-/
namespace WorkloadLogin.Service
variable {σ ρ : Type} {w : World σ} {task other t u : TaskId} {lock : Lock} {q : Request}
  {access : Access} {queue : Queue}

/-! ## Places in a queue -/

namespace Queue

/-- The place of `other` is before that of `task`. -/
def Ahead (queue : Queue) (other task : TaskId) : Prop :=
  ∃ before access after, queue = before ++ ⟨task,access⟩ :: after ∧ other ∈ before.map Ticket.task

def position (queue : Queue) (task : TaskId) : Nat := (queue.map Ticket.task).idxOf task

theorem position_lt_length (h : ⟨task,access⟩ ∈ queue) : queue.position task < queue.length := by
  have hmem : task ∈ queue.map Ticket.task := List.mem_map.mpr ⟨_,h,rfl⟩
  simpa [position] using List.idxOf_lt_length_iff.mpr hmem

theorem Ahead.position_lt (h : queue.Ahead other task) (hq : queue.Distinct) :
    queue.position other < queue.position task := by
  obtain ⟨before,access,after,rfl,hmem⟩ := h
  have hnot : task ∉ before.map Ticket.task := by
    intro htask
    rw [Distinct, List.map_append, List.nodup_append] at hq
    exact hq.2.2 _ htask _ (List.mem_cons_self ..) rfl
  have hother := List.idxOf_lt_length_iff.mpr hmem
  simp only [position, List.map_append, List.map_cons]
  rw [List.idxOf_append_of_mem hmem, List.idxOf_append_of_notMem hnot, List.idxOf_cons_self]
  omega

theorem Ahead.mem (h : queue.Ahead other task) : ∃ access, ⟨other,access⟩ ∈ queue := by
  obtain ⟨before,_,after,rfl,hmem⟩ := h
  obtain ⟨⟨_,access⟩,hticket,rfl⟩ := List.mem_map.mp hmem
  exact ⟨access,List.mem_append_left _ hticket⟩

/-- Only the first place is ahead of nobody else, and it holds the lock. -/
theorem exists_ahead (h : ⟨task,access⟩ ∈ queue) (hnot : queue.holds task = false) :
    ∃ other, queue.Ahead other task := by
  obtain ⟨before,after,rfl⟩ := List.append_of_mem h
  cases before with
  | nil => simp [holds] at hnot
  | cons first before => exact ⟨first.task,first :: before,access,after,rfl,by simp⟩

/-- Whoever holds a lock is ahead of all that wait for it. -/
theorem ahead_of_holds (h : ⟨task,access⟩ ∈ queue) (hnot : queue.holds task = false)
    (hother : queue.holds other = true) : queue.Ahead other task := by
  have hne : other ≠ task := by
    rintro rfl
    rw [hnot] at hother
    cases hother
  obtain ⟨before,after,rfl⟩ := List.append_of_mem h
  refine ⟨before,access,after,rfl,?_⟩
  rcases holds_iff.mp hother with ⟨a,rest,heq⟩ | ⟨front,back,heq,hshared⟩
  · cases before with
    | nil =>
      cases heq
      exact absurd rfl hne
    | cons first before =>
      cases heq
      simp
  · rcases List.append_eq_append_iff.mp heq with ⟨between,rfl,hsplit⟩ | ⟨between,rfl,hsplit⟩
    · cases between with
      | nil =>
        cases hsplit
        exact absurd rfl hne
      | cons first between =>
        -- a place among shared ones only would hold the lock itself
        obtain ⟨rfl,-⟩ := List.cons.inj hsplit
        have htask : access = .shared := hshared ⟨task,access⟩ (by simp)
        subst htask
        have hholds : Queue.holds task (before ++ ⟨task,.shared⟩ :: after) = true :=
          holds_iff.mpr (.inr ⟨before,after,rfl,fun b hb => hshared b (by simp [hb])⟩)
        exact absurd (hnot.symm.trans hholds) nofun
    · cases between with
      | nil =>
        cases hsplit
        exact absurd rfl hne
      | cons first between =>
        cases hsplit
        simp

end Queue

/-! ## Who waits for whom -/

namespace Pool

/-- The task has asked for a lock that its place in the queue does not hold yet. -/
def Waits (p : Pool σ ρ) (task : TaskId) (lock : Lock) : Prop :=
  (∃ next, p.talk task = some (.ask (.obtain lock) next)) ∧
    (p.state.queue lock).holds task = false

/-- The task waits for a lock that the other one holds or has asked for before it. -/
def WaitsFor (p : Pool σ ρ) (task other : TaskId) : Prop :=
  ∃ lock, p.Waits task lock ∧ (p.state.queue lock).Ahead other task

def Unfinished (p : Pool σ ρ) (task : TaskId) : Prop :=
  ∃ q next, p.talk task = some (.ask q next)

/-- A request of some task can be answered. -/
def CanStep (w : World σ) (p : Pool σ ρ) : Prop :=
  ∃ task q next a s, p.talk task = some (.ask q next) ∧
    State.answer w task q p.state = some (a, s)

end Pool

/-- Whatever does not wait for a lock or for the platform is answered. -/
theorem exists_answer {s : State σ}
    (hlock : ∀ lock, q = .obtain lock → (s.queue lock).holds task = true)
    (hconnect : q = .awaitConnect → (w.awaitConnect s.world).isSome = true) :
    ∃ a t, State.answer w task q s = some (a, t) := by
  have hreply : ∃ a t, State.reply w task q s = some (a, t) := by
    cases q with
    | obtain lock =>
      have hheld := hlock lock rfl
      exact ⟨(),s,by simp [State.reply, hheld]⟩
    | awaitConnect =>
      obtain ⟨⟨r,world⟩,hended⟩ := Option.isSome_iff_exists.mp (hconnect rfl)
      exact ⟨r,{ s with world := world },by simp [State.reply, hended]⟩
    | readRole name =>
      simp only [State.reply, State.stored]
      split <;> exact ⟨_,_,rfl⟩
    | readConfig =>
      simp only [State.reply, State.stored]
      split <;> exact ⟨_,_,rfl⟩
    | storeConfig c =>
      simp only [State.reply, State.stored]
      split <;> exact ⟨_,_,rfl⟩
    | _ => exact ⟨_,_,rfl⟩
  obtain ⟨a,t,h⟩ := hreply
  exact ⟨a,_,Option.map_eq_some_iff.mpr ⟨_,h,rfl⟩⟩

/-! ## Calls on their rungs -/

def AbsentOutside (p : Pool σ Reply) (stance : TaskId → Rung) : Prop :=
  ∀ t, p.talk t = none → stance t = .outside

structure Climbs (p : Pool σ Reply) (stance : TaskId → Rung) : Prop where
  tracked : Tracked ladder (fun _ ψ => ψ = Rung.outside) p stance
  absent : AbsentOutside p stance

theorem AbsentOutside.answered {p : Pool σ Reply} {stance : TaskId → Rung} {a : q.Answer}
    {next : Talk Reply} {s : State σ} {ψ : Rung} (h : AbsentOutside p stance) :
    AbsentOutside (p.answered task q a next s) (Function.update stance task ψ) := by
  intro t ht
  by_cases htask : t = task
  · subst htask
    simp [Pool.answered] at ht
  · rw [Function.update_of_ne htask]
    exact h t (by simpa [Pool.answered, htask] using ht)

theorem exists_climbs_of_reachable {calls : TaskId → Option Call} {store : Store} {world : σ}
    {p : Pool σ Reply} (hp : Pool.Reachable w (Pool.ofCalls calls store world) p) :
    ∃ stance, Climbs p stance := by
  have hstart : Tracked ladder (fun _ ψ => ψ = Rung.outside) (Pool.ofCalls calls store world)
      fun _ => Rung.outside := .ofCalls calls store world follows_call_ladder fun _ => rfl
  have hreach : ∃ stance, Tracked ladder (fun _ ψ => ψ = Rung.outside) p stance ∧
      AbsentOutside p stance :=
    exists_tracked_of_reachable hstart (fun _ _ => rfl) (fun _ hi _ _ => hi.answered)
      (fun _ _ hi => hi) hp
  obtain ⟨stance,htracked,habsent⟩ := hreach
  exact ⟨stance,htracked,habsent⟩

namespace Climbs
variable {p : Pool σ Reply} {stance : TaskId → Rung}

theorem mem_queue (h : Climbs p stance) :
    ⟨t,access⟩ ∈ p.state.queue lock ↔
      (stance t).place lock = .waiting access ∨ (stance t).place lock = .holding access :=
  (h.tracked.lined lock).mem t access

theorem outside_of_done (h : Climbs p stance) {r : Reply} (ht : p.talk t = some (.done r)) :
    stance t = .outside := h.tracked.follows ht

theorem unfinished (h : Climbs p stance) (ht : stance t ≠ .outside) : p.Unfinished t := by
  cases htalk : p.talk t with
  | none => exact absurd (h.absent t htalk) ht
  | some x =>
    cases x with
    | done r => exact absurd (h.outside_of_done htalk) ht
    | ask q next => exact ⟨q,next,htalk⟩

theorem unfinished_of_mem (h : Climbs p stance) (ht : ⟨t,access⟩ ∈ p.state.queue lock) :
    p.Unfinished t := by
  refine h.unfinished fun hout => ?_
  rw [h.mem_queue, hout] at ht
  rcases ht with hw | hh
  · cases hw
  · cases hh

theorem waiting_of_waits (h : Climbs p stance) (hw : p.Waits t lock) :
    (∃ a, stance t = .atConfig a ∧ lock = .config) ∨
      ∃ a, stance t = .atConnect a ∧ lock = .connect := by
  obtain ⟨⟨next,htalk⟩,-⟩ := hw
  obtain ⟨ψ,hm,-⟩ := h.tracked.follows htalk ()
  generalize stance t = φ at hm
  cases hm with
  | obtainConfig a => exact .inl ⟨a,rfl,rfl⟩
  | obtainConnect a => exact .inr ⟨a,rfl,rfl⟩
  | lockFree _ hq => exact hq.elim

theorem mem_of_waits (h : Climbs p stance) (hw : p.Waits t lock) :
    ∃ access, ⟨t,access⟩ ∈ p.state.queue lock := by
  rcases h.waiting_of_waits hw with ⟨a,ht,rfl⟩ | ⟨a,ht,rfl⟩
  · exact ⟨a,h.mem_queue.mpr (.inl (by rw [ht]; rfl))⟩
  · exact ⟨.exclusive,h.mem_queue.mpr (.inl (by rw [ht]; rfl))⟩

/-- Whoever stands in the connection queue has the configuration lock. -/
theorem not_waits_config (h : Climbs p stance) (ht : ⟨t,access⟩ ∈ p.state.queue .connect) :
    ¬ p.Waits t .config := by
  intro hw
  rcases h.waiting_of_waits hw with ⟨a,hstance,-⟩ | ⟨a,-,hlock⟩
  · rw [h.mem_queue, hstance] at ht
    rcases ht with hplace | hplace
    · cases hplace
    · cases hplace
  · cases hlock

/-! ### Ranks -/

/-- Whoever a task waits for has a smaller rank. -/
def rank (p : Pool σ Reply) (stance : TaskId → Rung) (t : TaskId) : Nat :=
  match stance t with
  | .atConfig _ => (p.state.queue .connect).length + (p.state.queue .config).position t + 1
  | .atConnect _ => (p.state.queue .connect).position t + 1
  | _ => 0

theorem rank_lt (h : Climbs p stance) (hw : p.WaitsFor t u) :
    rank p stance u < rank p stance t := by
  obtain ⟨lock,hwaits,hahead⟩ := hw
  have hbefore := hahead.position_lt (h.tracked.lined lock).distinct
  obtain ⟨access,hmem⟩ := hahead.mem
  rcases h.waiting_of_waits hwaits with ⟨a,ht,rfl⟩ | ⟨a,ht,rfl⟩
  · cases hu : stance u with
    | atConfig b => simp only [rank, ht, hu]; omega
    | atConnect b =>
      have hconnect : ⟨u,.exclusive⟩ ∈ p.state.queue .connect :=
        h.mem_queue.mpr (.inl (by rw [hu]; rfl))
      have hlength := Queue.position_lt_length hconnect
      simp only [rank, ht, hu]
      omega
    | _ => simp only [rank, ht, hu]; omega
  · cases hu : stance u with
    | atConfig b =>
      rw [h.mem_queue, hu] at hmem
      rcases hmem with hplace | hplace
      · cases hplace
      · cases hplace
    | atConnect b => simp only [rank, ht, hu]; omega
    | _ => simp only [rank, ht, hu]; omega

theorem rank_lt_of_transGen (h : Climbs p stance) (hw : Relation.TransGen p.WaitsFor t u) :
    rank p stance u < rank p stance t := by
  induction hw with
  | single hw => exact h.rank_lt hw
  | tail _ hw ih => exact Nat.lt_trans (h.rank_lt hw) ih

/-! ### Progress -/

theorem exists_free (h : Climbs p stance) (ht : p.Unfinished t) :
    ∃ u, p.Unfinished u ∧ ∀ lock, ¬ p.Waits u lock := by
  -- by induction on the rank: whoever is ahead of a waiting task has a smaller one
  induction hn : rank p stance t using Nat.strongRecOn generalizing t with
  | _ n ih =>
    by_cases hfree : ∀ lock, ¬ p.Waits t lock
    · exact ⟨t,ht,hfree⟩
    · simp only [not_forall, not_not] at hfree
      obtain ⟨lock,hw⟩ := hfree
      obtain ⟨access,hmem⟩ := h.mem_of_waits hw
      obtain ⟨u,hahead⟩ := Queue.exists_ahead hmem hw.2
      obtain ⟨b,hu⟩ := hahead.mem
      have hlt := h.rank_lt ⟨lock,hw,hahead⟩
      exact ih _ (hn ▸ hlt) (h.unfinished_of_mem hu) rfl

/-- A pool with an unfinished task can step, or is waiting for the platform. -/
theorem canStep_or (h : Climbs p stance) (ht : p.Unfinished t) :
    p.CanStep w ∨ w.awaitConnect p.state.world = none ∧
      ∃ task next, p.talk task = some (.ask .awaitConnect next) := by
  obtain ⟨u,⟨q,next,htalk⟩,hfree⟩ := h.exists_free ht
  have hlock : ∀ lock, q = .obtain lock → (p.state.queue lock).holds u = true := by
    rintro lock rfl
    by_contra hnot
    exact hfree lock ⟨⟨next,htalk⟩,by simpa using hnot⟩
  cases hconnect : w.awaitConnect p.state.world with
  | some ended =>
    obtain ⟨a,s,ha⟩ := exists_answer (w := w) hlock fun _ => by rw [hconnect]; rfl
    exact .inl ⟨u,q,next,a,s,htalk,ha⟩
  | none =>
    by_cases hq : q = .awaitConnect
    · subst hq
      exact .inr ⟨rfl,u,next,htalk⟩
    · obtain ⟨a,s,ha⟩ := exists_answer (w := w) hlock fun he => absurd he hq
      exact .inl ⟨u,q,next,a,s,htalk,ha⟩

/-! ### Holders -/

/-- A holder of the configuration lock, and whatever it waits for, does not wait for that lock; a
holder of the connection lock waits for nothing. -/
theorem not_waits_of_holds (h : Climbs p stance) (hheld : (p.state.queue lock).holds u = true)
    (hreach : Relation.ReflTransGen p.WaitsFor u t) : ¬ p.Waits t lock := by
  have hself : ¬ p.Waits u lock := fun hw => by
    rw [hw.2] at hheld
    cases hheld
  cases lock with
  | config =>
    -- the chain goes on in the connection queue, where everybody has this lock
    induction hreach with
    | refl => exact hself
    | tail _ hw ih =>
      obtain ⟨lock,hwaits,hahead⟩ := hw
      cases lock with
      | config => exact absurd hwaits ih
      | connect =>
        obtain ⟨_,hmem⟩ := hahead.mem
        exact h.not_waits_config hmem
  | connect =>
    rcases Relation.ReflTransGen.cases_head hreach with rfl | ⟨v,⟨lock,hwaits,-⟩,-⟩
    · exact hself
    · cases lock with
      | connect => exact absurd hwaits hself
      | config =>
        obtain ⟨_,hmem⟩ := Queue.mem_of_holds hheld
        exact absurd hwaits (h.not_waits_config hmem)

end Climbs

/-! ## No deadlock -/

/-- What keeps the calls of a pool from waiting for each other. -/
structure DeadlockFree (w : World σ) (p : Pool σ Reply) : Prop where
  /-- Attempts that have their outcome leave nothing to wait for. -/
  progress : ∀ t, p.Unfinished t → (w.awaitConnect p.state.world).isSome = true → p.CanStep w
  /-- If nothing can be answered, a task waits for the platform. -/
  stalled : ∀ t, p.Unfinished t → ¬ p.CanStep w →
    ∃ task next, p.talk task = some (.ask .awaitConnect next)
  /-- Nobody that the holder of a lock waits for, itself included, waits for that lock. -/
  holder : ∀ t u lock, p.Waits t lock → (p.state.queue lock).holds u = true →
    p.WaitsFor t u ∧ ∀ v, Relation.ReflTransGen p.WaitsFor u v → ¬ p.Waits v lock
  acyclic : ∀ t, ¬ Relation.TransGen p.WaitsFor t t
  /-- A call that has returned neither holds a lock nor waits for one. -/
  returned : ∀ t r, p.talk t = some (.done r) → ∀ lock access, ⟨t,access⟩ ∉ p.state.queue lock

/-- Logins, renewals and writes, in any number and whatever the order of their steps, do not come
to a state in which they wait for each other. -/
theorem calls_never_deadlock (calls : TaskId → Option Call) (store : Store) (world : σ)
    {p : Pool σ Reply} (hp : Pool.Reachable w (Pool.ofCalls calls store world) p) :
    DeadlockFree w p := by
  obtain ⟨stance,h⟩ := exists_climbs_of_reachable hp
  constructor
  case progress =>
    intro t ht hended
    rcases h.canStep_or ht with hstep | ⟨hnone,-⟩
    · exact hstep
    · rw [hnone] at hended
      cases hended
  case stalled =>
    intro t ht hstuck
    rcases h.canStep_or ht with hstep | ⟨-,hawaits⟩
    · exact absurd hstep hstuck
    · exact hawaits
  case holder =>
    intro t u lock hw hheld
    obtain ⟨access,hmem⟩ := h.mem_of_waits hw
    have hahead := Queue.ahead_of_holds hmem hw.2 hheld
    exact ⟨⟨lock,hw,hahead⟩,fun v hreach => h.not_waits_of_holds hheld hreach⟩
  case acyclic =>
    intro t hcycle
    exact Nat.lt_irrefl _ (h.rank_lt_of_transGen hcycle)
  case returned =>
    intro t r htalk lock access hmem
    obtain ⟨q,next,hask⟩ := h.unfinished_of_mem hmem
    cases htalk.symm.trans hask

def sampleWrite : Call :=
  .writeConfig
    { identityCaCertificates := ["ca"], apiAddress := "http://api.test", username := "u" }

/-- A write between two logins. -/
def sampleJamCalls : TaskId → Option Call
  | 0 | 2 => some sampleCall
  | 1 => some sampleWrite
  | _ => none

def sampleJamStart : Pool Script Reply :=
  .ofCalls sampleJamCalls sampleState.store { sampleScript with slow := true }

/-- The first login waits for the platform, the write for that login, and the second login, which
came last, for the write. -/
def sampleJam : Pool Script Reply :=
  ((sampleJamStart.advance Script.world 0 sampleCall.talk).advance Script.world 1
    sampleWrite.talk).advance Script.world 2 sampleCall.talk

def sampleJamReleased : Pool Script Reply :=
  sampleJam.shifted sampleState.store.roles sampleJam.state.world.release

theorem calls_never_deadlock_sample : sampleJam.Waits 2 .config ∧ sampleJam.WaitsFor 2 0 ∧
    ¬ sampleJam.Waits 0 .config ∧ sampleJamReleased.CanStep Script.world := by
  have hreach : Pool.Reachable Script.world sampleJamStart sampleJam :=
    ((Pool.reachable_advance rfl).trans (Pool.reachable_advance rfl)).trans
      (Pool.reachable_advance rfl)
  have hreleased : Pool.Reachable Script.world sampleJamStart sampleJamReleased :=
    hreach.tail (.surroundings _ _)
  have hfree := calls_never_deadlock sampleJamCalls _ _ hreach
  have hwaits : sampleJam.Waits 2 .config := ⟨⟨_,rfl⟩,by decide +kernel⟩
  have hheld : (sampleJam.state.queue .config).holds 0 = true := by decide +kernel
  obtain ⟨hfor,hnot⟩ := hfree.holder 2 0 .config hwaits hheld
  exact ⟨hwaits,hfor,hnot 0 .refl,
    (calls_never_deadlock sampleJamCalls _ _ hreleased).progress 2 ⟨_,_,rfl⟩ rfl⟩

end WorkloadLogin.Service
