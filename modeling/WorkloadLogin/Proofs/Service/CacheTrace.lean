import WorkloadLogin.Proofs.Service.Pool

/-! # What a trace tells of the cache

The requests of a trace determine the cache, and with it the attempts that are under way and the
spells: a spell lasts from one step that takes the cache out of freshness to the next.
-/
namespace WorkloadLogin.Service
variable {task t : TaskId} {q : Request} {a : q.Answer} {e : Event} {trace earlier : List Event}
  {c : ClientId}

/-- The cache as the requests of a trace leave it, from nothing cached. -/
def cacheOf : List Event → Cache
  | [] => .absent
  | e :: earlier => e.request.cacheAfter (cacheOf earlier)

/-- The task has started an attempt that has not ended. -/
def Attempting (t : TaskId) : List Event → Prop
  | [] => False
  | ⟨task,.startConnect _,_⟩ :: earlier => task = t ∨ Attempting t earlier
  | ⟨task,.awaitConnect,_⟩ :: earlier => task ≠ t ∧ Attempting t earlier
  | _ :: earlier => Attempting t earlier

/-- The cache in which the task last started an attempt. -/
def cacheAtStart (t : TaskId) : List Event → Cache
  | [] => .absent
  | ⟨task,.startConnect _,_⟩ :: earlier =>
    if task = t then cacheOf earlier else cacheAtStart t earlier
  | _ :: earlier => cacheAtStart t earlier

/-- The client of an attempt that succeeds. -/
def Event.delivery? : Event → Option ClientId
  | ⟨_,.awaitConnect,.ok client⟩ => some client
  | _ => none

/-- The clients of the attempts that succeeded, latest first. -/
def deliveries (trace : List Event) : List ClientId := trace.filterMap Event.delivery?

/-- The event takes the cache out of freshness. -/
def Retires (e : Event) (earlier : List Event) : Prop :=
  (cacheOf earlier).client? ≠ none ∧ (cacheOf (e :: earlier)).client? = none

instance (e : Event) (earlier : List Event) : Decidable (Retires e earlier) := instDecidableAnd

/-- The events since the last one that took the cache out of freshness. -/
def spell : List Event → List Event
  | [] => []
  | e :: earlier => if Retires e earlier then [] else e :: spell earlier

theorem attempting_cons (hs : ∀ settings, q ≠ .startConnect settings) (ha : q ≠ .awaitConnect) :
    Attempting t (⟨task,q,a⟩ :: trace) ↔ Attempting t trace := by
  cases q <;> first | rfl | exact absurd rfl (hs _) | exact absurd rfl ha

theorem attempting_cons_of_ne (h : task ≠ t) :
    Attempting t (⟨task,q,a⟩ :: trace) ↔ Attempting t trace := by
  cases q with
  | startConnect settings => simp [Attempting, h]
  | awaitConnect => simp [Attempting, h]
  | _ => rfl

theorem cacheAtStart_cons_of_ne (h : task ≠ t) :
    cacheAtStart t (⟨task,q,a⟩ :: trace) = cacheAtStart t trace := by
  cases q with
  | startConnect settings => exact if_neg h
  | _ => rfl

theorem spell_cons_of_not_retires (h : ¬ Retires e trace) : spell (e :: trace) = e :: spell trace :=
  if_neg h

theorem spell_cons_of_retires (h : Retires e trace) : spell (e :: trace) = [] := if_pos h

/-- What an event that gives up no client adds to the deliveries of its spell. -/
theorem deliveries_spell_cons (h : ¬ Retires e trace) :
    deliveries (spell (e :: trace)) = e.delivery?.toList ++ deliveries (spell trace) := by
  rw [spell_cons_of_not_retires h]
  unfold deliveries
  cases hd : e.delivery? <;> simp [hd]

/-- An event that neither touches the cache nor ends an attempt well adds nothing to its spell. -/
theorem deliveries_spell_calm (hc : q.cacheAfter (cacheOf trace) = cacheOf trace)
    (hd : (⟨task,q,a⟩ : Event).delivery? = none) :
    deliveries (spell (⟨task,q,a⟩ :: trace)) = deliveries (spell trace) := by
  have hr : ¬ Retires ⟨task,q,a⟩ trace := by
    rintro ⟨hbefore,hafter⟩
    rw [cacheOf, hc] at hafter
    exact hbefore hafter
  rw [deliveries_spell_cons hr, hd]
  rfl

theorem mem_of_mem_spell {trace : List Event} (h : e ∈ spell trace) : e ∈ trace := by
  induction trace with
  | nil => exact h
  | cons x rest ih =>
    unfold spell at h
    split at h
    · cases h
    · rcases List.mem_cons.mp h with rfl | hrest
      · exact List.mem_cons_self ..
      · exact List.mem_cons_of_mem _ (ih hrest)

/-- A spell does not reach back behind an event that took the cache out of freshness. -/
theorem mem_of_mem_spell_append {between : List Event} {x : Event} (hr : Retires e earlier)
    (h : x ∈ spell (between ++ e :: earlier)) : x ∈ between := by
  induction between with
  | nil => simp [spell_cons_of_retires hr] at h
  | cons y between ih =>
    rw [List.cons_append, spell] at h
    split at h
    · cases h
    · rcases List.mem_cons.mp h with rfl | hrest
      · exact List.mem_cons_self ..
      · exact List.mem_cons_of_mem _ (ih hrest)

theorem mem_deliveries_of_spell (h : c ∈ deliveries (spell trace)) : c ∈ deliveries trace := by
  obtain ⟨x,hx,hd⟩ := List.mem_filterMap.mp h
  exact List.mem_filterMap.mpr ⟨x,mem_of_mem_spell hx,hd⟩

theorem mem_deliveries_of_spell_append {between : List Event} (hr : Retires e earlier)
    (h : c ∈ deliveries (spell (between ++ e :: earlier))) : c ∈ deliveries between := by
  obtain ⟨x,hx,hd⟩ := List.mem_filterMap.mp h
  exact List.mem_filterMap.mpr ⟨x,mem_of_mem_spell_append hr hx,hd⟩

/-- An event behind a place in the trace is not one before it. -/
theorem exists_between_of_append {front back later earlier : List Event} {x e : Event}
    (h : front ++ x :: back = later ++ e :: earlier) (hx : x ∉ e :: earlier) :
    ∃ between, later = front ++ x :: between ∧ back = between ++ e :: earlier := by
  rcases List.append_eq_append_iff.mp h with ⟨middle,rfl,hback⟩ | ⟨middle,rfl,hback⟩
  · cases middle with
    | nil =>
      rw [List.nil_append] at hback
      exact absurd (hback ▸ List.mem_cons_self ..) hx
    | cons y between =>
      obtain ⟨rfl,rfl⟩ := List.cons.inj hback
      exact ⟨between,rfl,rfl⟩
  · exact absurd (hback ▸ List.mem_append_right _ (List.mem_cons_self ..)) hx

end WorkloadLogin.Service
