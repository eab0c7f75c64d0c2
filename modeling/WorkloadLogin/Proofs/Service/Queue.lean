import WorkloadLogin.Service.State

/-! # Places in the queue of a lock

A place that holds its lock holds it until it leaves, whoever joins or leaves meanwhile, and one
that asked for exclusive access holds the lock by itself.
-/
namespace WorkloadLogin.Service.Queue
variable {task other : TaskId} {access : Access} {q rest : Queue}

theorem sharedUpTo_iff :
    holds.sharedUpTo task q = true ↔ ∃ before after, q = before ++ ⟨task,.shared⟩ :: after ∧
      ∀ t ∈ before, t.access = .shared := by
  induction q with
  | nil => simp [holds.sharedUpTo]
  | cons head tail ih =>
    obtain ⟨id,access⟩ := head
    simp only [holds.sharedUpTo, Bool.and_eq_true, Bool.or_eq_true, beq_iff_eq, ih]
    constructor
    · rintro ⟨rfl,rfl | ⟨before,after,rfl,hb⟩⟩
      · exact ⟨[],tail,rfl,by simp⟩
      · exact ⟨⟨id,.shared⟩ :: before,after,rfl,by simpa using hb⟩
    · rintro ⟨before,after,heq,hb⟩
      cases before with
      | nil =>
        cases heq
        exact ⟨rfl,.inl rfl⟩
      | cons b before =>
        cases heq
        exact ⟨hb _ (List.mem_cons_self ..),
          .inr ⟨before,after,rfl,fun t ht => hb t (List.mem_cons_of_mem _ ht)⟩⟩

/-- The first place holds the lock, and so does one with shared access behind others with it. -/
theorem holds_iff :
    q.holds task = true ↔ (∃ access rest, q = ⟨task,access⟩ :: rest) ∨
      ∃ before after, q = before ++ ⟨task,.shared⟩ :: after ∧
        ∀ t ∈ before, t.access = .shared := by
  cases q with
  | nil => simp [holds]
  | cons head tail =>
    obtain ⟨id,access⟩ := head
    simp only [holds, Bool.or_eq_true, Bool.and_eq_true, beq_iff_eq, sharedUpTo_iff]
    constructor
    · rintro (rfl | ⟨rfl,before,after,rfl,hb⟩)
      · exact .inl ⟨access,tail,rfl⟩
      · exact .inr ⟨⟨id,.shared⟩ :: before,after,rfl,by simpa using hb⟩
    · rintro (⟨a,rest,heq⟩ | ⟨before,after,heq,hb⟩)
      · cases heq
        exact .inl rfl
      · cases before with
        | nil =>
          cases heq
          exact .inl rfl
        | cons b before =>
          cases heq
          exact .inr ⟨hb _ (List.mem_cons_self ..),before,after,rfl,
            fun t ht => hb t (List.mem_cons_of_mem _ ht)⟩

theorem mem_of_holds (h : q.holds task = true) : ∃ access, ⟨task,access⟩ ∈ q := by
  rcases holds_iff.mp h with ⟨access,rest,rfl⟩ | ⟨before,after,rfl,-⟩
  · exact ⟨access,List.mem_cons_self ..⟩
  · exact ⟨.shared,by simp⟩

theorem holds_append (h : q.holds task = true) : (q ++ rest).holds task = true := by
  rcases holds_iff.mp h with ⟨access,tail,rfl⟩ | ⟨before,after,rfl,hb⟩
  · exact holds_iff.mpr (.inl ⟨access,tail ++ rest,rfl⟩)
  · exact holds_iff.mpr (.inr ⟨before,after ++ rest,by simp,hb⟩)

theorem holds_leave (h : q.holds task = true) (hne : other ≠ task) :
    (q.leave other).holds task = true := by
  rcases holds_iff.mp h with ⟨access,tail,rfl⟩ | ⟨before,after,rfl,hb⟩
  · refine holds_iff.mpr (.inl ⟨access,tail.filter fun t => t.task != other,?_⟩)
    simp [leave, hne.symm]
  · refine holds_iff.mpr (.inr ⟨before.filter fun t => t.task != other,
      after.filter fun t => t.task != other,?_,fun t ht => hb t (List.mem_filter.mp ht).1⟩)
    simp [leave, hne.symm]

theorem mem_leave {t : Ticket} : t ∈ q.leave other ↔ t ∈ q ∧ t.task ≠ other := by
  simp [leave, List.mem_filter]

/-- Whether no task has two places. -/
def Distinct (q : Queue) : Prop := (q.map Ticket.task).Nodup

theorem Distinct.access_eq {a b : Access} (hq : q.Distinct) (ha : ⟨task,a⟩ ∈ q)
    (hb : ⟨task,b⟩ ∈ q) : a = b := by
  induction q with
  | nil => simp at ha
  | cons head tail ih =>
    obtain ⟨hnot,htail⟩ := List.nodup_cons.mp hq
    rcases List.mem_cons.mp ha with rfl | ha₁
    · rcases List.mem_cons.mp hb with heq | hb₁
      · cases heq
        rfl
      · exact (hnot (List.mem_map.mpr ⟨_,hb₁,rfl⟩)).elim
    · rcases List.mem_cons.mp hb with rfl | hb₁
      · exact (hnot (List.mem_map.mpr ⟨_,ha₁,rfl⟩)).elim
      · exact ih htail ha₁ hb₁

theorem Distinct.leave (hq : q.Distinct) : (q.leave other).Distinct :=
  List.Sublist.nodup (List.Sublist.map _ List.filter_sublist) hq

theorem Distinct.append (hq : q.Distinct) (h : ∀ a, ⟨task,a⟩ ∉ q) :
    Distinct (q ++ [⟨task,access⟩]) := by
  unfold Distinct
  rw [List.map_append, List.nodup_append]
  refine ⟨hq,by simp,?_⟩
  rintro _ ht _ hu rfl
  obtain ⟨⟨id,a⟩,hmem,rfl⟩ := List.mem_map.mp ht
  simp only [List.map_cons, List.map_nil, List.mem_singleton] at hu
  exact h a (hu ▸ hmem)

/-- No place holds the lock beside one with exclusive access. -/
theorem eq_of_holds_of_exclusive (hq : q.Distinct) (hmem : ⟨task,.exclusive⟩ ∈ q)
    (ht : q.holds task = true) (ho : q.holds other = true) : other = task := by
  obtain ⟨tail,rfl⟩ : ∃ tail, q = ⟨task,.exclusive⟩ :: tail := by
    rcases holds_iff.mp ht with ⟨access,tail,rfl⟩ | ⟨before,after,rfl,-⟩
    · exact ⟨tail,by rw [hq.access_eq (List.mem_cons_self ..) hmem]⟩
    · have hshared : Access.exclusive = .shared := hq.access_eq hmem (by simp)
      cases hshared
  rcases holds_iff.mp ho with ⟨access,rest,heq⟩ | ⟨before,after,heq,hb⟩
  · cases heq
    rfl
  · cases before with
    | nil => cases heq
    | cons b before =>
      cases heq
      cases hb _ (List.mem_cons_self ..)

end WorkloadLogin.Service.Queue
