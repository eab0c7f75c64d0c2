import WorkloadLogin.Proofs.Service.LoginGates
import WorkloadLogin.Proofs.Service.RenewalGates

/-! # Visits to the platform

A login or a renewal is turned back before the platform, or it arrives there and comes by a client.
Nothing else that either does touches the cache, but that a renewal taints its client when the
cross-check fails.
-/
namespace WorkloadLogin.Service
variable {σ α γ ε : Type} {w : World σ} {task : TaskId} {s t : State σ} {client : ClientId}
  {settings : Platform.Settings} {config : Config} {done : List Deed} {c : Credential}
  {request : LoginRequest} {connection : Option Connection} {reached : σ} {e : Error}

/-! ## Attempts to connect -/

/-- The settings of the attempts to connect that were made. -/
def attempts (done : List Deed) : List Platform.Settings :=
  done.filterMap fun
    | .connect settings => some settings
    | _ => none

theorem attempts_append (done done' : List Deed) :
    attempts (done ++ done') = attempts done ++ attempts done' := List.filterMap_append ..

/-- A deed that neither makes an attempt nor touches the cache. -/
def Deed.Calm : Deed → Prop
  | .connect _ | .keep _ | .taint _ | .forget => False
  | _ => True

theorem attempts_calm (h : ∀ d ∈ done, d.Calm) : attempts done = [] := by
  refine List.filterMap_eq_nil_iff.mpr fun d hd => ?_
  have hcalm := h d hd
  cases d <;> first | rfl | exact hcalm.elim

theorem cacheAfter_append (done done' : List Deed) (cache : Cache) :
    cacheAfter (done ++ done') cache = cacheAfter done' (cacheAfter done cache) :=
  List.foldl_append ..

theorem cacheAfter_calm (h : ∀ d ∈ done, d.Calm) (cache : Cache) :
    cacheAfter done cache = cache := by
  induction done with
  | nil => rfl
  | cons d done ih =>
    have hcalm := h d (List.mem_cons_self ..)
    have hd : d.cacheAfter cache = cache := by
      cases d <;> first | rfl | exact hcalm.elim
    change cacheAfter done (d.cacheAfter cache) = cache
    rw [hd]
    exact ih fun b hb => h b (List.mem_cons_of_mem _ hb)

theorem attempts_connecting {cache : Cache} {before : σ} :
    attempts (connecting w settings cache before) =
      if cache.client? = none then [settings] else [] := by
  unfold connecting
  split
  · rename_i hclient
    simp [hclient,attempts]
  · rename_i hclient _
    simp [hclient,attempts]
  · rename_i hclient _
    simp [hclient,attempts]

theorem Reaches.cacheAfter {cache : Cache} {before : σ}
    (h : Reaches w settings cache before client reached) :
    cacheAfter (connecting w settings cache before) cache = .fresh client := by
  cases h with
  | cached h => simp [connecting,h,Cache.client?,Service.cacheAfter]
  | connected hnone hawait => simp [connecting,hnone,hawait,Service.cacheAfter,Deed.cacheAfter]

/-- Without a success the cache stays as it is. -/
theorem cacheAfter_connecting {cache : Cache} {before : σ}
    (h : cache.client? = none → ∀ client after,
      w.awaitConnect (w.startConnect settings before) ≠ some (.ok client,after)) :
    cacheAfter (connecting w settings cache before) cache = cache := by
  unfold connecting
  split
  · rfl
  · rename_i hnone hawait
    exact absurd hawait (h hnone _ _)
  · rfl

/-! ## Visits -/

/-- The client that a call comes by at the platform: the fresh one, or one that it connects with the
stored configuration. -/
def Obtains (w : World σ) (s : State σ) (client : ClientId) : Prop :=
  ∃ config reached, s.store.config = some config ∧
    Reaches w config.platformSettings s.cache s.world client reached

/-- What a call has done that arrives at the platform under a condition. -/
inductive Visit (w : World σ) (s : State σ) (arrives : Prop) (done : List Deed) : Prop
  | turnedBack (ha : ¬ arrives) (hd : ∀ d ∈ done, d.Calm)
  | arrived {config : Config} {front back : List Deed} (ha : arrives)
      (hc : s.store.config = some config) (hf : ∀ d ∈ front, d.Calm) (hb : ∀ d ∈ back, d.Calm)
      (hd : done = front ++ (connecting w config.platformSettings s.cache s.world ++ back))

namespace Visit
variable {arrives : Prop}

theorem attempts_eq (h : Visit w s arrives done) (ha : arrives) (hn : s.cache.client? = none) :
    ∃ config, s.store.config = some config ∧ attempts done = [config.platformSettings] := by
  cases h with
  | turnedBack hno _ => exact absurd ha hno
  | @arrived config front back _ hc hf hb hd =>
    refine ⟨config,hc,?_⟩
    rw [hd,attempts_append,attempts_append,attempts_calm hf,attempts_calm hb,attempts_connecting,
      if_pos hn]
    rfl

theorem attempts_eq_nil (h : Visit w s arrives done) (hn : ¬ (arrives ∧ s.cache.client? = none)) :
    attempts done = [] := by
  cases h with
  | turnedBack _ hd => exact attempts_calm hd
  | arrived ha hc hf hb hd =>
    rw [hd,attempts_append,attempts_append,attempts_calm hf,attempts_calm hb,attempts_connecting,
      if_neg fun hnone => hn ⟨ha,hnone⟩]
    rfl

theorem of_attempt (h : Visit w s arrives done) (hs : settings ∈ attempts done) :
    arrives ∧ s.cache.client? = none ∧ ∃ config, s.store.config = some config ∧
      settings = config.platformSettings := by
  by_cases hmade : arrives ∧ s.cache.client? = none
  · obtain ⟨config,hconfig,hattempts⟩ := h.attempts_eq hmade.1 hmade.2
    rw [hattempts] at hs
    exact ⟨hmade.1,hmade.2,config,hconfig,List.mem_singleton.mp hs⟩
  · rw [h.attempts_eq_nil hmade] at hs
    cases hs

/-- An attempt that succeeds is how the client is come by. -/
theorem obtains_of_attempt (h : Visit w s arrives done) (hs : settings ∈ attempts done) {after : σ}
    (hawait : w.awaitConnect (w.startConnect settings s.world) = some (.ok client,after)) :
    Obtains w s client := by
  obtain ⟨-,hnone,config,hconfig,rfl⟩ := h.of_attempt hs
  exact ⟨config,after,hconfig,.connected hnone hawait⟩

/-- A visit that comes by a client leaves it fresh. -/
theorem cacheAfter_of_obtains (h : Visit w s arrives done) (ha : arrives)
    (ho : Obtains w s client) : cacheAfter done s.cache = .fresh client := by
  obtain ⟨config,reached,hc,hr⟩ := ho
  cases h with
  | turnedBack hno _ => exact absurd ha hno
  | arrived _ hc' hf hb hd =>
    cases hc.symm.trans hc'
    rw [hd,cacheAfter_append,cacheAfter_append,cacheAfter_calm hf,cacheAfter_calm hb,hr.cacheAfter]

theorem cacheAfter_unchanged (h : Visit w s arrives done)
    (hno : ∀ settings ∈ attempts done, ∀ client after,
      w.awaitConnect (w.startConnect settings s.world) ≠ some (.ok client,after)) :
    cacheAfter done s.cache = s.cache := by
  cases h with
  | turnedBack _ hd => exact cacheAfter_calm hd _
  | arrived _ hc hf hb hd =>
    rw [hd,cacheAfter_append,cacheAfter_append,cacheAfter_calm hf,cacheAfter_calm hb]
    refine cacheAfter_connecting fun hnone => hno _ ?_
    rw [hd,attempts_append,attempts_append,attempts_connecting,if_pos hnone]
    simp

/-- An attempt that fails leaves the cache as it was. -/
theorem cacheAfter_failed (h : Visit w s arrives done) (hs : settings ∈ attempts done)
    {f : Platform.Error} {after : σ}
    (hawait : w.awaitConnect (w.startConnect settings s.world) = some (.error f,after)) :
    cacheAfter done s.cache = s.cache := by
  obtain ⟨-,-,config,hconfig,rfl⟩ := h.of_attempt hs
  refine h.cacheAfter_unchanged fun settings' hs' client after' hok => ?_
  obtain ⟨-,-,config',hconfig',rfl⟩ := h.of_attempt hs'
  cases hconfig.symm.trans hconfig'
  cases hawait.symm.trans hok

/-- The client of an attempt that succeeds is kept at once. -/
theorem keeps (h : Visit w s arrives done) (hs : settings ∈ attempts done) {after : σ}
    (hawait : w.awaitConnect (w.startConnect settings s.world) = some (.ok client,after)) :
    [.connect settings,.keep client] <:+: done := by
  obtain ⟨-,hnone,config,hconfig,rfl⟩ := h.of_attempt hs
  cases h with
  | turnedBack _ hd =>
    rw [attempts_calm hd] at hs
    cases hs
  | @arrived config' front back _ hc _ _ hd =>
    cases hconfig.symm.trans hc
    refine ⟨front,back,?_⟩
    rw [hd,connecting,hnone,hawait,List.append_assoc]

end Visit

/-! ## Logins and renewals -/

/-- A login passes all that stands before the platform. -/
def LoginGate.Arrives (w : World σ) (s : State σ) (request : LoginRequest)
    (connection : Option Connection) : Prop :=
  ∀ g ∈ LoginGate.early, ∀ e, ¬ g.Refuses w s request connection e

def RenewalGate.Arrives (w : World σ) (s : State σ) (c : Credential)
    (connection : Option Connection) : Prop :=
  ∀ g ∈ RenewalGate.early, ∀ e, ¬ g.Refuses w s c connection e

/-- A renewal comes by a client, and the cross-check objects. -/
def RenewalGate.FailsCrossCheck (w : World σ) (s : State σ) (c : Credential)
    (connection : Option Connection) : Prop :=
  RenewalGate.Arrives w s c connection ∧
    ∃ g e, (RenewalGate.crossCheck g).Refuses w s c connection e

theorem CrossGate.does_calm (g : CrossGate) : ∀ d ∈ g.does, d.Calm := by
  cases g <;> simp [CrossGate.does,Deed.Calm]

theorem LoginGate.does_calm {g : LoginGate} (hg : g ≠ .connection) :
    ∀ d ∈ g.does w s, d.Calm := by
  cases g with
  | connection => exact absurd rfl hg
  | crossCheck g => exact g.does_calm
  | _ => simp [LoginGate.does,Deed.Calm]

theorem RenewalGate.does_calm {g : RenewalGate} (hg : g ≠ .connection) :
    ∀ d ∈ g.does w s, d.Calm := by
  cases g with
  | connection => exact absurd rfl hg
  | crossCheck g => exact g.does_calm
  | _ => simp [RenewalGate.does]

section Calm
variable {refuses : γ → ε → Prop} {does amends : γ → List Deed} {gates gates' : List γ}
  {r : Except ε α}

theorem calm_flatMap (h : ∀ g ∈ gates, ∀ d ∈ does g, d.Calm) :
    ∀ d ∈ gates.flatMap does, d.Calm := by
  intro d hd
  obtain ⟨g,hg,hd⟩ := List.mem_flatMap.mp hd
  exact h g hg d hd

theorem calm_of_judged (h : Judged refuses does amends gates r done)
    (hcalm : ∀ g ∈ gates, ∀ d ∈ does g ++ amends g, d.Calm) : ∀ d ∈ done, d.Calm := by
  intro d hd
  obtain ⟨g,hg,hd⟩ := h.mem hd
  exact hcalm g hg d (List.mem_append.mpr hd)

/-- Where the first part of a row is calm, all is calm until the second part is reached. -/
theorem left_or_reached (h : Judged refuses does amends (gates ++ gates') r done)
    (hcalm : ∀ g ∈ gates, ∀ d ∈ does g ++ amends g, d.Calm) :
    (¬ (∀ g ∈ gates, ∀ e, ¬ refuses g e) ∧ ∀ d ∈ done, d.Calm) ∨
      (∀ g ∈ gates, ∀ e, ¬ refuses g e) ∧ (∀ d ∈ gates.flatMap does, d.Calm) ∧
        ∃ rest, done = gates.flatMap does ++ rest ∧
          Judged refuses does amends gates' r rest := by
  rcases h.reaches with ⟨e,rfl,hleft⟩ | ⟨rest,hdone,hall,hright⟩
  · obtain ⟨g,before,after,hsplit,-,hg,-⟩ := hleft.stopsAt
    exact .inl ⟨fun hall => hall g (by simp [hsplit]) e hg,calm_of_judged hleft hcalm⟩
  · have hfront : ∀ g ∈ gates, ∀ d ∈ does g, d.Calm :=
      fun g hg d hd => hcalm g hg d (List.mem_append_left _ hd)
    exact .inr ⟨hall,calm_flatMap hfront,rest,hdone,hright⟩

end Calm

theorem LoginGate.Arrives.stored (h : LoginGate.Arrives w s request connection) :
    ∃ config, s.store.config = some config :=
  Option.ne_none_iff_exists'.mp fun hnone => h .config (by decide) _ (.config hnone)

theorem RenewalGate.Arrives.stored (h : RenewalGate.Arrives w s c connection) :
    ∃ config, s.store.config = some config :=
  Option.ne_none_iff_exists'.mp fun hnone => h .config (by decide) _ (.config hnone)

theorem LoginGate.does_connection (hc : s.store.config = some config) :
    LoginGate.connection.does w s = connecting w config.platformSettings s.cache s.world := by
  simp only [LoginGate.does,hc]

theorem RenewalGate.does_connection (hc : s.store.config = some config) :
    RenewalGate.connection.does w s = connecting w config.platformSettings s.cache s.world := by
  simp only [RenewalGate.does,hc]

theorem RenewalGate.Refuses.mem_late {g : CrossGate}
    (h : (RenewalGate.crossCheck g).Refuses w s c connection e) :
    RenewalGate.crossCheck g ∈ RenewalGate.late := by
  cases h with
  | crossCheck _ hg => exact List.mem_map_of_mem hg.mem_order

theorem RenewalGate.Refuses.obtains {g : CrossGate}
    (h : (RenewalGate.crossCheck g).Refuses w s c connection e) : ∃ client, Obtains w s client ∧
      (RenewalGate.crossCheck g).amends w s = [.taint client] := by
  cases h with
  | @crossCheck _ _ client reached _ hr _ =>
    obtain ⟨-,config,hconfig,hreaches⟩ := hr
    refine ⟨client,⟨config,reached,hconfig,hreaches⟩,?_⟩
    simp [RenewalGate.amends,hconfig,hreaches.clientAt?]

theorem visit_of_login {r : Except Error Credential}
    (h : Judged (LoginGate.Refuses w s request connection) (LoginGate.does w s) (fun _ => [])
      LoginGate.order r done) : Visit w s (LoginGate.Arrives w s request connection) done := by
  have hcalm : ∀ g ∈ LoginGate.early ++ LoginGate.late, ∀ d ∈ g.does w s ++ [], d.Calm := by
    intro g hg
    rw [List.append_nil]
    exact LoginGate.does_calm (by rintro rfl; revert hg; decide)
  rcases left_or_reached h fun g hg => hcalm g (List.mem_append_left _ hg) with
    ⟨hno,hdone⟩ | ⟨hall,hearly,rest,rfl,hright⟩
  · exact .turnedBack hno hdone
  · obtain ⟨config,hconfig⟩ := LoginGate.Arrives.stored hall
    cases hright with
    | refused _ =>
      have hnothing : ∀ d ∈ ([] : List Deed), d.Calm := by simp
      exact .arrived hall hconfig hearly hnothing (by rw [LoginGate.does_connection hconfig])
    | next _ hlate =>
      have hback := calm_of_judged hlate fun g hg => hcalm g (List.mem_append_right _ hg)
      exact .arrived hall hconfig hearly hback (by rw [LoginGate.does_connection hconfig])

/-- Behind the connection a renewal passes the whole cross-check, or it stops there and taints its
client. -/
theorem recheck_ends {r : Except Error Credential}
    (h : Judged (RenewalGate.Refuses w s c connection) (RenewalGate.does w s)
      (RenewalGate.amends w s) RenewalGate.late r done) :
    ((∀ g e, ¬ (RenewalGate.crossCheck g).Refuses w s c connection e) ∧ ∀ d ∈ done, d.Calm) ∨
      ∃ before g after e client, RenewalGate.late = before ++ .crossCheck g :: after ∧
        (RenewalGate.crossCheck g).Refuses w s c connection e ∧ r = .error e ∧
        Obtains w s client ∧
        (∀ d ∈ (before ++ [RenewalGate.crossCheck g]).flatMap (RenewalGate.does w s), d.Calm) ∧
        done = (before ++ [RenewalGate.crossCheck g]).flatMap (RenewalGate.does w s) ++
          [.taint client] := by
  have hcalm : ∀ g ∈ RenewalGate.late, ∀ d ∈ g.does w s, d.Calm :=
    fun g hg => RenewalGate.does_calm (by rintro rfl; revert hg; decide)
  cases r with
  | ok c' =>
    obtain ⟨hnone,rfl⟩ := h.passes
    exact .inl ⟨fun g e hg => hnone _ hg.mem_late e hg,calm_flatMap hcalm⟩
  | error e =>
    obtain ⟨g,before,after,hsplit,-,hg,rfl⟩ := h.stopsAt
    have hlate : g ∈ RenewalGate.late := by simp [hsplit]
    obtain ⟨x,-,rfl⟩ := List.mem_map.mp hlate
    obtain ⟨client,hobtains,hamends⟩ := hg.obtains
    refine .inr ⟨before,x,after,e,client,hsplit,hg,rfl,hobtains,calm_flatMap fun b hb => ?_,by
      rw [hamends]⟩
    refine hcalm b ?_
    rw [hsplit,List.append_cons]
    exact List.mem_append_left _ hb

/-- A renewal is a visit, and then the client is tainted if the cross-check fails. -/
theorem visit_of_renew {r : Except Error Credential}
    (h : Judged (RenewalGate.Refuses w s c connection) (RenewalGate.does w s)
      (RenewalGate.amends w s) RenewalGate.order r done) :
    (¬ RenewalGate.FailsCrossCheck w s c connection ∧
      Visit w s (RenewalGate.Arrives w s c connection) done) ∨
    RenewalGate.FailsCrossCheck w s c connection ∧ ∃ before g after e client,
      RenewalGate.order = before ++ .crossCheck g :: after ∧
      (RenewalGate.crossCheck g).Refuses w s c connection e ∧ r = .error e ∧
      Obtains w s client ∧
      Visit w s (RenewalGate.Arrives w s c connection)
        ((before ++ [RenewalGate.crossCheck g]).flatMap (RenewalGate.does w s)) ∧
      done = (before ++ [RenewalGate.crossCheck g]).flatMap (RenewalGate.does w s) ++
        [.taint client] := by
  have hearly : ∀ g ∈ RenewalGate.early, ∀ d ∈ g.does w s ++ g.amends w s, d.Calm := by
    simp [RenewalGate.early,RenewalGate.does,RenewalGate.amends]
  rcases left_or_reached h hearly with ⟨hno,hdone⟩ | ⟨hall,hfront,rest,hdone,hright⟩
  · exact .inl ⟨fun hfails => hno hfails.1,.turnedBack hno hdone⟩
  · obtain ⟨config,hconfig⟩ := RenewalGate.Arrives.stored hall
    have hvisit : ∀ back, (∀ d ∈ back, d.Calm) →
        Visit w s (RenewalGate.Arrives w s c connection)
          (RenewalGate.early.flatMap (RenewalGate.does w s) ++
            (RenewalGate.connection.does w s ++ back)) := by
      intro back hback
      exact .arrived hall hconfig hfront hback (by rw [RenewalGate.does_connection hconfig])
    rw [hdone]
    cases hright with
    | refused hrefused =>
      refine .inl ⟨?_,hvisit [] (by simp)⟩
      rintro ⟨-,g,e,hg⟩
      obtain ⟨client,⟨config',reached,hconfig',hreaches⟩,-⟩ := hg.obtains
      cases hrefused with
      | connection hc hunreachable =>
        cases hc.symm.trans hconfig'
        exact hreaches.not_unreachable hunreachable
    | next _ hlate =>
      rcases recheck_ends hlate with
        ⟨hnone,hcalm⟩ | ⟨before,g,after,e,client,hsplit,hg,rfl,hobtains,hcalm,rfl⟩
      · exact .inl ⟨fun hfails => hfails.2.elim fun g hg => hg.elim (hnone g),hvisit _ hcalm⟩
      · have hrow : (RenewalGate.early ++ .connection :: before ++
            [RenewalGate.crossCheck g]).flatMap (RenewalGate.does w s) =
            RenewalGate.early.flatMap (RenewalGate.does w s) ++
              (RenewalGate.connection.does w s ++
                (before ++ [RenewalGate.crossCheck g]).flatMap (RenewalGate.does w s)) := by
          simp only [List.append_assoc,List.cons_append,List.flatMap_append,List.flatMap_cons]
        refine .inr ⟨⟨hall,g,e,hg⟩,RenewalGate.early ++ .connection :: before,g,after,e,client,?_,
          hg,rfl,hobtains,?_,?_⟩
        · rw [RenewalGate.order,hsplit,List.append_assoc,List.cons_append]
        · rw [hrow]
          exact hvisit _ hcalm
        · rw [hrow]
          simp only [List.append_assoc]

end WorkloadLogin.Service
