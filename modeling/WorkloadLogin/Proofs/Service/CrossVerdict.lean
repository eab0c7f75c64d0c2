import WorkloadLogin.Proofs.Service.CrossGates
import WorkloadLogin.Proofs.Service.Progress
import WorkloadLogin.Proofs.Service.Requests

/-! # The verdict of a cross-check

Fourteen conditions stand in a row: the address, four bounds, and what three records have to say.
A cross-check ends whatever the platform answers. It passes exactly when every condition is met,
and otherwise it rejects in the words of the first that is not, with no lookup behind it.
-/
namespace WorkloadLogin.Service
open Text
variable {σ α : Type} {w : World σ} {task : TaskId} {client : ClientId} {role : Role}
  {identity : Identity} {connection : Option Connection} {world : σ} {s t : State σ}

/-! ## Conditions -/

/-- Two texts name one address, whichever family they write it in. -/
def SameAddress (remote named : String) : Prop :=
  ∃ a b, Constraint.remoteIp? remote = some a ∧ Ip.parse? (trimBlank named.toList) = some b ∧
    a.canonical = b.canonical

theorem matchesIp_iff {remote named : String} :
    Constraint.matchesIp remote named = true ↔ SameAddress remote named := by
  unfold Constraint.matchesIp SameAddress
  cases Constraint.remoteIp? remote with
  | none => simp
  | some a => cases Ip.parse? (trimBlank named.toList) <;> simp

namespace CrossGate

/-- The condition that a gate asks for, when the platform is in the state `world` at first. -/
def Met (w : World σ) (client : ClientId) (role : Role) (identity : Identity)
    (connection : Option Connection) (world : σ) : CrossGate → Prop
  | .address => role.disableIpMatching = true ∨
    ∃ c, connection = some c ∧ SameAddress c.remoteAddress identity.ipAddress
  | .bound id => id.bound role = [] ∨ id.value identity ∈ id.bound role
  | .lookup kind => ∃ record, (confirming w client identity world kind).1 = .ok record
  | .agreement kind id => ∃ record, (confirming w client identity world kind).1 = .ok record ∧
    stated? kind record id = some (id.value identity)
  | .instances =>
    ∃ app, (confirming w client identity world .app).1 = .ok app ∧ 0 < app.instances

/-- What is said where a condition is not met. -/
inductive Words (w : World σ) (client : ClientId) (role : Role) (identity : Identity) (world : σ) :
    CrossGate → String → Prop
  | address : Words w client role identity world .address "no matching IP address"
  | bound (id : BoundId) : Words w client role identity world (.bound id)
      (id.name ++ " " ++ id.value identity ++ " doesn't match role constraints of " ++
        quoteList (id.bound role))
  | lookup {kind : Platform.Kind} {e : Platform.Error}
      (h : (confirming w client identity world kind).1 = .error e) :
      Words w client role identity world (.lookup kind) e.message
  | agreement {kind : Platform.Kind} {record : kind.Record} {id : BoundId} {value : String}
      (hr : (confirming w client identity world kind).1 = .ok record)
      (hs : stated? kind record id = some value) :
      Words w client role identity world (.agreement kind id)
        ("cert " ++ id.name ++ " " ++ id.value identity ++
          " doesn't match API's expected one of " ++ value)
  | instances : Words w client role identity world .instances
      "app doesn't have any live instances"

/-- The record that a condition reads. -/
def record? : CrossGate → Option Platform.Kind
  | .agreement kind _ => some kind
  | .instances => some .app
  | _ => none

/-- The record that a condition asks the platform for. -/
def kind? : CrossGate → Option Platform.Kind
  | .lookup kind => some kind
  | _ => none

theorem Refuses.words {g : CrossGate} {r : Rejection}
    (h : g.Refuses w client role identity connection world r) :
    g.Words w client role identity world r.message := by
  cases h with
  | address => exact .address
  | bound => exact .bound _
  | lookup h => exact .lookup h
  | agreement hr hs => exact .agreement hr hs
  | instances => exact .instances

theorem Refuses.not_met {g : CrossGate} {r : Rejection}
    (h : g.Refuses w client role identity connection world r) :
    ¬ g.Met w client role identity connection world := by
  intro hmet
  cases h with
  | address hm h =>
    rcases hmet with hdisabled | ⟨c,hc,hsame⟩
    · exact absurd (hm.symm.trans hdisabled) nofun
    · exact absurd ((h c hc).symm.trans (matchesIp_iff.mpr hsame)) nofun
  | bound hb h =>
    rcases hmet with hnone | hmem
    · exact hb hnone
    · exact h hmem
  | lookup h =>
    obtain ⟨record,hr⟩ := hmet
    cases h.symm.trans hr
  | agreement hr hs hne =>
    obtain ⟨record,hr',hs'⟩ := hmet
    cases hr.symm.trans hr'
    cases hs.symm.trans hs'
    exact hne rfl
  | instances hr hi =>
    obtain ⟨app,hr',hlive⟩ := hmet
    cases hr.symm.trans hr'
    omega

/-- Every record in the row says the identifiers that it is asked about. -/
theorem exists_stated {kind : Platform.Kind} {id : BoundId} (hg : agreement kind id ∈ order)
    (record : kind.Record) : ∃ value, stated? kind record id = some value := by
  cases kind <;> cases id <;> first | exact ⟨_,rfl⟩ | exact absurd hg (by decide)

theorem met_of_not_refuses {g : CrossGate} (hg : g ∈ order)
    (hrecord : ∀ kind, g.record? = some kind →
      (CrossGate.lookup kind).Met w client role identity connection world)
    (h : ∀ r, ¬ g.Refuses w client role identity connection world r) :
    g.Met w client role identity connection world := by
  cases g with
  | address =>
    by_contra hmet
    obtain ⟨hm,hno⟩ := not_or.mp hmet
    refine h _ (.address (Bool.eq_false_iff.mpr hm) fun c hc => ?_)
    exact Bool.eq_false_iff.mpr fun hsame => hno ⟨c,hc,matchesIp_iff.mp hsame⟩
  | bound id =>
    by_contra hmet
    obtain ⟨hb,hno⟩ := not_or.mp hmet
    exact h _ (.bound hb hno)
  | lookup kind =>
    cases hr : (confirming w client identity world kind).1 with
    | error e => exact absurd (.lookup hr) (h _)
    | ok record => exact ⟨record,hr⟩
  | agreement kind id =>
    obtain ⟨record,hr⟩ := hrecord kind rfl
    obtain ⟨value,hs⟩ := exists_stated hg record
    by_cases hvalue : value = id.value identity
    · exact ⟨record,hr,hvalue ▸ hs⟩
    · exact absurd (.agreement hr hs hvalue) (h _)
  | instances =>
    obtain ⟨app,hr⟩ := hrecord .app rfl
    by_cases hi : app.instances ≤ 0
    · exact absurd (.instances hr hi) (h _)
    · exact ⟨app,hr,by omega⟩

/-- A record is looked up before anything is read in it. -/
theorem lookup_mem_of_record {before after : List CrossGate} (h : order = before ++ after)
    {g : CrossGate} (hg : g ∈ before) {kind : Platform.Kind} (hkind : g.record? = some kind) :
    .lookup kind ∈ before := by
  have hrow : ∀ n ≤ order.length, ∀ g ∈ order.take n, ∀ kind ∈ g.record?,
      .lookup kind ∈ order.take n := by decide
  have hlength : before.length ≤ order.length := by simp [h]
  have htake : order.take before.length = before := by rw [h,List.take_left]
  have hat := hrow before.length hlength
  rw [htake] at hat
  exact hat g hg kind hkind

/-- While no gate has refused, every condition so far is met. -/
theorem met_of_passed {before after : List CrossGate} (h : order = before ++ after)
    (hpass : ∀ g ∈ before, ∀ r, ¬ g.Refuses w client role identity connection world r) :
    ∀ g ∈ before, g.Met w client role identity connection world := by
  have hmem : ∀ g ∈ before, g ∈ order := fun g hg => h ▸ List.mem_append_left _ hg
  intro g hg
  refine met_of_not_refuses (hmem g hg) (fun kind hkind => ?_) (hpass g hg)
  have hlookup := lookup_mem_of_record h hg hkind
  exact met_of_not_refuses (hmem _ hlookup) nofun (hpass _ hlookup)

theorem flatMap_does (gates : List CrossGate) :
    gates.flatMap does = (gates.filterMap kind?).map .lookup := by
  induction gates with
  | nil => rfl
  | cons g gates ih => cases g <;> simp [does,kind?,ih,List.filterMap_cons]

end CrossGate

/-! ## Lookups -/

/-- The state after lookups that left the platform in `world`; nothing else has changed. -/
def State.confirmed (s : State σ) (client : ClientId) (identity : Identity)
    (kinds : List Platform.Kind) (world : σ) : State σ :=
  { s with log := (kinds.map (confirmation client identity)).reverse ++ s.log, world := world }

/-- A task that only confirms an identity touches nothing but the log and the platform. -/
theorem exists_confirmed {x : Talk α} {a : α}
    (hx : Asks (fun q => ∃ kind, q = confirmation client identity kind) x)
    (h : settle w task x s = some (a,t)) :
    ∃ kinds world, t = s.confirmed client identity kinds world := by
  induction x generalizing s with
  | done b =>
    cases h
    exact ⟨[],t.world,rfl⟩
  | ask q next ih =>
    obtain ⟨⟨b,u⟩,hanswer,hrest⟩ := Option.bind_eq_some_iff.mp h
    obtain ⟨kinds,world,rfl⟩ := ih b (hx.2 b) hrest
    obtain ⟨kind,rfl⟩ := hx.1
    have hstep : ∃ world', u = s.confirmed client identity [kind] world' := by
      cases kind <;> (cases hanswer; exact ⟨_,rfl⟩)
    obtain ⟨world',rfl⟩ := hstep
    exact ⟨kind :: kinds,world,by simp [State.confirmed]⟩

theorem deeds_confirmations (kinds : List Platform.Kind) :
    deeds (kinds.map (confirmation client identity)) = kinds.map .lookup := by
  induction kinds with
  | nil => rfl
  | cons kind kinds ih =>
    have hone : (confirmation client identity kind).deed? = some (.lookup kind) := by
      cases kind <;> rfl
    simp [hone,ih]

/-- The lookups of a cross-check are those of the conditions that it has tried. -/
theorem kinds_of_deeds {kinds : List Platform.Kind} {gates : List CrossGate}
    (h : deeds (kinds.map (confirmation client identity)) = gates.flatMap CrossGate.does) :
    kinds = gates.filterMap CrossGate.kind? := by
  rw [deeds_confirmations,CrossGate.flatMap_does] at h
  exact (List.map_inj_right fun _ _ hkind => Deed.lookup.inj hkind).mp h

/-! ## The verdict -/

/-- A cross-check ends against every platform and changes nothing but what its lookups do there. It
passes exactly when the identity is corroborated, which is when all conditions are met, after all
three lookups. Otherwise the first condition in the row that is not met decides: the end is a
rejection in its words, and of the lookups those up to that condition have been made. -/
theorem crossCheck_decides (client : ClientId) (role : Role) (identity : Identity)
    (connection : Option Connection) (s : State σ) :
    ∃ (r : Except Error Unit) (kinds : List Platform.Kind) (world : σ),
      outcome? w task (crossCheck client role identity connection) s =
        some (r,s.confirmed client identity kinds world) ∧
      kinds <+: [.app,.org,.space] ∧
      (r = .ok () ↔ Corroborated w client role identity connection s.world world) ∧
      (r = .ok () ↔
        ∀ g ∈ CrossGate.order, g.Met w client role identity connection s.world) ∧
      (r = .ok () → kinds = [.app,.org,.space]) ∧
      (r ≠ .ok () → ∃ before g after rejection, CrossGate.order = before ++ g :: after ∧
        (∀ b ∈ before, b.Met w client role identity connection s.world) ∧
        ¬ g.Met w client role identity connection s.world ∧
        r = .error (.rejected rejection) ∧
        g.Words w client role identity s.world rejection.message ∧
        kinds = (before ++ [g]).filterMap CrossGate.kind?) := by
  obtain ⟨r,t,hrun⟩ : Ends w task (crossCheck client role identity connection) s :=
    ends_crossCheck ..
  obtain ⟨kinds,world,rfl⟩ := exists_confirmed (asks_crossCheck ..) hrun
  obtain ⟨asked,hlog,hjudged⟩ := judges_crossCheck r _ hrun
  obtain rfl := asked_unique hlog.symm
  refine ⟨r,kinds,world,hrun,?_⟩
  have hcorroborated : r = .ok () ↔
      Corroborated w client role identity connection s.world world := by
    constructor
    · rintro rfl
      obtain ⟨after,hc,hend⟩ := outcome?_crossCheck_ok_iff.mp hrun
      have hworld : world = after := congrArg State.world hend
      exact hworld ▸ hc
    · intro hc
      have hok : outcome? w task (crossCheck client role identity connection) s =
          some (.ok (),_) := outcome?_crossCheck_ok_iff.mpr ⟨world,hc,rfl⟩
      rw [hrun] at hok
      exact congrArg Prod.fst (Option.some.inj hok)
  cases r with
  | ok _ =>
    obtain ⟨hpass,hdone⟩ := hjudged.passes
    have hkinds : kinds = [.app,.org,.space] := kinds_of_deeds hdone
    have hmet := CrossGate.met_of_passed (List.append_nil CrossGate.order).symm fun g hg r hr =>
      hpass g hg _ ⟨r,hr,rfl⟩
    exact ⟨hkinds ▸ List.prefix_rfl,hcorroborated,⟨fun _ => hmet,fun _ => rfl⟩,fun _ => hkinds,
      absurd rfl⟩
  | error e =>
    obtain ⟨g,before,after,horder,hbefore,⟨rejection,hg,rfl⟩,hdone⟩ := hjudged.stopsAt
    rw [List.append_nil] at hdone
    have hkinds := kinds_of_deeds hdone
    have hmet := CrossGate.met_of_passed horder fun b hb r hr => hbefore b hb _ ⟨r,hr,rfl⟩
    have hmade : kinds <+: [.app,.org,.space] := by
      have hall : CrossGate.order.filterMap CrossGate.kind? = [.app,.org,.space] := rfl
      have hsplit : CrossGate.order = (before ++ [g]) ++ after := by simp [horder]
      rw [hsplit,List.filterMap_append,← hkinds] at hall
      exact ⟨_,hall⟩
    have hmem : g ∈ CrossGate.order := by simp [horder]
    exact ⟨hmade,hcorroborated,⟨nofun,fun hall => absurd (hall g hmem) hg.not_met⟩,nofun,
      fun _ => ⟨before,g,after,rejection,horder,hmet,hg.not_met,rfl,hg.words,hkinds⟩⟩

end WorkloadLogin.Service
