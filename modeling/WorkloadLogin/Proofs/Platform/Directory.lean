import Mathlib.Data.Finset.Card
import Mathlib.Data.Finset.Dedup
import WorkloadLogin.Gateway
import WorkloadLogin.Proofs.Last
import WorkloadLogin.Proofs.Service.CrossGates
import WorkloadLogin.Proofs.Service.Progress

/-! # Records of a directory

A directory may hold any number of records with one GUID. The last of them answers every lookup and
the others are as good as absent, so an earlier record neither admits an instance nor keeps one out.
-/
namespace WorkloadLogin.Platform
variable {α : Type} {kind : Kind} {guid key : String} {d : Directory} {e : Error}

def Kind.guidOf : (kind : Kind) → kind.Record → String
  | .app => App.guid
  | .org => Org.guid
  | .space => Space.guid

namespace Directory

def records (d : Directory) : (kind : Kind) → List kind.Record
  | .app => d.apps
  | .org => d.orgs
  | .space => d.spaces

/-- The GUIDs that records of a kind have, each once. -/
def guids (d : Directory) (kind : Kind) : Finset String :=
  ((d.records kind).map kind.guidOf).toFinset

/-! ## Lookups -/

theorem lastWith_eq_some_iff {keyOf : α → String} {xs : List α} {x : α} :
    lastWith keyOf key xs = some x ↔ LastOf (fun y => keyOf y = key) xs x :=
  (lastOf_iff_find? fun _ => beq_iff_eq).symm

theorem lastWith_eq_none_iff {keyOf : α → String} {xs : List α} :
    lastWith keyOf key xs = none ↔ ∀ x ∈ xs, keyOf x ≠ key := by
  simp [lastWith]

theorem found_ok_iff {r : Option kind.Record} {record : kind.Record} :
    found kind guid r = .ok record ↔ r = some record := by
  cases r <;> simp [found]

theorem found_error_iff {r : Option kind.Record} :
    found kind guid r = .error e ↔ e = .notFound kind guid ∧ r = none := by
  cases r <;> simp [found, eq_comm]

theorem lookup_eq (d : Directory) (kind : Kind) (guid : String) :
    d.lookup kind guid = found kind guid (lastWith kind.guidOf guid (d.records kind)) := by
  cases kind <;> rfl

theorem lookup_ok_iff {record : kind.Record} :
    d.lookup kind guid = .ok record ↔
      LastOf (fun r => kind.guidOf r = guid) (d.records kind) record := by
  rw [lookup_eq, found_ok_iff, lastWith_eq_some_iff]

theorem lookup_error_iff :
    d.lookup kind guid = .error e ↔
      e = .notFound kind guid ∧ ∀ r ∈ d.records kind, kind.guidOf r ≠ guid := by
  rw [lookup_eq, found_error_iff, lastWith_eq_none_iff]

/-! ## Counts -/

theorem nodup_eraseDups (xs : List String) : xs.eraseDups.Nodup := by
  cases xs with
  | nil => simp
  | cons x xs =>
    rw [List.eraseDups_cons, List.nodup_cons]
    refine ⟨?_,nodup_eraseDups _⟩
    simp
termination_by xs.length
decreasing_by
  exact Nat.lt_succ_of_le (List.length_filter_le _ _)

theorem length_eraseDups (xs : List String) : xs.eraseDups.length = xs.toFinset.card := by
  have hsame : xs.eraseDups.toFinset = xs.toFinset := by
    ext x
    simp
  rw [← hsame, List.toFinset_card_of_nodup (nodup_eraseDups xs)]

theorem counts_eq (d : Directory) :
    d.counts = ((d.guids .app).card,(d.guids .org).card,(d.guids .space).card) := by
  simp only [counts, length_eraseDups]
  rfl

end Directory

/-! ## Cross-checks -/

open Service
variable {τ : Type} {p : Http.Peer τ} {task : TaskId} {client : ClientId} {role : Role}
  {identity : Identity} {connection : Option Connection} {u v : Surroundings τ}

/-- The last records under the identifiers of an identity agree with it. -/
structure Directory.Vouches (d : Directory) (identity : Identity) : Prop where
  app : ∃ app, LastOf (fun a => a.guid = identity.appId) d.apps app ∧
    app.spaceGuid = identity.spaceId ∧ 0 < app.instances
  org : ∃ org ∈ d.orgs, org.guid = identity.orgId
  space : ∃ space, LastOf (fun s => s.guid = identity.spaceId) d.spaces space ∧
    space.organizationGuid = identity.orgId

/-- A directory answers from its records and stays as it is. -/
theorem world_lookup_ok_iff {record : kind.Record} (h : u.connector = .directory d) :
    (Surroundings.world p).lookup client kind guid u = (.ok record,v) ↔
      LastOf (fun r => kind.guidOf r = guid) (d.records kind) record ∧ v = u := by
  have hanswer : (Surroundings.world p).lookup client kind guid u = (d.lookup kind guid,u) := by
    simp only [Surroundings.world, Surroundings.lookup, h]
  rw [hanswer, Prod.mk.injEq, Directory.lookup_ok_iff, eq_comm (a := u)]

theorem corroborated_iff (h : u.connector = .directory d) :
    (∃ after, Corroborated (Surroundings.world p) client role identity connection u after) ↔
      Allowed role identity connection ∧ d.Vouches identity := by
  constructor
  · rintro ⟨after,hallowed,app,org,space,v,w,hfirst,hsecond,hthird,hagrees⟩
    obtain ⟨happ,rfl⟩ := (world_lookup_ok_iff h).mp hfirst
    obtain ⟨horg,rfl⟩ := (world_lookup_ok_iff h).mp hsecond
    obtain ⟨hspace,rfl⟩ := (world_lookup_ok_iff h).mp hthird
    refine ⟨hallowed,?_,?_,?_⟩
    · exact ⟨app,happ,hagrees.app_spaceGuid,hagrees.app_instances⟩
    · exact ⟨org,horg.mem,horg.holds⟩
    · exact ⟨space,hspace,hagrees.space_organizationGuid⟩
  · rintro ⟨hallowed,⟨app,happ,hspaceGuid,hinstances⟩,horg,⟨space,hspace,horganization⟩⟩
    obtain ⟨org,horg⟩ := exists_lastOf_iff.mpr horg
    have hagrees : Agrees identity app org space :=
      ⟨happ.holds,hspaceGuid,hinstances,horg.holds,hspace.holds,horganization⟩
    exact ⟨u,hallowed,app,org,space,u,u,(world_lookup_ok_iff h).mpr ⟨happ,rfl⟩,
      (world_lookup_ok_iff h).mpr ⟨horg,rfl⟩,(world_lookup_ok_iff h).mpr ⟨hspace,rfl⟩,hagrees⟩

/-- A cross-check against a directory ends: it accepts, or it rejects. -/
theorem crossCheck_against {s : State (Surroundings τ)} (h : s.world.connector = .directory d) :
    ∃ r t, outcome? (Surroundings.world p) task (crossCheck client role identity connection) s =
        some (r,t) ∧
      (r = .ok () ↔ Allowed role identity connection ∧ d.Vouches identity) ∧
      (r ≠ .ok () → ∃ rejection, r = .error (.rejected rejection)) := by
  obtain ⟨r,t,hrun⟩ : Ends (Surroundings.world p) task
    (crossCheck client role identity connection) s := ends_crossCheck ..
  refine ⟨r,t,hrun,?_,?_⟩
  · rw [← corroborated_iff h]
    constructor
    · rintro rfl
      obtain ⟨after,hcorroborated,-⟩ := outcome?_crossCheck_ok_iff.mp hrun
      exact ⟨after,hcorroborated⟩
    · rintro ⟨after,hcorroborated⟩
      have haccepted : outcome? (Surroundings.world p) task
          (crossCheck client role identity connection) s = some (.ok (),_) :=
        outcome?_crossCheck_ok_iff.mpr ⟨after,hcorroborated,rfl⟩
      exact congrArg Prod.fst (Option.some.inj (hrun.symm.trans haccepted))
  · intro hr
    obtain ⟨asked,-,hjudged⟩ := judges_crossCheck r t hrun
    cases r with
    | ok _ => exact absurd rfl hr
    | error e =>
      obtain ⟨g,before,after,-,-,⟨rejection,-,rfl⟩,-⟩ := hjudged.stopsAt
      exact ⟨rejection,rfl⟩

/-- The last record with a GUID is the one that a lookup gives, and without any the GUID is not
found; GUIDs are counted once. A cross-check against a directory accepts an allowed identity exactly
when these last records vouch for it. -/
theorem last_record_counts :
    (∀ (d : Directory) (kind : Kind) (guid : String) (record : kind.Record),
      d.lookup kind guid = .ok record ↔
        LastOf (fun r => kind.guidOf r = guid) (d.records kind) record) ∧
    (∀ (d : Directory) (kind : Kind) (guid : String) (e : Error),
      d.lookup kind guid = .error e ↔
        e = .notFound kind guid ∧ ∀ r ∈ d.records kind, kind.guidOf r ≠ guid) ∧
    (∀ (d : Directory) (kind : Kind) (guid : String) (record : kind.Record),
      d.lookup kind guid = .ok record → kind.guidOf record = guid) ∧
    (∀ d : Directory,
      d.counts = ((d.guids .app).card,(d.guids .org).card,(d.guids .space).card)) ∧
    ∀ {τ : Type} (p : Http.Peer τ) (task : TaskId) (client : ClientId) (role : Role)
      (identity : Identity) (connection : Option Connection) (d : Directory)
      (s : State (Surroundings τ)), s.world.connector = .directory d →
        ∃ r t, outcome? (Surroundings.world p) task
            (crossCheck client role identity connection) s = some (r,t) ∧
          (r = .ok () ↔ Allowed role identity connection ∧ d.Vouches identity) ∧
          (r ≠ .ok () → ∃ rejection, r = .error (.rejected rejection)) := by
  refine ⟨fun _ _ _ _ => Directory.lookup_ok_iff,fun _ _ _ _ => Directory.lookup_error_iff,
    ?_,Directory.counts_eq,fun _ _ _ _ _ _ _ _ hs => crossCheck_against hs⟩
  intro d kind guid record hrecord
  exact (Directory.lookup_ok_iff.mp hrecord).holds

/-- The first application and the first space stand behind later records. -/
def staleDirectory : Directory where
  apps := [⟨"app","old","gone",0⟩,⟨"app","new","space",2⟩]
  orgs := [⟨"org","Org"⟩]
  spaces := [⟨"space","old","elsewhere"⟩,⟨"space","new","org"⟩]

/-- The same records with the applications in the other order. -/
def revivedDirectory : Directory := { staleDirectory with apps := staleDirectory.apps.reverse }

def checkedAgainst (d : Directory) : State (Surroundings Unit) where
  world := { now := ⟨⟨0,0⟩,0⟩, connector := .directory d, peer := () }

theorem last_record_counts_stale :
    staleDirectory.lookup .app "app" = .ok ⟨"app","new","space",2⟩ ∧
    (∃ t, outcome? (Surroundings.world .unreachable) 0
      (crossCheck 0 { disableIpMatching := true } ⟨"i","org","space","app",""⟩ none)
        (checkedAgainst staleDirectory) = some (.ok (),t)) ∧
    ∃ rejection t, outcome? (Surroundings.world .unreachable) 0
      (crossCheck 0 { disableIpMatching := true } ⟨"i","org","space","app",""⟩ none)
        (checkedAgainst revivedDirectory) = some (.error (.rejected rejection),t) := by
  have hlast : staleDirectory.lookup .app "app" = .ok ⟨"app","new","space",2⟩ :=
    (last_record_counts.1 _ .app _ _).mpr ⟨[⟨"app","old","gone",0⟩],[],rfl,rfl,by simp⟩
  have hallowed : Allowed { disableIpMatching := true } ⟨"i","org","space","app",""⟩ none :=
    ⟨.inl rfl,.inl rfl,.inl rfl,.inl rfl,.inl rfl⟩
  have hvouches : staleDirectory.Vouches ⟨"i","org","space","app",""⟩ :=
    ⟨⟨_,Directory.lookup_ok_iff.mp hlast,rfl,by decide⟩,⟨_,List.mem_cons_self,rfl⟩,
      ⟨⟨"space","new","org"⟩,⟨[⟨"space","old","elsewhere"⟩],[],rfl,rfl,by simp⟩,rfl⟩⟩
  have hrevived : ¬ revivedDirectory.Vouches ⟨"i","org","space","app",""⟩ := by
    rintro ⟨⟨app,happ,hspace,-⟩,-,-⟩
    have hold : LastOf (fun a => a.guid = "app") revivedDirectory.apps ⟨"app","old","gone",0⟩ :=
      ⟨[⟨"app","new","space",2⟩],[],rfl,rfl,by simp⟩
    cases happ.unique hold
    exact absurd hspace (by decide)
  obtain ⟨r,t,hrun,haccepts,-⟩ := last_record_counts.2.2.2.2 .unreachable 0 0
    { disableIpMatching := true } ⟨"i","org","space","app",""⟩ none _
    (checkedAgainst staleDirectory) rfl
  obtain ⟨r',t',hrun',haccepts',hrejects⟩ := last_record_counts.2.2.2.2 .unreachable 0 0
    { disableIpMatching := true } ⟨"i","org","space","app",""⟩ none _
    (checkedAgainst revivedDirectory) rfl
  obtain rfl := haccepts.mpr ⟨hallowed,hvouches⟩
  obtain ⟨rejection,rfl⟩ := hrejects fun hr' => hrevived (haccepts'.mp hr').2
  exact ⟨hlast,⟨t,hrun⟩,rejection,t',hrun'⟩

end WorkloadLogin.Platform
