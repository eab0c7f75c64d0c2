import WorkloadLogin.Proofs.Encoding.TextOrder
import WorkloadLogin.Proofs.Entries
import WorkloadLogin.Proofs.Last
import WorkloadLogin.Proofs.Service.PlatformGates
import WorkloadLogin.Service.Script

/-! # What a store holds

A store is changed by edits of one role or of the configuration. Its roles stay in the order of
their names, each name once, so a store is told by which roles are in it. Under each name the last
edit of that name decides, before any edit the module configuration, and no other edit counts.
-/
namespace WorkloadLogin.Service
open Entries

inductive Edit where
  | putRole (name : String) (role : Role)
  | deleteRole (name : String)
  | putConfig (config : Config)
  | setConfig (config : Option Config)

namespace Edit

def apply (s : Store) : Edit → Store
  | putRole name role => s.putRole name role
  | deleteRole name => (s.deleteRole name).2
  | putConfig config => s.setConfig (some config)
  | setConfig config => s.setConfig config

/-- The name of the role that is edited, if it is a role. -/
def name? : Edit → Option String
  | putRole name _ | deleteRole name => some name
  | putConfig _ | setConfig _ => none

/-- The configuration that is left behind, if it is the configuration that is edited. -/
def config? : Edit → Option (Option Config)
  | putRole _ _ | deleteRole _ => none
  | putConfig config => some (some config)
  | setConfig config => some config

end Edit

variable {σ : Type} {w : World σ} {task : TaskId} {s : Store} {name : String} {role : Role}
  {config : Option Config} {rs : List (String × Role)} {edit : Edit}
  {edits : List Edit} {c : ModuleConfig}

/-- The store after some edits, in order. -/
def Store.after (s : Store) (edits : List Edit) : Store := edits.foldl Edit.apply s

/-- What has become of the store that a module configuration starts with. -/
def storeOf (c : ModuleConfig) (edits : List Edit) : Store := (Store.ofModuleConfig c).after edits

/-- The role that stands under a name: the last edit of the name put it there, or there is none and
it is the last that the module configuration has under the name. -/
inductive Holds (c : ModuleConfig) (edits : List Edit) (name : String) (role : Role) : Prop
  | put (h : LastOf (fun e => e.name? = some name) edits (.putRole name role)) :
      Holds c edits name role
  | seeded (h : ∀ e ∈ edits, e.name? ≠ some name)
      (hseed : LastOf (fun r => r.1 = name) c.roles (name,role)) : Holds c edits name role

/-- The configuration in force: the last that was left behind, or the one given at first. -/
inductive Configured (c : ModuleConfig) (edits : List Edit) : Option Config → Prop
  | left {e : Edit} {config : Option Config} (h : LastOf (fun e => e.config? ≠ none) edits e)
      (hconfig : e.config? = some config) : Configured c edits config
  | seeded (h : ∀ e ∈ edits, e.config? = none) : Configured c edits c.backend

/-! ## Roles in order -/

theorem role?_eq_some_iff (h : Ascending s.roles) :
    s.role? name = some role ↔ (name,role) ∈ s.roles := find?_map_eq_some_iff h

/-! ## One edit -/

theorem mem_putRole_iff {n : String} {r : Role} (h : Ascending s.roles) :
    (name,role) ∈ (s.putRole n r).roles ↔
      n = name ∧ r = role ∨ ¬ n = name ∧ (name,role) ∈ s.roles := by
  have hput : (name,role) ∈ Entries.insert n r s.roles ↔
      name = n ∧ role = r ∨ name ≠ n ∧ (name,role) ∈ s.roles := mem_insert_iff h
  rw [eq_comm (a := n), eq_comm (a := r)]
  exact hput

theorem ascending_apply (h : Ascending s.roles) : Ascending (edit.apply s).roles := by
  cases edit with
  | putRole name role => exact ascending_insert h
  | deleteRole name => exact h.filter _
  | putConfig _ | setConfig _ => exact h

theorem mem_apply_iff (h : Ascending s.roles) :
    (name,role) ∈ (edit.apply s).roles ↔
      edit.name? = some name ∧ edit = .putRole name role ∨
        ¬ edit.name? = some name ∧ (name,role) ∈ s.roles := by
  cases edit with
  | putRole n r =>
    have hput : (name,role) ∈ (Edit.apply s (.putRole n r)).roles ↔
      n = name ∧ r = role ∨ ¬ n = name ∧ (name,role) ∈ s.roles := mem_putRole_iff h
    rw [hput]
    simp [Edit.name?]
  | deleteRole n =>
    have hdelete : (name,role) ∈ (Edit.apply s (.deleteRole n)).roles ↔
        (name,role) ∈ s.roles ∧ name ≠ n := by
      simp [Edit.apply, Store.deleteRole]
    rw [hdelete]
    simp [Edit.name?, and_comm, eq_comm]
  | putConfig _ | setConfig _ => simp [Edit.apply, Edit.name?, Store.setConfig]

theorem role?_apply (h : Ascending s.roles) (hname : edit.name? ≠ some name) :
    (edit.apply s).role? name = s.role? name := by
  ext role
  rw [role?_eq_some_iff (ascending_apply h), role?_eq_some_iff h, mem_apply_iff h]
  simp [hname]

theorem roles_apply (h : edit.name? = none) : (edit.apply s).roles = s.roles := by
  cases edit with
  | putRole _ _ | deleteRole _ => cases h
  | putConfig _ | setConfig _ => rfl

theorem config_apply_iff :
    (edit.apply s).config = config ↔
      edit.config? ≠ none ∧ edit.config? = some config ∨
        ¬ edit.config? ≠ none ∧ s.config = config := by
  cases edit <;>
    simp [Edit.apply, Edit.config?, Store.putRole, Store.deleteRole, Store.setConfig]

theorem config_apply (h : edit.name? ≠ none) : (edit.apply s).config = s.config := by
  cases edit with
  | putRole _ _ | deleteRole _ => rfl
  | putConfig _ | setConfig _ => exact absurd rfl h

/-! ## Any number of edits -/

theorem ascending_after (h : Ascending s.roles) : Ascending (s.after edits).roles :=
  foldl_keeps (fun s : Store => Ascending s.roles) (fun _ _ => ascending_apply) h

theorem mem_after_iff (h : Ascending s.roles) :
    (name,role) ∈ (s.after edits).roles ↔
      LastOf (fun e => e.name? = some name) edits (.putRole name role) ∨
        (∀ e ∈ edits, e.name? ≠ some name) ∧ (name,role) ∈ s.roles := by
  have hrun : (name,role) ∈ (s.after edits).roles ↔
      (∃ e, LastOf (fun e => e.name? = some name) edits e ∧ e = .putRole name role) ∨
        (∀ e ∈ edits, ¬ e.name? = some name) ∧ (name,role) ∈ s.roles :=
    foldl_lastOf_iff (fun s : Store => Ascending s.roles) (fun s => (name,role) ∈ s.roles)
      (fun e : Edit => e.name? = some name) (fun e => e = .putRole name role)
      (fun _ _ => ascending_apply) (fun _ _ => mem_apply_iff) h
  rwa [exists_eq_right] at hrun

theorem config_after_iff :
    (s.after edits).config = config ↔
      (∃ e, LastOf (fun e => e.config? ≠ none) edits e ∧ e.config? = some config) ∨
        (∀ e ∈ edits, ¬ e.config? ≠ none) ∧ s.config = config :=
  foldl_lastOf_iff (fun _ => True) (fun s : Store => s.config = config)
    (fun e : Edit => e.config? ≠ none) (fun e => e.config? = some config) (fun _ _ => id)
    (fun _ _ _ => config_apply_iff) trivial

/-! ## The store of a module configuration -/

theorem ascending_ofModuleConfig (c : ModuleConfig) : Ascending (Store.ofModuleConfig c).roles :=
  foldl_keeps (fun s : Store => Ascending s.roles) (fun _ _ => ascending_insert)
    List.Pairwise.nil

theorem config_ofModuleConfig (c : ModuleConfig) : (Store.ofModuleConfig c).config = c.backend :=
  foldl_keeps (fun s : Store => s.config = c.backend) (fun _ _ => id) rfl

theorem mem_ofModuleConfig_iff :
    (name,role) ∈ (Store.ofModuleConfig c).roles ↔
      LastOf (fun r => r.1 = name) c.roles (name,role) := by
  have hput : ∀ (s : Store) (r : String × Role), Ascending s.roles →
      ((name,role) ∈ (s.putRole r.1 r.2).roles ↔
        r.1 = name ∧ r = (name,role) ∨ ¬ r.1 = name ∧ (name,role) ∈ s.roles) := by
    rintro s ⟨n,r⟩ h
    rw [mem_putRole_iff h, Prod.mk.injEq, ← and_assoc, and_self]
  have hrun : (name,role) ∈ (Store.ofModuleConfig c).roles ↔
      (∃ r, LastOf (fun r => r.1 = name) c.roles r ∧ r = (name,role)) ∨
        (∀ r ∈ c.roles, ¬ r.1 = name) ∧ (name,role) ∈ [] :=
    foldl_lastOf_iff (fun s : Store => Ascending s.roles) (fun s => (name,role) ∈ s.roles)
      (fun r : String × Role => r.1 = name) (fun r => r = (name,role))
      (fun _ _ => ascending_insert) hput List.Pairwise.nil
  simpa using hrun

theorem ascending_storeOf : Ascending (storeOf c edits).roles :=
  ascending_after (ascending_ofModuleConfig c)

theorem mem_storeOf_iff : (name,role) ∈ (storeOf c edits).roles ↔ Holds c edits name role := by
  rw [storeOf, mem_after_iff (ascending_ofModuleConfig c), mem_ofModuleConfig_iff]
  constructor
  · rintro (hput | ⟨hnone,hseed⟩)
    · exact .put hput
    · exact .seeded hnone hseed
  · intro h
    cases h with
    | put hput => exact .inl hput
    | seeded hnone hseed => exact .inr ⟨hnone,hseed⟩

theorem role?_storeOf_iff :
    (storeOf c edits).role? name = some role ↔ Holds c edits name role := by
  rw [role?_eq_some_iff ascending_storeOf, mem_storeOf_iff]

theorem config_storeOf_iff :
    (storeOf c edits).config = config ↔ Configured c edits config := by
  rw [storeOf, config_after_iff, config_ofModuleConfig]
  constructor
  · rintro (⟨e,hlast,he⟩ | ⟨hnone,rfl⟩)
    · exact .left hlast he
    · exact .seeded fun e he => not_not.mp (hnone e he)
  · intro h
    cases h with
    | left hlast he => exact .inl ⟨_,hlast,he⟩
    | seeded hnone => exact .inr ⟨fun e he => not_not.mpr (hnone e he),rfl⟩

theorem storeOf_concat : storeOf c (edits ++ [edit]) = edit.apply (storeOf c edits) :=
  List.foldl_append

theorem mem_roleNames_iff : name ∈ s.roleNames ↔ ∃ role, (name,role) ∈ s.roles := by
  simp [Store.roleNames]

theorem roleNames_sorted (h : Ascending s.roles) :
    s.roleNames.Pairwise fun a b => Bytes.ofText a < Bytes.ofText b :=
  List.Pairwise.imp Bytes.ofText_lt_iff.mpr h

/-! ## Resolving a name -/

theorem outcome?_findRole_absent {t : State σ} {absent : Error}
    (hread : w.storageFault t.world .getRole = none) (hrole : t.store.role? name = none) :
    outcome? w task (findRole name absent) t =
      some (.error absent,t.record (.readRole name)) := by
  unfold findRole
  rw [outcome?_ask_bind, answer_readRole, hread, hrole, Option.bind_some, outcome?_orFail_bind]
  rfl

/-- Where storage does not fail, a name is resolved if it is a name and a role is stored there. -/
theorem resolveRole_ends {t : State σ} (hread : w.storageFault t.world .getRole = none) :
    ∃ r u, outcome? w task (resolveRole name) t = some (r,u) ∧
      (r = .ok name ↔ name ≠ "" ∧ ∃ role, t.store.role? name = some role) ∧
      (r ≠ .ok name → r = .error (.rejected .emptyRoleName) ∨
        r = .error (.rejected (.invalidRoleName name))) := by
  by_cases hempty : name = ""
  · subst hempty
    exact ⟨.error (.rejected .emptyRoleName),t,rfl,by simp,fun _ => .inl rfl⟩
  · have hname : name.isEmpty = false := by simpa using hempty
    have hresolve : resolveRole name =
        (findRole name (.rejected (.invalidRoleName name)) >>= fun _ => pure name) := by
      unfold resolveRole
      rw [hname]
      rfl
    rw [hresolve]
    cases hrole : t.store.role? name with
    | none =>
      rw [outcome?_bind, outcome?_findRole_absent hread hrole]
      exact ⟨_,_,rfl,by simp,fun _ => .inr rfl⟩
    | some role =>
      rw [outcome?_bind_of_ok ((outcome?_findRole_ok_iff hread).mpr ⟨hrole,rfl⟩)]
      exact ⟨.ok name,_,rfl,by simp [hempty],fun hne => absurd rfl hne⟩

/-- A store gives what was last put under a name since it was last deleted, or what it started with.
Deleting tells whether there was something, and the names are listed in the order of their octets,
each once. The configuration is the last that was put or set. An edit of one role does not touch the
others or the configuration, nor an edit of the configuration any role. So a name is resolved
exactly when it is not empty and stored. -/
theorem store_keeps_last (c : ModuleConfig) (edits : List Edit) :
    (∀ name role, (storeOf c edits).role? name = some role ↔ Holds c edits name role) ∧
    (∀ name, ((storeOf c edits).deleteRole name).1 = true ↔ ∃ role, Holds c edits name role) ∧
    (storeOf c edits).roleNames.Pairwise (fun a b => Bytes.ofText a < Bytes.ofText b) ∧
    (∀ name, name ∈ (storeOf c edits).roleNames ↔
      ∃ role, (storeOf c edits).role? name = some role) ∧
    (∀ config, (storeOf c edits).config = config ↔ Configured c edits config) ∧
    (∀ (edit : Edit) (name : String), edit.name? ≠ some name →
      (storeOf c (edits ++ [edit])).role? name = (storeOf c edits).role? name) ∧
    (∀ edit : Edit, edit.name? ≠ none →
      (storeOf c (edits ++ [edit])).config = (storeOf c edits).config) ∧
    (∀ edit : Edit, edit.name? = none →
      (storeOf c (edits ++ [edit])).roles = (storeOf c edits).roles) ∧
    ∀ {σ : Type} (w : World σ) (task : TaskId) (t : State σ) (name : String),
      t.store = storeOf c edits → w.storageFault t.world .getRole = none →
        ∃ r u, outcome? w task (resolveRole name) t = some (r,u) ∧
          (r = .ok name ↔ name ≠ "" ∧ ∃ role, Holds c edits name role) ∧
          (r ≠ .ok name → r = .error (.rejected .emptyRoleName) ∨
            r = .error (.rejected (.invalidRoleName name))) := by
  refine ⟨fun _ _ => role?_storeOf_iff,fun name => ?_,roleNames_sorted ascending_storeOf,
    fun name => ?_,fun _ => config_storeOf_iff,fun edit name hname => ?_,fun edit hrole => ?_,
    fun edit hconfig => ?_,fun w task t name hstore hread => ?_⟩
  · change ((storeOf c edits).role? name).isSome = true ↔ _
    simp only [Option.isSome_iff_exists, role?_storeOf_iff]
  · simp only [mem_roleNames_iff, role?_eq_some_iff ascending_storeOf]
  · rw [storeOf_concat, role?_apply ascending_storeOf hname]
  · rw [storeOf_concat, config_apply hrole]
  · rw [storeOf_concat, roles_apply hconfig]
  · simp only [← role?_storeOf_iff, ← hstore]
    exact resolveRole_ends hread

/-- A role is replaced by way of a deletion while another one comes and goes. -/
def sampleEdits : List Edit :=
  [.putRole "db" {},.deleteRole "web",.putRole "web" { tokenTtl := .ofSeconds 5 },.deleteRole "db"]

def sampleSeed : ModuleConfig := { roles := [("web",{})] }

theorem store_keeps_last_replaced :
    (storeOf sampleSeed sampleEdits).role? "web" = some { tokenTtl := .ofSeconds 5 } ∧
    (storeOf sampleSeed sampleEdits).role? "db" = none ∧
    (storeOf sampleSeed (sampleEdits ++ [.deleteRole "db"])).role? "web" =
      some { tokenTtl := .ofSeconds 5 } ∧
    (storeOf sampleSeed (sampleEdits ++ [.deleteRole "db"])).config = none ∧
    (storeOf sampleSeed (sampleEdits ++ [.putConfig {}])).roles =
      [("web",{ tokenTtl := .ofSeconds 5 })] ∧
    ∃ u, outcome? Script.world 0 (resolveRole "web")
      { store := storeOf sampleSeed sampleEdits, world := { now := ⟨⟨0,0⟩,0⟩ } } =
        some (.ok "web",u) := by
  obtain ⟨hrole,-,-,-,hconfig,hother,hroleEdit,hconfigEdit,hresolve⟩ :=
    store_keeps_last sampleSeed sampleEdits
  have hput : Holds sampleSeed sampleEdits "web" { tokenTtl := .ofSeconds 5 } :=
    .put ⟨[.putRole "db" {},.deleteRole "web"],[.deleteRole "db"],rfl,rfl,by decide⟩
  have hweb : (storeOf sampleSeed sampleEdits).role? "web" = some { tokenTtl := .ofSeconds 5 } :=
    (hrole _ _).mpr hput
  obtain ⟨r,u,hrun,haccepts,-⟩ := hresolve Script.world 0
    { store := storeOf sampleSeed sampleEdits, world := { now := ⟨⟨0,0⟩,0⟩ } } "web" rfl rfl
  obtain rfl := haccepts.mpr ⟨by decide,_,hput⟩
  refine ⟨hweb,by decide,?_,?_,?_,u,hrun⟩
  · exact (hother (.deleteRole "db") "web" (by decide)).trans hweb
  · exact (hroleEdit (.deleteRole "db") nofun).trans ((hconfig none).mpr (.seeded (by decide)))
  · exact (hconfigEdit (.putConfig {}) rfl).trans (by decide)

end WorkloadLogin.Service
