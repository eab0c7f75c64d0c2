import WorkloadLogin.Config.Load
import WorkloadLogin.Proofs.Config.Names
import WorkloadLogin.Proofs.Json.Branches
import WorkloadLogin.Proofs.Json.Change
import WorkloadLogin.Proofs.Role.Written

/-! # The environment over the file

The variables that count make one tree of branches, which is the same in whatever order they come,
if no path leads through another one. The configuration is what the deep merge of that tree and the
document decodes to, so the environment wins and what no variable touches is as the file has it. A
member that its record does not declare makes the whole load fail, wherever it comes from.
-/
namespace WorkloadLogin

namespace Variables

/-- The variables that count: the path that each one spells and the value of its text. -/
def counted (environment : List (String × String)) : List (List String × Json) :=
  environment.filterMap fun (name,text) =>
    (path? name).map fun steps => (steps,(parseValue text).normalize)

variable {environment environment' : List (String × String)}

theorem mem_counted_iff {b : List String × Json} :
    b ∈ counted environment ↔
      ∃ x ∈ environment, KeyPath x.1 b.1 ∧ b.2 = (parseValue x.2).normalize := by
  obtain ⟨steps,v⟩ := b
  simp only [counted, List.mem_filterMap, Option.map_eq_some_iff, Prod.mk.injEq,
    path?_eq_some_iff, eq_comm (b := v)]
  constructor
  · rintro ⟨x,hx,_,hpath,rfl,hv⟩
    exact ⟨x,hx,hpath,hv⟩
  · rintro ⟨x,hx,hpath,hv⟩
    exact ⟨x,hx,steps,hpath,rfl,hv⟩

theorem counted_perm (h : environment.Perm environment') :
    (counted environment).Perm (counted environment') := h.filterMap _

theorem normalize_nest (v : Json) (steps : List String) :
    (v.nest steps).normalize = v.normalize.nest steps := by
  induction steps with
  | nil => rfl
  | cons step steps ih =>
    simp [Json.nest, Json.normalize, Json.normalizeMembers, ih, Json.sortMembers, Entries.insert]

theorem tree_eq (environment : List (String × String)) :
    tree environment = (counted environment).foldl Json.put (.object []) := by
  have htrees : (environment.filterMap fun x =>
      (path? x.1).map fun steps => ((parseValue x.2).nest steps).normalize) =
        (counted environment).map fun b => b.2.nest b.1 := by
    rw [counted, List.map_filterMap]
    simp only [Option.map_map, Function.comp_def, normalize_nest]
  have htree : tree environment =
      ((counted environment).map fun b => b.2.nest b.1).foldl Json.merge (.object []) := by
    rw [← htrees]
    rfl
  rw [htree, List.foldl_map]
  rfl

theorem tree_of_counted_nil (h : counted environment = []) : tree environment = .object [] := by
  rw [tree_eq, h, List.foldl_nil]

theorem tree_of_counted_singleton {b : List String × Json} (h : counted environment = [b]) :
    tree environment = Json.put (.object []) b := by
  rw [tree_eq, h, List.foldl_cons, List.foldl_nil]

theorem separate_counted (h : ((counted environment).map Prod.fst).Pairwise Json.Apart) :
    Json.Separate (counted environment) where
  apart := h
  proper b hb := by
    obtain ⟨x,-,hpath,-⟩ := mem_counted_iff.mp hb
    exact hpath.ne_nil
  ordered b hb := by
    obtain ⟨x,-,-,hv⟩ := mem_counted_iff.mp hb
    exact hv ▸ Json.ordered_normalize _

/-- The tree of the variables, whichever order they are listed and put over one another in. -/
theorem tree_of_perm (h : ((counted environment).map Prod.fst).Pairwise Json.Apart)
    (hperm : environment'.Perm environment) :
    tree environment' = (counted environment).foldl Json.put (.object []) := by
  rw [tree_eq]
  exact Json.foldl_put_perm (separate_counted h) (counted_perm hperm)

end Variables

namespace Config

/-- The members of the backend configuration in the declared order. -/
def memberNames : List String :=
  ["identity_ca_certificates","cf_api_addr","cf_username","cf_password","cf_client_id",
    "cf_client_secret","cf_api_trusted_certificates","cf_timeout_secs",
    "login_max_seconds_not_before","login_max_seconds_not_after"]

end Config

namespace ModuleConfig
open Json
variable {text : String} {doc v : Json} {environment : List (String × String)}
  {ms : List (String × Json)} {place names : List String} {n : String}

/-- The members that the record at a place of the configuration declares. -/
inductive RecordAt : List String → List String → Prop
  | module : RecordAt [] ["backend","roles"]
  | backend : RecordAt ["backend"] Config.memberNames
  | role (name : String) : RecordAt ["roles",name] Role.memberNames

theorem ofTree_ok_iff {c : ModuleConfig} : ofTree v = .ok c ↔ shape.decode .ignored v = .ok c := by
  unfold ofTree
  cases shape.decode .ignored v <;> simp [Except.mapError]

theorem declared_of_ofTree {c : ModuleConfig} (h : ofTree v = .ok c)
    (hrecord : RecordAt place names) (hat : at? place v = some (.object ms)) :
    ∀ n ∈ ms.map Prod.fst, n ∈ names := by
  have hok := ofTree_ok_iff.mp h
  cases hrecord with
  | module =>
    obtain rfl := Option.some.inj hat
    exact Shape.declared_of_decode rfl hok
  | backend =>
    rw [at?_singleton] at hat
    obtain ⟨b,hb⟩ := Shape.decode_of_member? rfl rfl hat hok
    obtain ⟨c,hc⟩ := Decode.of_optional (v := .object ms) nofun hb
    exact Shape.declared_of_decode rfl hc
  | role name =>
    obtain ⟨u,hu,hat⟩ := Option.bind_eq_some_iff.mp hat
    rw [at?_singleton] at hat
    obtain ⟨roles,hroles⟩ := Shape.decode_of_member? rfl rfl hu hok
    obtain ⟨r,hr⟩ := Decode.of_dictionary hroles hat
    exact Shape.declared_of_decode rfl hr

theorem isObject_readMapping? (h : Yaml.readMapping? text = some doc) : IsObject doc := by
  unfold Yaml.readMapping? at h
  split at h
  · exact ⟨[],(Option.some.inj h).symm⟩
  · rename_i d _
    unfold Yaml.Document.mapping? at h
    split at h
    · rename_i members _ _
      obtain ⟨⟨v,left⟩,hrun,rfl⟩ := Option.map_eq_some_iff.mp h
      have hfollow : d.follow (.mapping members none) = pure (.mapping members none) := rfl
      rw [Yaml.Document.mostDepth, Yaml.Document.json, hfollow, pure_bind] at hrun
      simp only [StateT.run_bind, StateT.run_pure, Option.bind_eq_bind,
        Option.bind_eq_some_iff] at hrun
      obtain ⟨⟨ms,rest⟩,-,hv⟩ := hrun
      cases hv
      exact ⟨ms,rfl⟩
    · split at h
      · exact ⟨[],(Option.some.inj h).symm⟩
      · cases h
    · cases h
  · cases h

/-- Whatever the variables are, only the tree of those that count matters. -/
theorem load_document_eq (hdoc : Yaml.readMapping? text = some doc) :
    load (.document text) environment =
      ofTree (doc.normalize.merge (Variables.tree environment)) := by
  simp [load, fileTree, hdoc]

theorem load_none_eq (h : IsObject (Variables.tree environment))
    (ho : Ordered (Variables.tree environment)) :
    load .none environment = ofTree (Variables.tree environment) :=
  congrArg ofTree (object_nil_merge h ho)

theorem load_of_map {r : Except LoadError ModuleConfig}
    (h : (Yaml.readMapping? text).map (fun doc =>
      ofTree (doc.normalize.merge (Variables.tree environment))) = some r) :
    load (.document text) environment = r := by
  obtain ⟨doc,hdoc,rfl⟩ := Option.map_eq_some_iff.mp h
  exact load_document_eq hdoc

/-- The configuration of a file and an environment in which no variable's path leads through
another one's. The variables make one tree, in whatever order they are put over one another, and
what loads is the document overlaid by it: places that no variable touches are as in the document,
the values of variables replace what was there, and no record may have a member of another name. -/
theorem environment_overlays_file (hdoc : Yaml.readMapping? text = some doc)
    (hapart : ((Variables.counted environment).map Prod.fst).Pairwise Apart) :
    ∃ tree merged,
      (∀ b, b ∈ Variables.counted environment ↔ ∃ x ∈ environment,
        Variables.KeyPath x.1 b.1 ∧ b.2 = (Variables.parseValue x.2).normalize) ∧
      (∀ t, TreeOf (Variables.counted environment) t ↔ t = tree) ∧
      (∀ order : List (List String × Json), order.Perm (Variables.counted environment) →
        order.foldl put (.object []) = tree) ∧
      (∀ w, Overlays doc.normalize tree w ↔ w = merged) ∧
      (∀ environment', environment'.Perm environment →
        load (.document text) environment' = ofTree merged ∧
        load .none environment' = ofTree tree) ∧
      (Variables.counted environment = [] →
        load (.document text) environment = ofTree doc.normalize) ∧
      (∀ place ≠ [], (∀ b ∈ Variables.counted environment, Apart b.1 place) →
        at? place merged = at? place doc.normalize) ∧
      (∀ b ∈ Variables.counted environment, ¬ IsObject b.2 → at? b.1 merged = some b.2) ∧
      ∀ place names ms, RecordAt place names → at? place merged = some (.object ms) →
        ∀ n ∈ ms.map Prod.fst, n ∉ names → ∃ e, load (.document text) environment = .error e := by
  have hseparate := Variables.separate_counted hapart
  have htree := treeOf_foldl_put hseparate
  have horder : ∀ order : List (List String × Json),
      order.Perm (Variables.counted environment) → order.foldl put (.object []) =
        (Variables.counted environment).foldl put (.object []) :=
    fun order hperm => foldl_put_perm hseparate hperm
  have hbase : Ordered doc.normalize := ordered_normalize doc
  have hvariables : ∀ environment', environment'.Perm environment →
      Variables.tree environment' = (Variables.counted environment).foldl put (.object []) :=
    fun environment' hperm => Variables.tree_of_perm hapart hperm
  generalize (Variables.counted environment).foldl put (.object []) = tree at *
  have hload : ∀ environment', environment'.Perm environment →
      load (.document text) environment' = ofTree (doc.normalize.merge tree) := by
    intro environment' hperm
    rw [load_document_eq hdoc, hvariables environment' hperm]
  refine ⟨tree,doc.normalize.merge tree,fun b => Variables.mem_counted_iff,fun t => ?_,horder,
    fun w => overlays_iff hbase htree.ordered,fun environment' hperm => ⟨hload _ hperm,?_⟩,?_,?_,?_,
    ?_⟩
  · constructor
    · intro ht
      exact ht.unique htree
    · rintro rfl
      exact htree
  · rw [← hvariables environment' hperm] at htree ⊢
    exact load_none_eq htree.isObject htree.ordered
  · intro hnone
    have htree' : Json.object [] = tree := horder [] (by rw [hnone])
    rw [hload _ (List.Perm.refl _), ← htree',
      merge_object_nil (isObject_normalize (isObject_readMapping? hdoc))]
  · intro place hplace hapart'
    exact htree.at?_merge_of_apart hbase hplace hapart'
  · intro b hb hobject
    rw [htree.at?_merge_value hbase hb]
    cases at? b.1 doc.normalize with
    | none => rfl
    | some w => exact congrArg some (merge_of_not_isObject fun h => hobject h.2)
  · intro place names ms hrecord hat n hn hnot
    rw [hload _ (List.Perm.refl _)]
    cases hok : ofTree (doc.normalize.merge tree) with
    | error e => exact ⟨e,rfl⟩
    | ok c => exact absurd (declared_of_ofTree hok hrecord hat n hn) hnot

/-- A document and two variables, one of which adds a member to the document's own record. -/
theorem environment_overlays_file_sample :
    let text := "backend: {cf_username: a}"
    let environment := [("INSTANCE_AUTHN__BACKEND__CF_CLIENT_ID","broker"),
      ("INSTANCE_AUTHN__ROLES__WEB__TOKEN_TTL","5")]
    ∃ doc merged, Yaml.readMapping? text = some doc ∧
      ((Variables.counted environment).map Prod.fst).Pairwise Apart ∧
      load (.document text) environment = ofTree merged ∧
      at? ["backend","cf_username"] merged = at? ["backend","cf_username"] doc.normalize ∧
      at? ["backend","cf_client_id"] merged = some (.string "broker") ∧
      at? ["roles","web","token_ttl"] merged = some (.integer 5) := by
  intro text environment
  obtain ⟨doc,hdoc⟩ : ∃ doc, Yaml.readMapping? text = some doc :=
    Option.isSome_iff_exists.mp (by decide +kernel)
  have hclient : Variables.path? "INSTANCE_AUTHN__BACKEND__CF_CLIENT_ID" =
    some ["backend","cf_client_id"] := by decide +kernel
  have hlife : Variables.path? "INSTANCE_AUTHN__ROLES__WEB__TOKEN_TTL" =
    some ["roles","web","token_ttl"] := by decide +kernel
  have hcounted : Variables.counted environment =
      [(["backend","cf_client_id"],.string "broker"),(["roles","web","token_ttl"],.integer 5)] := by
    simp only [Variables.counted, environment, List.filterMap_cons, List.filterMap_nil, hclient,
      hlife, Option.map_some]
    rfl
  have hapart : ((Variables.counted environment).map Prod.fst).Pairwise Apart := by
    rw [hcounted]
    decide
  obtain ⟨tree,merged,-,-,-,-,hload,-,hkept,hset,-⟩ := environment_overlays_file hdoc hapart
  rw [hcounted] at hkept hset
  exact ⟨doc,merged,hdoc,hapart,(hload environment (List.Perm.refl _)).1,
    hkept _ (by decide) (by decide),hset _ (List.mem_cons_self ..) nofun,
    hset _ (List.mem_cons_of_mem _ (List.mem_cons_self ..)) nofun⟩

/-- A point in the name of a variable cuts the step that holds it, so a role whose name has a point
is not reached, and a blank behind a name does not count. By its pairs of underscores alone the one
name would spell a path that decodes, and the other one a path that does not. -/
theorem key_paths_not_by_pairs_alone :
    let dotted := "INSTANCE_AUTHN__ROLES__WEB.PROD__TOKEN_TTL"
    let blank := "INSTANCE_AUTHN__ROLES__WEB__TOKEN_TTL "
    let byPairs := fun (name : String) =>
      (Variables.splitPairs (name.toList.drop Variables.nameStart.length)).map
        fun part => String.ofList (Variables.lower part)
    byPairs dotted = ["roles","web.prod","token_ttl"] ∧
    ofTree ((Variables.parseValue "5").nest ["roles","web.prod","token_ttl"]) =
      .ok { roles := [("web.prod",{ tokenTtl := .ofSeconds 5 })] } ∧
    load .none [(dotted,"5")] =
      .error (.decode ⟨["roles","web","prod"],.unknownField "prod"⟩) ∧
    byPairs blank = ["roles","web","token_ttl "] ∧
    ofTree ((Variables.parseValue "5").nest ["roles","web","token_ttl "]) =
      .error (.decode ⟨["roles","web","token_ttl "],.unknownField "token_ttl "⟩) ∧
    load .none [(blank,"5")] = .ok { roles := [("web",{ tokenTtl := .ofSeconds 5 })] } := by
  intro dotted blank byPairs
  have hload : ∀ name steps, Variables.path? name = some steps →
      load .none [(name,"5")] =
        ofTree ((Json.object []).merge (put (.object []) (steps,.integer 5))) := by
    intro name steps hpath
    have hcounted : Variables.counted [(name,"5")] = [(steps,.integer 5)] := by
      simp only [Variables.counted, List.filterMap_cons, List.filterMap_nil, hpath,
        Option.map_some]
      rfl
    rw [← Variables.tree_of_counted_singleton hcounted]
    rfl
  refine ⟨by decide +kernel,rfl,?_,by decide +kernel,rfl,?_⟩
  · rw [hload dotted ["roles","web","prod","token_ttl"] (by decide +kernel)]
    rfl
  · rw [hload blank ["roles","web","token_ttl"] (by decide +kernel)]
    rfl

end ModuleConfig
end WorkloadLogin
