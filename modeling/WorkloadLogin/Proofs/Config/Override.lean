import WorkloadLogin.Proofs.Config.Layers
import WorkloadLogin.Proofs.Config.Values

/-! # Text settings from the environment

One variable overrides one text setting of the backend configuration. What its text is read as must
be a text itself: that is then the setting, and everything else is as the file alone has it, unless
the file writes the backend as an array, which the variable's object replaces as a whole. A value of
any other kind is refused at the setting.
-/
namespace WorkloadLogin
open Json Entries
variable {n : String} {u v w : Json} {ms bs : List (String × Json)} {surplus : Surplus}

/-! ## One member put over a value -/

namespace Json

def isMapping : Json → Bool
  | .object _ => true
  | _ => false

/-- The members of an object; anything else has none. -/
def kept : Json → List (String × Json)
  | .object ms => ms
  | _ => []

/-- A value that is neither a text nor nothing. -/
structure NoText (v : Json) : Prop where
  ne_null : v ≠ .null
  ne_string : ∀ t, v ≠ .string t

/-- What stands under a name once a value is put over the member there. -/
def layered (n : String) (u v : Json) : Json := (v.member? n).elim u (·.merge u)

theorem mergeMembers_singleton (h : Ascending ms) :
    mergeMembers ms [(n,u)] = Entries.insert n (layered n u (.object ms)) ms := by
  rw [mergeMembers, mergeMembers, layered, ← find?_eq_member? h]
  cases ms.find? fun m => m.1 == n <;> rfl

theorem merge_singleton (h : Ordered v) :
    v.merge (.object [(n,u)]) =
      .object (Entries.insert n (layered n u (.object v.kept)) v.kept) := by
  by_cases hobject : IsObject v
  · obtain ⟨ms,rfl⟩ := hobject
    rw [merge_object, mergeMembers_singleton h.members.1]
    rfl
  · have hkept : v.kept = [] := by
      cases v with
      | object ms => exact absurd isObject_object hobject
      | _ => rfl
    rw [merge_of_not_isObject fun h => hobject h.1, hkept]
    rfl

theorem layered_string (n t : String) (v : Json) : layered n (.string t) v = .string t := by
  rw [layered]
  cases v.member? n with
  | none => rfl
  | some w => exact merge_of_not_isObject fun h => by obtain ⟨_,ms,hms⟩ := h; cases hms

theorem NoText.layered (h : NoText u) (n : String) (v : Json) : NoText (layered n u v) := by
  rw [Json.layered]
  cases v.member? n with
  | none => exact h
  | some w =>
    by_cases hobject : IsObject w ∧ IsObject u
    · obtain ⟨⟨ms,rfl⟩,os,rfl⟩ := hobject
      rw [Option.elim_some, merge_object]
      exact ⟨nofun,nofun⟩
    · rw [Option.elim_some, merge_of_not_isObject hobject]
      exact h

theorem NoText.normalize (h : NoText v) : NoText v.normalize := by
  cases v with
  | null => exact absurd rfl h.ne_null
  | string t => exact absurd rfl (h.ne_string t)
  | _ => exact ⟨by simp [Json.normalize],by simp [Json.normalize]⟩

theorem ascending_kept (h : Ordered v) : Ascending v.kept := by
  cases v with
  | object ms => exact h.members.1
  | _ => exact List.Pairwise.nil

end Json

theorem text_of_noText (h : NoText v) : Decode.text surplus v = .error ⟨[],.invalidValue⟩ := by
  cases v with
  | string t => exact absurd rfl (h.ne_string t)
  | _ => rfl

theorem secret_of_noText (h : NoText v) : Decode.secret surplus v = .error ⟨[],.invalidValue⟩ := by
  cases v with
  | null => exact absurd rfl h.ne_null
  | string t => exact absurd rfl (h.ne_string t)
  | _ => rfl

theorem secret_string {t : String} :
    Decode.secret surplus (.string t) = .ok (if t.isEmpty then none else some t) := by
  simp only [Decode.secret, Decode.optional, Decode.text, Except.map, Option.filter_some]
  cases t.isEmpty <;> rfl

theorem read_ok {α σ : Type} {d : Decoder α} {set : σ → α → σ} {a : α}
    (h : d surplus v = .ok a) (s : σ) : (Field.of n d set).read surplus v s = .ok (set s a) :=
  Field.of_read_ok_iff.mpr ⟨a,h,rfl⟩

theorem read_error {α σ : Type} {d : Decoder α} {set : σ → α → σ} {e : DecodeError}
    (h : d surplus v = .error e) (s : σ) : (Field.of n d set).read surplus v s = .error e := by
  simp [Field.of, h, Except.map]

/-! ## The text settings -/

namespace Config

/-- The settings of the backend configuration that are texts. -/
inductive TextSetting where
  | apiAddress
  | username
  | password
  | clientId
  | clientSecret
  deriving DecidableEq

namespace TextSetting
variable {x : TextSetting} {t : String} {c : Config}

def member : TextSetting → String
  | apiAddress => "cf_api_addr"
  | username => "cf_username"
  | password => "cf_password"
  | clientId => "cf_client_id"
  | clientSecret => "cf_client_secret"

/-- The variable that overrides the setting. -/
def environmentName : TextSetting → String
  | apiAddress => "INSTANCE_AUTHN__BACKEND__CF_API_ADDR"
  | username => "INSTANCE_AUTHN__BACKEND__CF_USERNAME"
  | password => "INSTANCE_AUTHN__BACKEND__CF_PASSWORD"
  | clientId => "INSTANCE_AUTHN__BACKEND__CF_CLIENT_ID"
  | clientSecret => "INSTANCE_AUTHN__BACKEND__CF_CLIENT_SECRET"

/-- The configuration with this setting, where an empty secret is none. -/
def put (x : TextSetting) (t : String) (c : Config) : Config :=
  match x with
  | apiAddress => { c with apiAddress := t }
  | username => { c with username := t }
  | password => { c with password := if t.isEmpty then none else some t }
  | clientId => { c with clientId := t }
  | clientSecret => { c with clientSecret := if t.isEmpty then none else some t }

theorem shape_direct : shape.Direct := ⟨rfl,fun _ => rfl⟩

theorem path?_environmentName (x : TextSetting) :
    Variables.path? x.environmentName = some ["backend",x.member] := by
  cases x <;> decide +kernel

theorem exists_field (x : TextSetting) (surplus : Surplus) :
    ∃ f, shape.field? x.member = some f ∧
      (∀ t c, f.read surplus (.string t) c = .ok (x.put t c)) ∧
      ∀ v c, NoText v → f.read surplus v c = .error ⟨[],.invalidValue⟩ := by
  cases x
  case password | clientSecret =>
    exact ⟨_,rfl,fun t c => read_ok secret_string c,
      fun v c hv => read_error (secret_of_noText hv) c⟩
  all_goals exact ⟨_,rfl,fun t c => rfl,fun v c hv => read_error (text_of_noText hv) c⟩

theorem sets (x : TextSetting) (t : String) (surplus : Surplus) :
    Sets shape.fields surplus x.member (x.put t) := by
  cases x <;> constructor <;>
    simp +contextual [shape, Field.of_name, Field.of_read_ok_iff, member, put]

theorem decode_put (x : TextSetting) (hm : Ascending bs)
    (h : shape.decode surplus (.object bs) = .ok c) (t : String) :
    shape.decode surplus (.object (Entries.insert x.member (.string t) bs)) = .ok (x.put t c) := by
  obtain ⟨f,hf,hread,-⟩ := x.exists_field surplus
  exact shape_direct.decode_insert (x.sets t surplus) hf (hread t) hm h

theorem decode_noText (x : TextSetting) (h : shape.decode surplus (.object bs) = .ok c)
    (hv : NoText v) :
    shape.decode surplus (.object (Entries.insert x.member v bs)) =
      .error ⟨[x.member],.invalidValue⟩ := by
  obtain ⟨f,hf,-,hread⟩ := x.exists_field surplus
  exact shape_direct.decode_insert_error hf (fun c => hread v c hv) h

end TextSetting
end Config

/-! ## The configuration around the setting -/

namespace ModuleConfig
variable {text : String} {environment : List (String × String)} {m : ModuleConfig} {c : Config}

theorem shape_direct : shape.Direct := ⟨rfl,fun _ => rfl⟩

theorem sets_backend (c : Config) :
    Sets shape.fields surplus "backend" fun m => { m with backend := some c } := by
  constructor <;> simp +contextual [shape, Field.of_name, Field.of_read_ok_iff]

theorem decode_backend (hm : Ascending ms) (hok : shape.decode surplus (.object ms) = .ok m)
    (hc : Config.shape.decode surplus (.object bs) = .ok c) :
    shape.decode surplus (.object (Entries.insert "backend" (.object bs) ms)) =
      .ok { m with backend := some c } := by
  refine shape_direct.decode_insert (sets_backend c) rfl (fun m => ?_) hm hok
  simp [Field.of, Decode.optional, hc, Except.map]

theorem decode_backend_error {e : DecodeError} (hok : shape.decode surplus (.object ms) = .ok m)
    (he : Config.shape.decode surplus (.object bs) = .error e) :
    shape.decode surplus (.object (Entries.insert "backend" (.object bs) ms)) =
      .error { e with path := "backend" :: e.path } := by
  refine shape_direct.decode_insert_error rfl (fun m => ?_) hok
  simp [Field.of, Decode.optional, he, Except.map]

/-- The block that the backend configuration was read from. -/
theorem exists_block (hm : Ascending ms) (h : shape.decode surplus (.object ms) = .ok m)
    (hbackend : m.backend = some c) :
    ∃ block, (Json.object ms).member? "backend" = some block ∧
      Config.shape.decode surplus block = .ok c := by
  rw [shape_direct.decode_eq] at h
  have hkeeps : ∀ f ∈ shape.fields, f.name ≠ "backend" → ∀ v s t, f.read surplus v s = .ok t →
      t.backend = s.backend := by
    simp +contextual [shape, Field.of_name, Field.of_read_ok_iff]
  rcases part_of_takeMembers rfl hkeeps h with hnone | ⟨f,block,t,u,hf,hmem,hread,hget⟩
  · rw [hbackend] at hnone
    cases hnone
  · obtain rfl := Option.some.inj hf
    obtain ⟨b,hb,rfl⟩ := Field.of_read_ok_iff.mp hread
    obtain rfl : b = some c := hget.symm.trans hbackend
    refine ⟨block,(member?_eq_some_iff hm).mpr hmem,?_⟩
    by_cases hnull : block = .null
    · subst hnull
      cases hb
    · obtain ⟨c',hc'⟩ := Decode.of_optional hnull hb
      simp only [Decode.optional, hc', Except.map] at hb
      cases hb
      exact hc'

theorem exists_readMapping? (h : load (.document text) [] = .ok m) :
    ∃ doc, Yaml.readMapping? text = some doc ∧ shape.decode .ignored doc.normalize = .ok m := by
  cases hdoc : Yaml.readMapping? text with
  | none => simp [load, fileTree, hdoc] at h
  | some doc =>
    rw [load_document_eq hdoc, Variables.tree_of_counted_nil rfl,
      merge_object_nil (isObject_normalize (isObject_readMapping? hdoc))] at h
    exact ⟨doc,rfl,ofTree_ok_iff.mp h⟩

/-- The counted variables are those of the environment without the others. -/
theorem counted_of_filter {environment' : List (String × String)}
    (h : environment.filter (fun x => (Variables.path? x.1).isSome) = environment') :
    Variables.counted environment = Variables.counted environment' := by
  subst h
  rw [Variables.counted, Variables.counted, List.filterMap_filter]
  refine List.filterMap_congr fun x _ => ?_
  cases hx : Variables.path? x.1 <;> simp [hx]

theorem counted_alone (x : Config.TextSetting) (s : String) :
    Variables.counted [(x.environmentName,s)] =
      [(["backend",x.member],(Variables.parseValue s).normalize)] := by
  simp [Variables.counted, Config.TextSetting.path?_environmentName]

theorem counted_one {x : Config.TextSetting} {s : String}
    (honly : environment.filter (fun y => (Variables.path? y.1).isSome) =
      [(x.environmentName,s)]) :
    Variables.counted environment =
      [(["backend",x.member],(Variables.parseValue s).normalize)] := by
  rw [counted_of_filter honly, counted_alone]

/-- The trees that a load with one variable over the backend's block puts together. -/
structure Layers (text : String) (m : ModuleConfig) (c : Config) (doc block : Json)
    (ms : List (String × Json)) : Prop where
  read : Yaml.readMapping? text = some doc
  root : doc.normalize = .object ms
  ascending : Ascending ms
  whole : shape.decode .ignored (.object ms) = .ok m
  placed : at? ["backend"] doc.normalize = some block
  ordered : Ordered block
  kept : Config.shape.decode .ignored (.object block.kept) =
    .ok (if block.isMapping then c else {})

theorem exists_layers (hload : load (.document text) [] = .ok m) (hbackend : m.backend = some c) :
    ∃ doc block ms, Layers text m c doc block ms := by
  obtain ⟨doc,hdoc,hok⟩ := exists_readMapping? hload
  obtain ⟨ms,hms⟩ := isObject_normalize (isObject_readMapping? hdoc)
  have ho := ordered_normalize doc
  rw [hms] at ho hok
  obtain ⟨block,hblock,hc⟩ := exists_block ho.members.1 hok hbackend
  refine ⟨doc,block,ms,hdoc,hms,ho.members.1,hok,by rw [hms, at?_singleton, hblock],
    ho.of_member? hblock,?_⟩
  cases block with
  | object bs => exact hc
  | _ => rfl

theorem Layers.load_eq {doc block : Json} {x : Config.TextSetting} {s : String}
    (h : Layers text m c doc block ms)
    (honly : environment.filter (fun y => (Variables.path? y.1).isSome) =
      [(x.environmentName,s)]) :
    load (.document text) environment =
      ofTree (.object (Entries.insert "backend" (.object (Entries.insert x.member (layered x.member
        (Variables.parseValue s).normalize (.object block.kept)) block.kept)) ms)) := by
  have htree : put (.object []) (["backend",x.member],(Variables.parseValue s).normalize) =
      .object [("backend",.object [(x.member,(Variables.parseValue s).normalize)])] := by
    rw [put, nest, merge_object, mergeMembers, mergeMembers]
    rfl
  have hblock := h.placed
  rw [h.root, at?_singleton] at hblock
  rw [load_document_eq h.read, Variables.tree_of_counted_singleton (counted_one honly), htree,
    h.root, merge_object, mergeMembers_singleton h.ascending, layered, hblock, Option.elim_some,
    merge_singleton h.ordered]

/-- A text setting is overridden by the one variable of its name: what the variable's text is read
as, if that is a text, is the setting from then on, and the rest is as the file alone has it. A text
that does not look like a value of another kind stands for itself, and every text has a
quotation. -/
theorem environment_sets_text (hload : load (.document text) [] = .ok m)
    (hbackend : m.backend = some c) (x : Config.TextSetting) (s : String)
    (honly : environment.filter (fun y => (Variables.path? y.1).isSome) =
      [(x.environmentName,s)]) :
    ∃ doc block, Yaml.readMapping? text = some doc ∧ at? ["backend"] doc.normalize = some block ∧
      (∀ t, Variables.parseValue s = .string t → load (.document text) environment =
        .ok { m with backend := some (x.put t (if block.isMapping then c else {})) }) ∧
      (Variables.Plain s → Variables.parseValue s = .string s) ∧
      ∀ t, Variables.parseValue (Variables.quoted t) = .string t := by
  obtain ⟨doc,block,ms,h⟩ := exists_layers hload hbackend
  refine ⟨doc,block,h.read,h.placed,fun t ht => ?_,Variables.parseValue_of_plain,
    Variables.parseValue_quoted⟩
  have hstring : layered x.member (Variables.parseValue s).normalize (.object block.kept) =
      .string t := by
    rw [ht]
    exact layered_string ..
  rw [h.load_eq honly, hstring, ofTree_ok_iff]
  exact decode_backend h.ascending h.whole (x.decode_put (ascending_kept h.ordered) h.kept t)

theorem load_nil_of_map {r : Except LoadError ModuleConfig}
    (h : (Yaml.readMapping? text).map (fun doc => ofTree (doc.normalize.merge (.object []))) =
      some r) : load (.document text) [] = r :=
  load_of_map (by rwa [Variables.tree_of_counted_nil rfl])

theorem load_alone_of_map (x : Config.TextSetting) (s : String) {r : Except LoadError ModuleConfig}
    (h : (Yaml.readMapping? text).map (fun doc => ofTree (doc.normalize.merge
      (put (.object []) (["backend",x.member],(Variables.parseValue s).normalize)))) = some r) :
    load (.document text) [(x.environmentName,s)] = r :=
  load_of_map (by rwa [Variables.tree_of_counted_singleton (counted_alone x s)])

/-- A password from the environment, beside a variable that does not count. -/
theorem environment_sets_text_password :
    let text := "backend: {cf_api_addr: z}"
    let environment := [("HOME","/"),("INSTANCE_AUTHN__BACKEND__CF_PASSWORD","s3cret")]
    load (.document text) [] = .ok { backend := some { apiAddress := "z" } } ∧
      environment.filter (fun y => (Variables.path? y.1).isSome) =
        [(Config.TextSetting.password.environmentName,"s3cret")] ∧
      load (.document text) environment =
        .ok { backend := some { apiAddress := "z", password := some "s3cret" } } := by
  intro text environment
  have hload : load (.document text) [] = .ok { backend := some { apiAddress := "z" } } :=
    load_nil_of_map (by decide +kernel)
  have honly : environment.filter (fun y => (Variables.path? y.1).isSome) =
      [(Config.TextSetting.password.environmentName,"s3cret")] := by decide +kernel
  obtain ⟨doc,block,hdoc,hblock,hset,-⟩ := environment_sets_text hload rfl .password "s3cret" honly
  have hmapping : ((Yaml.readMapping? text).bind fun doc => at? ["backend"] doc.normalize).map
      isMapping = some true := by decide +kernel
  rw [hdoc, Option.bind_some, hblock] at hmapping
  have hresult := hset "s3cret" rfl
  rw [Option.some.inj hmapping] at hresult
  exact ⟨hload,honly,hresult⟩

/-- A password of digits is refused, as it is no text; one between single marks loses them; and a
variable for one setting drops all the others of a backend that is written as an array. -/
theorem texts_not_taken_as_given :
    load (.document "backend: {}") [] = .ok { backend := some {} } ∧
    load (.document "backend: {}") [("INSTANCE_AUTHN__BACKEND__CF_PASSWORD","12345")] =
      .error (.decode ⟨["backend","cf_password"],.invalidValue⟩) ∧
    load (.document "backend: {}") [("INSTANCE_AUTHN__BACKEND__CF_PASSWORD","'x'")] =
      .ok { backend := some { password := some "x" } } ∧
    load (.document "backend: [[ca]]") [] =
      .ok { backend := some { identityCaCertificates := ["ca"] } } ∧
    load (.document "backend: [[ca]]") [("INSTANCE_AUTHN__BACKEND__CF_USERNAME","a")] =
      .ok { backend := some { username := "a" } } := by
  exact ⟨load_nil_of_map (by decide +kernel),load_alone_of_map .password _ (by decide +kernel),
    load_alone_of_map .password _ (by decide +kernel),load_nil_of_map (by decide +kernel),
    load_alone_of_map .username _ (by decide +kernel)⟩

/-- A variable whose text is read as a value of another kind is refused at its setting. -/
theorem environment_refuses_other_kinds (hload : load (.document text) [] = .ok m)
    (hbackend : m.backend = some c) {x : Config.TextSetting} {s : String}
    (honly : environment.filter (fun y => (Variables.path? y.1).isSome) = [(x.environmentName,s)])
    (hkind : ∀ t, Variables.parseValue s ≠ .string t) :
    load (.document text) environment =
      .error (.decode ⟨["backend",x.member],.invalidValue⟩) := by
  obtain ⟨doc,block,ms,h⟩ := exists_layers hload hbackend
  have hvalue : NoText (Variables.parseValue s).normalize :=
    NoText.normalize ⟨Variables.parseValue_ne_null s,hkind⟩
  rw [h.load_eq honly, ofTree, decode_backend_error h.whole (x.decode_noText h.kept
    (hvalue.layered ..))]
  rfl

end ModuleConfig
end WorkloadLogin
