import WorkloadLogin.Proofs.Service.RenewalGates
import WorkloadLogin.Proofs.Text.Quoted

/-! # Identities recovered from credentials

A credential keeps its role and its identity in three records, mixed with display names and
lifetimes. They are gathered again field by field, so a credential gives back what it was issued
for, and an identity with the names of its credential gives back the credential.
-/
namespace WorkloadLogin.RenewalIdentity
open Service
variable {c : Credential} {renewal : RenewalIdentity} {f g : Field} {value : Field → String}

/-- The order in which fields are looked at. -/
def Field.order : List Field := [.role,.instanceId,.ipAddress,.orgId,.appId,.spaceId]

def field (renewal : RenewalIdentity) : Field → String
  | .role => renewal.role
  | .instanceId => renewal.identity.instanceId
  | .ipAddress => renewal.identity.ipAddress
  | .orgId => renewal.identity.orgId
  | .appId => renewal.identity.appId
  | .spaceId => renewal.identity.spaceId

/-- In the order of the fields this is the first without a value. -/
def FirstEmpty (value : Field → String) (f : Field) : Prop :=
  ∃ before after, Field.order = before ++ f :: after ∧ value f = "" ∧ ∀ g ∈ before, value g ≠ ""

/-- The display names of a credential. -/
def namesOf (c : Credential) : PlatformNames where
  orgName := c.appAlias.metadata.orgName
  spaceName := c.appAlias.metadata.spaceName
  appName := c.appAlias.metadata.appName

/-! ## Gathering the fields -/

theorem required_error_iff {text : String} : required f text = .error g ↔ text = "" ∧ g = f := by
  unfold required
  split
  · rename_i hempty
    simp [String.isEmpty_iff.mp hempty, eq_comm]
  · rename_i hempty
    refine iff_of_false nofun ?_
    rintro ⟨rfl,-⟩
    exact hempty rfl

theorem judged_fields (c : Credential) :
    Judged (fun f g => fieldOf c f = "" ∧ g = f) (fun _ => []) (fun _ => []) Field.order
      (ofCredential c) ([] : List Unit) := by
  have hfield : ∀ f, Judged (fun f g => fieldOf c f = "" ∧ g = f) (fun _ => []) (fun _ => []) [f]
      (required f (fieldOf c f)) ([] : List Unit) :=
    fun _ => .look (fun _ => required_error_iff.symm) rfl rfl
  unfold ofCredential
  refine (hfield .role).bind fun _ _ => ?_
  refine (hfield .instanceId).bind fun _ _ => ?_
  refine (hfield .ipAddress).bind fun _ _ => ?_
  refine (hfield .orgId).bind fun _ _ => ?_
  refine (hfield .appId).bind fun _ _ => ?_
  refine (hfield .spaceId).bind fun _ _ => ?_
  exact .passed _

theorem mem_order (f : Field) : f ∈ Field.order := by cases f <;> decide

theorem ofCredential_iff :
    ofCredential c = .ok renewal ↔
      renewal = ⟨c.internalData.role,recorded c⟩ ∧ ∀ f, fieldOf c f ≠ "" := by
  constructor
  · intro h
    obtain ⟨hall,hrenewal⟩ := ofCredential_ok h
    exact ⟨hrenewal,hall⟩
  · rintro ⟨rfl,hall⟩
    exact ofCredential_ok_iff.mpr ⟨hall .role,hall .instanceId,hall .ipAddress,hall .orgId,
      hall .appId,hall .spaceId,rfl⟩

theorem firstEmpty_of_error (h : ofCredential c = .error f) : FirstEmpty (fieldOf c) f := by
  have hjudged := judged_fields c
  rw [h] at hjudged
  obtain ⟨g,before,after,horder,hbefore,⟨hempty,rfl⟩,-⟩ := hjudged.stopsAt
  exact ⟨before,after,horder,hempty,fun b hb hb' => hbefore b hb _ ⟨hb',rfl⟩⟩

theorem FirstEmpty.unique (hf : FirstEmpty value f) (hg : FirstEmpty value g) : f = g := by
  have hstops : ∀ {f : Field}, FirstEmpty value f →
      StopsAt (fun f g => value f = "" ∧ g = f) (fun _ => []) (fun _ => []) Field.order f f
        ([] : List Unit) := by
    rintro f ⟨before,after,horder,hempty,hbefore⟩
    exact ⟨before,after,horder,fun b hb _ hb' => hbefore b hb hb'.1,⟨hempty,rfl⟩,by simp⟩
  exact ((hstops hf).unique (hstops hg)).1

theorem ofCredential_error_iff : ofCredential c = .error f ↔ FirstEmpty (fieldOf c) f := by
  constructor
  · exact firstEmpty_of_error
  · intro hf
    cases hc : ofCredential c with
    | ok renewal =>
      obtain ⟨before,after,-,hempty,-⟩ := hf
      exact absurd hempty ((ofCredential_iff.mp hc).2 f)
    | error g => rw [(firstEmpty_of_error hc).unique hf]

/-! ## Issued credentials -/

theorem fieldOf_issued (i : Identity) (role : String) (names : PlatformNames)
    (token : TokenParams) :
    fieldOf { i.toCredential role names with token := token } = field ⟨role,i⟩ := by
  funext f
  cases f <;> rfl

theorem plain_name (f : Field) : ∀ c ∈ f.name.toList, Text.Plain c := by
  have hall : f.name.toList.all (fun c => decide (Text.Plain c)) = true := by
    cases f <;> decide +kernel
  intro c hc
  exact of_decide_eq_true (List.all_eq_true.mp hall c hc)

theorem message_corruptCredential (f : Field) : (Error.corruptCredential f).message =
    "unable to retrieve \"" ++ f.name ++ "\" during renewal, not a string" := by
  have hquote : Text.quote f.name = "\"" ++ f.name ++ "\"" := Text.quote_plain (plain_name f)
  change "unable to retrieve " ++ Text.quote f.name ++ " during renewal, not a string" = _
  rw [hquote]
  apply String.toList_injective
  simp

/-- A credential that was issued for a role and an identity gives both back if no field of them is
empty, whatever names it was issued with and whatever its token block holds; otherwise the first
empty field is named. A credential whose display name is its instance and whose alias is its
application is, but for its token block, the one that is issued for what is recovered from it. -/
theorem identity_recovered_exactly :
    (∀ i role names token renewal,
      ofCredential { Identity.toCredential i role names with token := token } = .ok renewal ↔
        renewal = ⟨role,i⟩ ∧ ∀ f, field ⟨role,i⟩ f ≠ "") ∧
    (∀ i role names token f,
      ofCredential { Identity.toCredential i role names with token := token } = .error f ↔
        FirstEmpty (field ⟨role,i⟩) f) ∧
    (∀ f : Field, (Error.corruptCredential f).message =
      "unable to retrieve \"" ++ f.name ++ "\" during renewal, not a string") ∧
    (∀ c renewal, c.displayName = c.internalData.instanceId →
      c.appAlias.name = c.appAlias.metadata.appId → ofCredential c = .ok renewal →
        renewal.identity.toCredential renewal.role (namesOf c) = { c with token := {} }) := by
  refine ⟨?_,?_,message_corruptCredential,?_⟩
  · intro i role names token renewal
    rw [ofCredential_iff, fieldOf_issued]
    rfl
  · intro i role names token f
    rw [ofCredential_error_iff, fieldOf_issued]
  · intro c renewal hdisplay halias hc
    obtain ⟨rfl,-⟩ := ofCredential_iff.mp hc
    obtain ⟨internalData,displayName,⟨name,metadata⟩,token⟩ := c
    simp only at hdisplay halias
    subst hdisplay halias
    rfl

def sampleIdentity : Identity := ⟨"instance","org","space","app","10.0.0.1"⟩

def sampleIssued : Credential :=
  { sampleIdentity.toCredential "reader" ⟨"Org","Space","App"⟩ with token := { policies := ["p"] } }

theorem identity_recovered_exactly_sample :
    ofCredential sampleIssued = .ok ⟨"reader",sampleIdentity⟩ ∧
    ofCredential { Identity.toCredential ⟨"instance","org","","",""⟩ "reader" {} with
      token := {} } = .error .ipAddress ∧
    sampleIdentity.toCredential "reader" (namesOf sampleIssued) =
      { sampleIssued with token := {} } := by
  have hok : ofCredential sampleIssued = .ok ⟨"reader",sampleIdentity⟩ :=
    (identity_recovered_exactly.1 _ _ _ _ _).mpr ⟨rfl,by intro f; cases f <;> decide⟩
  have herror : FirstEmpty (field ⟨"reader",⟨"instance","org","","",""⟩⟩) .ipAddress :=
    ⟨[.role,.instanceId],[.orgId,.appId,.spaceId],rfl,rfl,by decide⟩
  exact ⟨hok,(identity_recovered_exactly.2.1 _ _ _ _ _).mpr herror,
    identity_recovered_exactly.2.2.2 _ _ rfl rfl hok⟩

end WorkloadLogin.RenewalIdentity
