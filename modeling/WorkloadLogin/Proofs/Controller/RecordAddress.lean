import WorkloadLogin.Controller.Client
import WorkloadLogin.Proofs.Http.Segments

/-! # Addresses of records

The address of a record is the client's address with three segments behind its path, the last one
read as the GUID. This holds of the GUIDs that are segments of their own, and of those alone: two of
them never share an address, while the texts for the same place and for the parent lead to the
collection itself and stray characters to the record of another GUID.
-/
namespace WorkloadLogin.Controller
open Http Platform
variable {base u : Url} {kind kind' : Kind} {guid guid' : String}

/-- An address below the base that is the record's own: only the path is another one, and the record
is named in it. -/
structure Pinpoints (base : Url) (kind : Kind) (guid : String) (u : Url) : Prop where
  scheme : u.scheme = base.scheme
  host : u.host = base.host
  portNumber : u.portNumber = base.portNumber
  path : ∃ segment, u.path = Url.openPath base.path ++ ["v2",collection kind,segment] ∧
    Url.ReadsAs segment guid

theorem written_collection (kind : Kind) : Url.written (collection kind) = collection kind := by
  cases kind <;> decide +kernel

theorem collection_inj : collection kind = collection kind' ↔ kind = kind' := by
  cases kind <;> cases kind' <;> decide

theorem path_recordUrl (c : Client) (kind : Kind) (guid : String) :
    (c.recordUrl kind guid).path =
      Url.addSegment (c.api.front ++ ["v2",collection kind]) guid := by
  have hversion : Url.written "v2" = "v2" := by decide +kernel
  have hcollection : Url.Proper (collection kind) := by cases kind <;> decide +kernel
  have hne : collection kind ≠ "" := by cases kind <;> decide
  have hpath := c.api.path_below (a := "v2") (by decide +kernel) hcollection (by
    rw [hversion, written_collection]
    exact ⟨by decide,hne⟩) guid
  rw [hversion, written_collection, List.append_assoc] at hpath
  exact hpath

theorem bare_collection (front : List String) (kind : Kind) :
    Url.bare (front ++ ["v2",collection kind]) = front ++ ["v2",collection kind] := by
  have hne : collection kind ≠ "" := by cases kind <;> decide
  have hpath := Url.append_ne_singleton (front ++ ["v2"]) hne
  rw [List.append_assoc] at hpath
  exact Url.bare_of_ne hpath

theorem path_recordUrl_of_proper (c : Client) (kind : Kind) (h : Url.Proper guid) :
    (c.recordUrl kind guid).path = c.api.front ++ ["v2",collection kind,Url.written guid] := by
  rw [path_recordUrl, Url.addSegment_of_proper h, bare_collection, List.append_assoc]
  rfl

/-- The texts for the same place and for the parent lead to the collection. -/
theorem recordUrl_of_dots (c : Client) (kind : Kind) (h : guid = "." ∨ guid = "..") :
    c.recordUrl kind guid = c.api.below ["v2",collection kind] := by
  have hskipped : ∀ path, ["v2",collection kind,guid].foldl Url.addSegment path =
      ["v2",collection kind].foldl Url.addSegment path := by
    intro path
    simp only [List.foldl_cons, List.foldl_nil]
    exact Url.addSegment_of_dots h
  unfold Client.recordUrl Url.below
  dsimp only
  rw [hskipped]

theorem pinpoints_recordUrl_iff (c : Client) (kind : Kind) (guid : String) :
    Pinpoints c.api kind guid (c.recordUrl kind guid) ↔
      c.api.path ≠ ["",""] ∧ Url.Proper guid := by
  have hpath := path_recordUrl c kind guid
  have hcollection : c.api.front ++ ["v2",collection kind] ≠ [""] := by
    intro h
    have hlength := congrArg List.length h
    simp at hlength
  constructor
  · rintro ⟨-,-,-,segment,hsegment,hread⟩
    rw [hpath] at hsegment
    have hbase : c.api.path ≠ ["",""] := by
      intro hempty
      have hopen : Url.openPath c.api.path = [""] := Url.openPath_eq_singleton_iff.mpr hempty
      have hlength := Url.length_addSegment_le (c.api.front ++ ["v2",collection kind]) guid
      rw [hsegment, hopen, Url.front_eq_nil hempty] at hlength
      simp at hlength
    rw [Url.front_eq_openPath hbase] at hsegment hcollection
    refine ⟨hbase,(Url.exists_addSegment_iff hcollection).mp ⟨segment,?_,hread⟩⟩
    rw [hsegment, List.append_assoc]
    rfl
  · rintro ⟨hbase,hguid⟩
    refine ⟨rfl,rfl,rfl,Url.written guid,?_,Url.readsAs_written hguid⟩
    rw [path_recordUrl_of_proper c kind hguid, Url.front_eq_openPath hbase]

theorem recordUrl_inj (c : Client) (h : Url.Proper guid) (h' : Url.Proper guid') :
    c.recordUrl kind guid = c.recordUrl kind' guid' ↔ kind = kind' ∧ guid = guid' := by
  constructor
  · intro heq
    have hpaths : (c.recordUrl kind guid).path = (c.recordUrl kind' guid').path := by
      rw [heq]
    rw [path_recordUrl_of_proper c kind h, path_recordUrl_of_proper c kind' h'] at hpaths
    have hnames := List.append_cancel_left hpaths
    simp only [List.cons.injEq, true_and, and_true] at hnames
    exact ⟨collection_inj.mp hnames.1,(Url.written_inj h h').mp hnames.2⟩
  · rintro ⟨rfl,rfl⟩
    rfl

/-- The address of a record is its own exactly for a proper GUID and a base whose path is not two
empty segments; and the records of proper GUIDs never share an address. -/
theorem records_addressed_apart (c : Client) :
    (∀ kind guid, Pinpoints c.api kind guid (c.recordUrl kind guid) ↔
      c.api.path ≠ ["",""] ∧ Url.Proper guid) ∧
    (∀ kind kind' guid guid', Url.Proper guid → Url.Proper guid' →
      (c.recordUrl kind guid = c.recordUrl kind' guid' ↔ kind = kind' ∧ guid = guid')) :=
  ⟨pinpoints_recordUrl_iff c,fun _ _ _ _ => recordUrl_inj c⟩

def localClient : Client where
  api := { scheme := .http, host := .v6 1 }
  tokenUrl := { scheme := .http, host := .v6 1, path := ["oauth","token"] }
  credentials := ⟨"login","",.clientCredentials⟩
  token := "first"

theorem records_addressed_apart_sample :
    Pinpoints localClient.api .app "../info" (localClient.recordUrl .app "../info") ∧
      Url.Proper "../info" ∧ Url.Proper "..%2Finfo" ∧
      localClient.recordUrl .app "../info" ≠ localClient.recordUrl .app "..%2Finfo" := by
  obtain ⟨hpinpoints,hinj⟩ := records_addressed_apart localClient
  have hslash : Url.Proper "../info" := by decide +kernel
  have hescape : Url.Proper "..%2Finfo" := by decide +kernel
  refine ⟨(hpinpoints _ _).mpr ⟨by decide,hslash⟩,hslash,hescape,?_⟩
  intro heq
  exact absurd ((hinj _ _ _ _ hslash hescape).mp heq).2 (by decide)

/-- The text for the parent is asked for at the collection, like the one for the same place. -/
theorem dots_address_collection :
    baseAddress "http://[::1]" = .ok localClient.api ∧
      (localClient.recordUrl .app "..").render = "http://[::1]/v2/apps" ∧
      localClient.recordUrl .app ".." = localClient.recordUrl .app "." ∧
      ¬ Pinpoints localClient.api .app ".." (localClient.recordUrl .app "..") := by
  have hparent := recordUrl_of_dots localClient .app (.inr rfl)
  have hsame := recordUrl_of_dots localClient .app (.inl rfl)
  refine ⟨rfl,by decide +kernel,hparent.trans hsame.symm,?_⟩
  intro h
  have hproper := ((pinpoints_recordUrl_iff localClient .app "..").mp h).2
  exact hproper.2.1 rfl

end WorkloadLogin.Controller
