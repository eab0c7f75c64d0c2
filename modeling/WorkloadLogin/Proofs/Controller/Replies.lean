import WorkloadLogin.Controller.Client
import WorkloadLogin.Proofs.Gates
import WorkloadLogin.Proofs.Http.Transcript

/-! # What replies say

The status of a reply is judged before its body is read. A record that is missing is told apart
from one that cannot be had, and a token that is refused from any other failure.
-/
namespace WorkloadLogin.Controller
open Http Platform
variable {α : Type} {c : Client} {kind : Kind} {guid : String} {url : Url} {d : Json.Decoder α}
  {reply : Reply}

/-- The text is JSON that stands for this value. -/
def Carries (d : Json.Decoder α) (body : String) (a : α) : Prop :=
  ∃ v, Json.read? body = some v ∧ d .refused v = .ok a

inductive Reads (url : Url) (d : Json.Decoder α) (reply : Reply) :
    Except Platform.Error α → Prop
  | refused (h : reply.status = 401 ∨ reply.status = 403) :
      Reads url d reply (.error (.unauthorized (url.render ++ " answered " ++ reply.status.render)))
  | unsuccessful (h₁ : reply.status ≠ 401) (h₃ : reply.status ≠ 403)
      (h : reply.status < 200 ∨ 300 ≤ reply.status) :
      Reads url d reply (.error (.transport (url.render ++ " answered " ++ reply.status.render)))
  | unreadable (h : 200 ≤ reply.status ∧ reply.status < 300) (hd : ∀ a, ¬ Carries d reply.body a) :
      Reads url d reply
        (.error (.invalidResponse (url.render ++ ": error decoding response body")))
  | value {a : α} (h : 200 ≤ reply.status ∧ reply.status < 300) (hd : Carries d reply.body a) :
      Reads url d reply (.ok a)

/-- What became of a request to `url` whose reply is to carry a value. -/
inductive Fetches (url : Url) (d : Json.Decoder α) : Option Reply → Except Platform.Error α → Prop
  | unanswered : Fetches url d none
      (.error (.transport ("error sending request for url (" ++ url.render ++ ")")))
  | answered {reply : Reply} {r : Except Platform.Error α} (h : Reads url d reply r) :
      Fetches url d (some reply) r

/-- What a lookup finds when this is the outcome of its last request. -/
inductive Finds (c : Client) (kind : Kind) (guid : String) : Option Reply → Found kind → Prop
  | missing {reply : Reply} (h : reply.status = 404) :
      Finds c kind guid (some reply) (.error (.notFound kind guid))
  | fetched {reply : Option Reply} {found : Found kind} (h : ∀ r ∈ reply, r.status ≠ 404)
      (hf : Fetches (c.recordUrl kind guid) (Wire.resource kind).decode reply found) :
      Finds c kind guid reply found

theorem readReply_of_refused (h : reply.status = 401 ∨ reply.status = 403) :
    readReply url d reply = .error (.refused url reply.status) := if_pos h

theorem readReply_of_unsuccessful (h₁ : reply.status ≠ 401) (h₃ : reply.status ≠ 403)
    (h : reply.status < 200 ∨ 300 ≤ reply.status) :
    readReply url d reply = .error (.unsuccessful url reply.status) := by
  have hs : (!reply.status.isSuccess) = true := by
    rcases h with h | h
    · simp [Status.isSuccess, Nat.not_le_of_lt h]
    · simp [Status.isSuccess, Nat.not_lt_of_le h]
  exact (if_neg (not_or.mpr ⟨h₁,h₃⟩)).trans (if_pos hs)

theorem readReply_of_success (h : 200 ≤ reply.status ∧ reply.status < 300) :
    readReply url d reply = match Json.read? reply.body with
      | none => .error (.unreadable url)
      | some v => (d .refused v).mapError fun _ => .unreadable url := by
  have h₁ : ¬(reply.status = 401 ∨ reply.status = 403) := by
    rintro (he | he) <;> rw [he] at h <;> exact absurd h.2 (by decide)
  have hs : ¬(!reply.status.isSuccess) = true := by
    simp [Status.isSuccess, h.1, h.2]
  exact (if_neg h₁).trans (if_neg hs)

theorem reads_iff {r : Except Platform.Error α} :
    Reads url d reply r ↔ r = (readReply url d reply).mapError Fault.toError := by
  constructor
  · intro h
    cases h with
    | refused h =>
      rw [readReply_of_refused h]
      rfl
    | unsuccessful h₁ h₃ h =>
      rw [readReply_of_unsuccessful h₁ h₃ h]
      rfl
    | unreadable h hd =>
      rw [readReply_of_success h]
      cases hv : Json.read? reply.body with
      | none => rfl
      | some v =>
        cases hr : d .refused v with
        | ok a => exact absurd ⟨v,hv,hr⟩ (hd a)
        | error e => simp [hr, Fault.toError]
    | value h hd =>
      obtain ⟨v,hv,hr⟩ := hd
      rw [readReply_of_success h, hv]
      simp [hr]
  · rintro rfl
    by_cases hrefused : reply.status = 401 ∨ reply.status = 403
    · rw [readReply_of_refused hrefused]
      exact .refused hrefused
    obtain ⟨h₁,h₃⟩ := not_or.mp hrefused
    by_cases hsuccess : 200 ≤ reply.status ∧ reply.status < 300
    · rw [readReply_of_success hsuccess]
      cases hv : Json.read? reply.body with
      | none =>
        refine .unreadable hsuccess ?_
        rintro a ⟨v,hread,-⟩
        cases hv.symm.trans hread
      | some v =>
        cases hr : d .refused v with
        | ok a =>
          simp only [hr]
          exact .value hsuccess ⟨v,hv,hr⟩
        | error e =>
          simp only [hr]
          refine .unreadable hsuccess ?_
          rintro a ⟨u,hread,hdecode⟩
          cases hv.symm.trans hread
          cases hr.symm.trans hdecode
    · have houtside : reply.status < 200 ∨ 300 ≤ reply.status := by
        rcases Nat.lt_or_ge reply.status 200 with hlow | hlow
        · exact .inl hlow
        · exact .inr (Nat.le_of_not_lt fun hhigh => hsuccess ⟨hlow,hhigh⟩)
      rw [readReply_of_unsuccessful h₁ h₃ houtside]
      exact .unsuccessful h₁ h₃ houtside

theorem reads_ok_iff {a : α} : Reads url d reply (.ok a) ↔ readReply url d reply = .ok a := by
  rw [reads_iff,eq_comm,mapError_ok_iff]

theorem fetches_iff {q : Request} (hq : q.url = url) {reply : Option Reply}
    {r : Except Platform.Error α} :
    Fetches url d reply r ↔
      r = (((q.outcome reply).mapError Fault.failed).bind (readReply url d)).mapError
        Fault.toError := by
  subst hq
  cases reply with
  | none =>
    constructor
    · rintro ⟨⟩
      rfl
    · rintro rfl
      exact .unanswered
  | some reply =>
    constructor
    · rintro (_ | h)
      exact reads_iff.mp h
    · intro h
      exact .answered (reads_iff.mpr h)

end WorkloadLogin.Controller
