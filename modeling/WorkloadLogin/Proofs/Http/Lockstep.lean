import Mathlib.Data.List.Forall2
import WorkloadLogin.Proofs.Http.Transcript

/-! # Conversations in step

Two conversations are in step when they send requests that are alike for as long as they are given
the same replies, and end alike. Whoever they talk to, equal replies then make their transcripts
agree from the first request to the last one.
-/
namespace WorkloadLogin.Http
variable {α β γ δ ε : Type} {R : Request → Request → Prop} {E : α → β → Prop} {F : γ → δ → Prop}

inductive Lockstep (R : Request → Request → Prop) (E : α → β → Prop) : Talk α → Talk β → Prop
  | done {a : α} {b : β} (h : E a b) : Lockstep R E (.done a) (.done b)
  | ask {q q' : Request} {next : Option Reply → Talk α} {next' : Option Reply → Talk β}
      (hq : R q q') (h : ∀ reply, Lockstep R E (next reply) (next' reply)) :
      Lockstep R E (.ask q next) (.ask q' next')

/-- Outcomes that fail for the same reason or have values that are alike. -/
inductive Matches (E : α → β → Prop) : Except ε α → Except ε β → Prop
  | error (e : ε) : Matches E (.error e) (.error e)
  | ok {a : α} {b : β} (h : E a b) : Matches E (.ok a) (.ok b)

theorem matches_refl (r : Except ε α) : Matches Eq r r := by
  cases r with
  | error e => exact .error e
  | ok a => exact .ok rfl

namespace Lockstep

theorem pure {a : α} {b : β} (h : E a b) : Lockstep R E (Pure.pure a) (Pure.pure b) := .done h

theorem bind {x : Talk α} {y : Talk β} {f : α → Talk γ} {g : β → Talk δ} (h : Lockstep R E x y)
    (hnext : ∀ a b, E a b → Lockstep R F (f a) (g b)) : Lockstep R F (x >>= f) (y >>= g) := by
  change Lockstep R F (x.bind f) (y.bind g)
  induction h with
  | done h => exact hnext _ _ h
  | ask hq _ ih => exact .ask hq ih

theorem bind_except {x : ExceptT ε Talk α} {y : ExceptT ε Talk β} {f : α → ExceptT ε Talk γ}
    {g : β → ExceptT ε Talk δ} (h : Lockstep R (Matches E) x.run y.run)
    (hnext : ∀ a b, E a b → Lockstep R (Matches F) (f a).run (g b).run) :
    Lockstep R (Matches F) (x >>= f).run (y >>= g).run := by
  change Lockstep R (Matches F) (x.run >>= ExceptT.bindCont f) (y.run >>= ExceptT.bindCont g)
  refine h.bind fun r r' hr => ?_
  cases hr with
  | error e => exact .done (.error e)
  | ok h => exact hnext _ _ h

theorem lift {x : Talk α} {y : Talk β} (h : Lockstep R E x y) :
    Lockstep R (Matches E) (ExceptT.lift x : ExceptT ε Talk α).run
      (ExceptT.lift y : ExceptT ε Talk β).run :=
  h.bind fun _ _ hab => .done (.ok hab)

/-- A conversation is in step with itself where every request is like itself. -/
theorem refl (hR : ∀ q, R q q) (x : Talk α) : Lockstep R Eq x x := by
  induction x with
  | done a => exact .done rfl
  | ask q next ih => exact .ask (hR q) ih

theorem question {q q' : Request} (hq : R q q') :
    Lockstep R Eq (Dialogue.question (A := fun _ => Option Reply) q)
      (Dialogue.question (A := fun _ => Option Reply) q') :=
  .ask hq fun _ => .done rfl

/-- Two exchanges that go to the same address, and of which both or neither can be put together. -/
theorem exchange {r r' : Request} (hR : R r.withoutUserInfo r'.withoutUserInfo)
    (hurl : r.withoutUserInfo.url = r'.withoutUserInfo.url)
    (hlegal : r.withoutUserInfo.authorizations.all Authorization.isLegal =
      r'.withoutUserInfo.authorizations.all Authorization.isLegal) :
    Lockstep R Eq r.exchange r'.exchange := by
  unfold Request.exchange
  dsimp only
  rw [hlegal, hurl]
  split
  · exact .done rfl
  · split
    · exact .done rfl
    · refine (question hR).bind ?_
      rintro reply _ rfl
      cases reply with
      | none => exact .done rfl
      | some reply => exact .done rfl

end Lockstep

/-- What the user information of an address makes of a request depends on the address alone. -/
theorem Request.exists_withoutUserInfo (url : Url) :
    ∃ (sent : Url) (before : List Authorization), ∀ r : Request, r.url = url →
      r.withoutUserInfo = { r with url := sent, authorizations := before ++ r.authorizations } := by
  cases hinfo : url.userInfo with
  | none =>
    refine ⟨url,[],?_⟩
    rintro r rfl
    simp [Request.withoutUserInfo, hinfo]
  | some info =>
    cases huser : Request.plainText? info.username with
    | none =>
      refine ⟨url,[],?_⟩
      rintro r rfl
      simp [Request.withoutUserInfo, hinfo, huser]
    | some user =>
      by_cases hempty : (user.isEmpty && (info.password.bind Request.plainText?).isNone) = true
      · refine ⟨url,[],?_⟩
        rintro r rfl
        simp only [Request.withoutUserInfo, hinfo, huser, hempty, if_true, List.nil_append]
      · refine ⟨{ url with userInfo := none },
          [.basic user ((info.password.bind Request.plainText?).getD "")],?_⟩
        rintro r rfl
        simp only [Request.withoutUserInfo, hinfo, huser]
        rw [if_neg hempty]
        rfl

/-- Both transcripts have the same replies as far as they go. -/
def SameReplies (ts us : List Turn) : Prop :=
  ∀ (i : Nat) (t u : Turn), ts[i]? = some t → us[i]? = some u → t.reply = u.reply

variable {ts us : List Turn} {t u : Turn}

theorem SameReplies.head (h : SameReplies (t :: ts) (u :: us)) : t.reply = u.reply :=
  h 0 t u rfl rfl

theorem SameReplies.tail (h : SameReplies (t :: ts) (u :: us)) : SameReplies ts us :=
  fun i _ _ ht hu => h (i + 1) _ _ ht hu

theorem sameReplies_of_map_eq (h : ts.map Turn.reply = us.map Turn.reply) : SameReplies ts us := by
  intro i t u ht hu
  have hi : (ts.map Turn.reply)[i]? = (us.map Turn.reply)[i]? := by rw [h]
  simpa [ht, hu] using hi

/-- Conversations in step that are given the same replies send requests alike, one for one, and end
alike. -/
theorem Lockstep.transcripts {x : Talk α} {y : Talk β} {a : α} {b : β} (h : Lockstep R E x y)
    (hx : Transcript x ts a) (hy : Transcript y us b) (hreplies : SameReplies ts us) :
    E a b ∧ List.Forall₂ (fun t u => R t.request u.request) ts us := by
  induction h generalizing ts us with
  | done h =>
    cases hx
    cases hy
    exact ⟨h,.nil⟩
  | ask hq _ ih =>
    cases hx with
    | ask reply hx =>
      cases hy with
      | ask reply' hy =>
        obtain rfl : reply = reply' := hreplies.head
        obtain ⟨hend,hturns⟩ := ih reply hx hy hreplies.tail
        exact ⟨hend,.cons hq hturns⟩

end WorkloadLogin.Http
