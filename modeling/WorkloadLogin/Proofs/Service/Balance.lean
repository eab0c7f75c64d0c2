import WorkloadLogin.Proofs.Service.Custody

/-! # Actions that end where they began

Most parts of a call leave the stance of their task, in the end, as they found it. What they need of
a protocol for that is only that their requests are moves that change nothing.
-/
namespace WorkloadLogin.Service
variable {α β ε : Type} {P : Protocol} {φ : P.Stance} {q : Request} {x : Action α}

/-- Whatever the answers are, the action ends in the stance that it began in. -/
def Balanced (P : Protocol) (x : Action α) (φ : P.Stance) : Prop :=
  Follows P x.run φ fun _ ψ => ψ = φ

theorem balanced_pure (a : α) : Balanced P (pure a) φ := rfl

theorem balanced_throw (e : Error) : Balanced P (throw e : Action α) φ := rfl

theorem balanced_orFail (failure : ε → Error) (r : Except ε α) :
    Balanced P (orFail failure r) φ := by
  cases r <;> rfl

theorem balanced_ask (h : ∀ a, P.Moves φ q a φ) : Balanced P (ask q) φ :=
  Follows.ask fun a => ⟨φ,h a,rfl⟩

namespace Balanced

theorem bind_follows {f : α → Action β} {Q : Except Error β → P.Stance → Prop}
    (hx : Balanced P x φ) (hok : ∀ a, Follows P (f a).run φ Q) (herror : ∀ e, Q (.error e) φ) :
    Follows P (x >>= f).run φ Q := by
  refine Follows.bind_action (hx.mono fun r ψ hψ => ?_)
  subst hψ
  cases r with
  | ok a => exact hok a
  | error e => exact herror e

theorem bind {f : α → Action β} (hx : Balanced P x φ) (hf : ∀ a, Balanced P (f a) φ) :
    Balanced P (x >>= f) φ := hx.bind_follows hf fun _ => rfl

theorem tryCatch {handler : Error → Action α} (hx : Balanced P x φ)
    (hh : ∀ e, Balanced P (handler e) φ) : Balanced P (tryCatch x handler) φ := by
  refine Follows.bind (hx.mono fun r ψ hψ => ?_)
  subst hψ
  cases r with
  | ok a => rfl
  | error e => exact hh e

theorem orFail {f : ε → Error} {x : Action (Except ε α)} {g : α → Action β}
    (hx : Balanced P x φ) (hg : ∀ a, Balanced P (g a) φ) :
    Balanced P (x >>= fun r => Service.orFail f r >>= g) φ :=
  hx.bind fun r => (balanced_orFail f r).bind hg

end Balanced

/-! ## Parts of the calls -/

theorem balanced_findRole (hread : ∀ name a, P.Moves φ (.readRole name) a φ) (name : String)
    (absent : Error) : Balanced P (findRole name absent) φ := by
  refine (balanced_ask (hread name)).orFail fun r => ?_
  cases r with
  | none => exact balanced_throw _
  | some role => exact balanced_pure _

theorem balanced_verify (hneutral : ∀ {q : Request} (a : q.Answer), q.Neutral → P.Moves φ q a φ)
    (config : Config) (request : LoginRequest) (signingTime : Instant) (now : Timestamp) :
    Balanced P (verify config request signingTime now) φ := by
  have hask : ∀ {q : Request}, q.Neutral → Balanced P (ask q) φ :=
    fun hq => balanced_ask fun a => hneutral a hq
  refine Balanced.orFail (hask trivial) fun certs => ?_
  refine Balanced.orFail (hask trivial) fun signing => ?_
  refine Balanced.orFail (hask trivial) fun _ => ?_
  have hidentify : Balanced P (ask (.identify signing)) φ := hask trivial
  exact hidentify.bind fun _ => balanced_orFail _ _

section Lookups
variable {client : ClientId}
  (hlookup : ∀ kind guid r, P.Moves φ (.lookup client kind guid) r φ)
include hlookup

theorem balanced_confirm (kind : Platform.Kind) (guid : String) :
    Balanced P (confirm client kind guid) φ :=
  (balanced_ask (hlookup kind guid)).bind fun _ => balanced_orFail _ _

theorem balanced_crossCheck (role : Role) (identity : Identity) (connection : Option Connection) :
    Balanced P (crossCheck client role identity connection) φ := by
  have hconfirm : ∀ kind guid, Balanced P (confirm client kind guid) φ :=
    balanced_confirm hlookup
  refine (balanced_orFail _ _).bind fun _ => ?_
  refine (balanced_orFail _ _).bind fun _ => ?_
  refine (hconfirm _ _).bind fun app => ?_
  refine (balanced_orFail _ _).bind fun _ => ?_
  refine (hconfirm _ _).bind fun org => ?_
  refine (balanced_orFail _ _).bind fun _ => ?_
  exact (hconfirm _ _).bind fun space => balanced_orFail _ _

theorem balanced_lookupNames (identity : Identity) :
    Balanced P (lookupNames client identity) φ := by
  have hask : ∀ kind guid, Balanced P (ask (.lookup client kind guid)) φ :=
    fun kind guid => balanced_ask (hlookup kind guid)
  refine (hask _ _).orFail fun org => ?_
  refine (hask _ _).orFail fun app => ?_
  exact (hask _ _).orFail fun space => balanced_pure _

end Lookups
end WorkloadLogin.Service
