/-! # Dialogues

A dialogue is a computation that asks questions of its surroundings and goes on with the answers.
It is a finite tree, so whoever answers can run it, stop it at a question and take it up again. -/
namespace WorkloadLogin

inductive Dialogue (Q : Type) (A : Q → Type) (α : Type) : Type where
  | done (a : α)
  | ask (q : Q) (next : A q → Dialogue Q A α)

namespace Dialogue
variable {Q : Type} {A : Q → Type} {α β σ : Type}

protected def bind : Dialogue Q A α → (α → Dialogue Q A β) → Dialogue Q A β
  | done a, f => f a
  | ask q next, f => ask q fun a => (next a).bind f

instance : Monad (Dialogue Q A) where
  pure := done
  bind := Dialogue.bind

/-- The dialogue of one question. -/
def question (q : Q) : Dialogue Q A (A q) := ask q done

/-- Runs a dialogue against answers that change a state, up to its end or to the first question
that has no answer yet. -/
def advance (answer : (q : Q) → σ → Option (A q × σ)) : Dialogue Q A α → σ → Dialogue Q A α × σ
  | done a, s => (done a, s)
  | ask q next, s =>
    match answer q s with
    | none => (ask q next, s)
    | some (a, s) => (next a).advance answer s

def result? : Dialogue Q A α → Option α
  | done a => some a
  | ask _ _ => none

/-- Runs a dialogue whose questions always have an answer. -/
def run (answer : (q : Q) → σ → A q × σ) : Dialogue Q A α → σ → α × σ
  | done a, s => (a, s)
  | ask q next, s =>
    let (a, s) := answer q s
    (next a).run answer s

theorem bind_done (x : Dialogue Q A α) : x.bind done = x := by
  induction x with
  | done a => rfl
  | ask q next ih => simp [Dialogue.bind, ih]

theorem bind_assoc {γ : Type} (x : Dialogue Q A α) (f : α → Dialogue Q A β)
    (g : β → Dialogue Q A γ) : (x.bind f).bind g = x.bind fun a => (f a).bind g := by
  induction x with
  | done a => rfl
  | ask q next ih => simp [Dialogue.bind, ih]

instance : LawfulMonad (Dialogue Q A) :=
  LawfulMonad.mk' _ (fun x => bind_done x) (fun _ _ => rfl) (fun x f g => bind_assoc x f g)

end Dialogue
end WorkloadLogin
