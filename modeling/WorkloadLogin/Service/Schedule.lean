import WorkloadLogin.Service.State

/-! # Running tasks together

Tasks run in rounds: in each round every unfinished task runs as far as it gets. Between rounds
the world may move on, for instance let a connection attempt end. -/
namespace WorkloadLogin.Service.Schedule
variable {σ α : Type}

structure Task (α : Type) where
  id : TaskId
  talk : Talk α

def Task.finished (t : Task α) : Bool := t.talk.result?.isSome

/-- One round over all tasks. -/
def round (w : World σ) : List (Task α) → State σ → List (Task α) × State σ
  | [], s => ([], s)
  | t :: ts, s =>
    let (talk, s) := State.advance w t.id t.talk s
    let (ts, s) := round w ts s
    ({ t with talk := talk } :: ts, s)

/-- Rounds until all tasks are finished, at most `most` of them. -/
def rounds (w : World σ) (between : σ → σ) :
    (most : Nat) → List (Task α) → State σ → List (Task α) × State σ
  | 0, ts, s => (ts, s)
  | most + 1, ts, s =>
    if ts.all Task.finished then (ts, s)
    else
      let (ts, s) := round w ts { s with world := between s.world }
      rounds w between most ts s

/-- Runs one task by itself. -/
def alone (w : World σ) (x : Talk α) (s : State σ) : Option α × State σ :=
  let (x, s) := State.advance w 0 x s
  (x.result?, s)

end WorkloadLogin.Service.Schedule
