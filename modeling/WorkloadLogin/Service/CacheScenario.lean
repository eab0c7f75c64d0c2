import WorkloadLogin.Service.Client
import WorkloadLogin.Service.Schedule
import WorkloadLogin.Service.Script

/-! # Scenarios of the client cache alone

Tasks ask for the shared client, taint it or drop it; connections succeed or fail as they are
told. -/
namespace WorkloadLogin.Service.CacheScenario

abbrev Outcome := Except Platform.Error ClientId

def clientResult : Option (Except Error ClientId) → Option Outcome
  | some (.ok c) => some (.ok c)
  | some (.error (.platform e)) => some (.error e)
  | _ => none

def instructed (fault : Option Platform.Error) (slow : Bool) (s : State Script) : State Script :=
  { s with world := { s.world with connectFault := fault, slow := slow, waiting := false } }

/-- So many tasks at once that ask for the client; their outcomes in order. -/
def connectMany (n : Nat) (fault : Option Platform.Error) (s : State Script) :
    List Outcome × State Script :=
  let tasks := (List.range n).map fun id => ⟨id, (getOrConnect {}).run⟩
  let (tasks, s) :=
    Schedule.rounds Script.world Script.release (2 * n + 2) tasks (instructed fault true s)
  (tasks.filterMap fun t => clientResult t.talk.result?, s)

def connectOne (fault : Option Platform.Error) (s : State Script) :
    Option Outcome × State Script :=
  let (r, s) := Schedule.alone Script.world (getOrConnect {}).run (instructed fault false s)
  (clientResult r, s)

def truthOf {α : Type} (r : Option (Except Error Bool) × α) : Bool × α :=
  (match r.1 with
    | some (.ok b) => b
    | _ => false, r.2)

def taint (client : ClientId) (s : State Script) : Bool × State Script :=
  truthOf (Schedule.alone Script.world (ask (.taint client)).run s)

def reset (s : State Script) : Bool × State Script :=
  truthOf (Schedule.alone Script.world forgetClient.run s)

/-- Connection attempts that were ever started. -/
def attempts (s : State Script) : Nat :=
  (s.log.filter fun
    | .startConnect _ => true
    | _ => false).length

end WorkloadLogin.Service.CacheScenario
