import WorkloadLogin.Credential.Codec
import WorkloadLogin.Json.Pointer
import WorkloadLogin.Service.Login
import WorkloadLogin.Service.Schedule
import WorkloadLogin.Service.Script

/-! # Scenarios

A scenario is a service in scripted surroundings that is taken through steps one after another.
The last credential that a step issued is kept for renewals. -/
namespace WorkloadLogin.Service

structure Scenario where
  state : State Script
  issued : Option Credential := none

namespace Scenario

/-- The credential that a renewal starts from. -/
inductive Source where
  | issued
  | given (v : Json)

inductive Step where
  | login (request : LoginRequest) (connection : Option Connection)
  | renew (source : Source) (edits : List (String × Json)) (connection : Option Connection)
  | resolveRole (name : String)
  | writeConfig (c : Config)
  | setConfig (c : Option Config)
  | putRole (name : String) (role : Role)
  | deleteRole (name : String)
  | roleNames
  | script (change : Script → Script)
  | concurrentLogins (n : Nat) (request : LoginRequest) (connection : Option Connection)
  | writeDuringLogin (request : LoginRequest) (connection : Option Connection) (c : Config)

inductive Value where
  | none
  | credential (c : Credential)
  | name (s : String)
  | names (ss : List String)
  | truth (b : Bool)
  | tally (succeeded failed : Nat)
  | overlap (loginDone writeDone : Bool) (login : Except Error Credential)
      (write : Except Error Unit)

inductive Trouble where
  | refused (e : Error)
  | undecodable (e : Json.DecodeError)
  | nothingIssued
  /-- A task that waits forever. -/
  | stuck

abbrev Outcome := Except Trouble Value

/-- Runs one action by itself. -/
def perform {α : Type} (action : Action α) (value : α → Value) (sc : Scenario) :
    Outcome × Scenario :=
  let (r, s) := Schedule.alone Script.world action.run sc.state
  let outcome := match r with
    | some (.ok a) => .ok (value a)
    | some (.error e) => .error (.refused e)
    | none => .error .stuck
  (outcome, { sc with state := s })

/-- Keeps the credential of an outcome as the last one issued. -/
def keepIssued : Outcome × Scenario → Outcome × Scenario
  | (.ok (.credential c), sc) => (.ok (.credential c), { sc with issued := some c })
  | r => r

def editWith (edits : List (String × Json)) (v : Json) : Json :=
  (edits.foldl (fun v e => v.setAt e.1 e.2) v).normalize

/-- The credential to renew. -/
def credentialOf (issued : Option Credential) (source : Source) (edits : List (String × Json)) :
    Except Trouble Credential :=
  let start : Option Json := match source with
    | .issued => issued.map Credential.encode
    | .given v => some v
  match start with
  | none => .error .nothingIssued
  | some v => (Credential.decode (editWith edits v)).mapError .undecodable

def changeStore (change : Store → Store) (sc : Scenario) : Scenario :=
  { sc with state := { sc.state with store := change sc.state.store } }

def changeScript (change : Script → Script) (sc : Scenario) : Scenario :=
  { sc with state := { sc.state with world := change sc.state.world } }

/-- Several logins at once; each connection lets the others run before it ends. -/
def concurrently (n : Nat) (login : Action Credential) (sc : Scenario) : Outcome × Scenario :=
  let sc := sc.changeScript fun s => { s with slow := true }
  let tasks := (List.range n).map fun id => ⟨id, login.run⟩
  let (tasks, s) := Schedule.rounds Script.world Script.release (2 * n + 2) tasks sc.state
  let succeeded := (tasks.filter fun t => match t.talk.result? with
    | some (.ok _) => true
    | _ => false).length
  let sc := { sc with state := s }.changeScript fun s => { s with slow := false }
  (.ok (.tally succeeded (tasks.length - succeeded)), sc)

/-- A login whose connection is held up, and a configuration write that starts meanwhile. -/
def overlapping (login : Action Credential) (write : Action Unit) (sc : Scenario) :
    Outcome × Scenario :=
  let w := Script.world
  let sc := sc.changeScript fun s => { s with slow := true }
  let (login, s) := State.advance w 0 login.run sc.state
  let (write, s) := State.advance w 1 write.run s
  let loginDone := login.result?.isSome
  let writeDone := write.result?.isSome
  let sc := { sc with state := s }.changeScript fun s => { s with slow := false, waiting := false }
  let (login, s) := State.advance w 0 login sc.state
  let (write, s) := State.advance w 1 write s
  let (login, s) := State.advance w 0 login s
  let outcome := match login.result?, write.result? with
    | some l, some r => .ok (.overlap loginDone writeDone l r)
    | _, _ => .error .stuck
  (outcome, { sc with state := s })

def step (step : Step) (sc : Scenario) : Outcome × Scenario :=
  match step with
  | .login request connection =>
    keepIssued (perform (Service.login request connection) .credential sc)
  | .renew source edits connection =>
    match credentialOf sc.issued source edits with
    | .error t => (.error t, sc)
    | .ok c => keepIssued (perform (Service.renew c connection) .credential sc)
  | .resolveRole name => perform (Service.resolveRole name) .name sc
  | .writeConfig c => perform (Service.writeConfig c) (fun _ => .none) sc
  | .setConfig c => (.ok .none, sc.changeStore fun s => s.setConfig c)
  | .putRole name role => (.ok .none, sc.changeStore fun s => s.putRole name role)
  | .deleteRole name =>
    let (existed, store) := sc.state.store.deleteRole name
    (.ok (.truth existed), sc.changeStore fun _ => store)
  | .roleNames => (.ok (.names sc.state.store.roleNames), sc)
  | .script change => (.ok .none, sc.changeScript change)
  | .concurrentLogins n request connection =>
    concurrently n (Service.login request connection) sc
  | .writeDuringLogin request connection c =>
    overlapping (Service.login request connection) (Service.writeConfig c) sc

/-- The requests answered since the log was last emptied, in order, and the emptied scenario. -/
def takeLog (sc : Scenario) : List Request × Scenario :=
  (sc.state.log.reverse, { sc with state := { sc.state with log := [] } })

end Scenario
end WorkloadLogin.Service
