import WorkloadLogin.Platform

/-! # A platform that answers from its configuration

The directory serves the records it was given; of records with one GUID the last counts. -/
namespace WorkloadLogin.Platform
open Json

structure Directory where
  apps : List App := []
  orgs : List Org := []
  spaces : List Space := []
  deriving DecidableEq, Repr, Inhabited

namespace Directory
variable {α : Type}

/-- The last element whose key is `key`. -/
def lastWith (keyOf : α → String) (key : String) (xs : List α) : Option α :=
  xs.reverse.find? fun x => keyOf x == key

def found (kind : Kind) (guid : String) (r : Option kind.Record) : Found kind :=
  match r with
  | some r => .ok r
  | none => .error (.notFound kind guid)

def lookup (d : Directory) : (kind : Kind) → String → Found kind
  | .app, guid => found .app guid (lastWith App.guid guid d.apps)
  | .org, guid => found .org guid (lastWith Org.guid guid d.orgs)
  | .space, guid => found .space guid (lastWith Space.guid guid d.spaces)

/-- Numbers of distinct GUIDs among applications, organizations and spaces. -/
def counts (d : Directory) : Nat × Nat × Nat :=
  ((d.apps.map App.guid).eraseDups.length, (d.orgs.map Org.guid).eraseDups.length,
    (d.spaces.map Space.guid).eraseDups.length)

end Directory

namespace App

structure Draft where
  guid : Option String := none
  name : Option String := none
  spaceGuid : Option String := none
  instances : Int := 1

def shape : Shape Draft App where
  blank := {}
  fields := [
    .of "guid" Decode.text fun d s => { d with guid := some s },
    .of "name" Decode.text fun d s => { d with name := some s },
    .of "space_guid" Decode.text fun d s => { d with spaceGuid := some s },
    .of "instances" Decode.int64 fun d n => { d with instances := n }]
  close d := do
    let guid ← needed "guid" d.guid
    let name ← needed "name" d.name
    let spaceGuid ← needed "space_guid" d.spaceGuid
    return { guid, name, spaceGuid, instances := d.instances }

def encode (a : App) : Json :=
  .object [("guid", .string a.guid), ("name", .string a.name), ("space_guid", .string a.spaceGuid),
    ("instances", .integer a.instances)]

end App

namespace Org

structure Draft where
  guid : Option String := none
  name : Option String := none

def shape : Shape Draft Org where
  blank := {}
  fields := [
    .of "guid" Decode.text fun d s => { d with guid := some s },
    .of "name" Decode.text fun d s => { d with name := some s }]
  close d := do
    let guid ← needed "guid" d.guid
    let name ← needed "name" d.name
    return { guid, name }

def encode (o : Org) : Json := .object [("guid", .string o.guid), ("name", .string o.name)]

end Org

namespace Space

structure Draft where
  guid : Option String := none
  name : Option String := none
  organizationGuid : Option String := none

def shape : Shape Draft Space where
  blank := {}
  fields := [
    .of "guid" Decode.text fun d s => { d with guid := some s },
    .of "name" Decode.text fun d s => { d with name := some s },
    .of "organization_guid" Decode.text fun d s => { d with organizationGuid := some s }]
  close d := do
    let guid ← needed "guid" d.guid
    let name ← needed "name" d.name
    let organizationGuid ← needed "organization_guid" d.organizationGuid
    return { guid, name, organizationGuid }

def encode (s : Space) : Json :=
  .object [("guid", .string s.guid), ("name", .string s.name),
    ("organization_guid", .string s.organizationGuid)]

end Space

/-- The record as JSON. -/
def Kind.encodeRecord : (kind : Kind) → kind.Record → Json
  | .app, r => App.encode r
  | .org, r => Org.encode r
  | .space, r => Space.encode r

namespace Directory

def shape : Shape Directory Directory where
  blank := {}
  fields := [
    .of "apps" (Decode.list App.shape.decode) fun d xs => { d with apps := xs },
    .of "orgs" (Decode.list Org.shape.decode) fun d xs => { d with orgs := xs },
    .of "spaces" (Decode.list Space.shape.decode) fun d xs => { d with spaces := xs }]
  close := .ok

def decode (v : Json) : Except DecodeError Directory := shape.decode .refused v

end Directory
end WorkloadLogin.Platform
