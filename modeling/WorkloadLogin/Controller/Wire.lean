import WorkloadLogin.Json.Decode
import WorkloadLogin.Platform

/-! # Bodies of controller replies

Members that are not named here are passed over. A record comes in two parts, its GUID apart from
its content. -/
namespace WorkloadLogin.Controller.Wire
open Json Platform

/-- A reply of which one text matters. -/
def oneText (name : String) : Shape (Option String) String where
  blank := none
  fields := [.of name Decode.text fun _ s => some s]
  openEnded := true
  close := needed name

def tokenEndpoint : Shape (Option String) String := oneText "token_endpoint"

def accessToken : Shape (Option String) String := oneText "access_token"

structure AppContent where
  name : Option String := none
  spaceGuid : Option String := none
  instances : Int := 0

def app : Shape AppContent (String → App) where
  blank := {}
  fields := [
    .of "name" Decode.text fun d s => { d with name := some s },
    .of "space_guid" Decode.text fun d s => { d with spaceGuid := some s },
    .of "instances" Decode.int64 fun d n => { d with instances := n }]
  openEnded := true
  close d := do
    let name ← needed "name" d.name
    let spaceGuid ← needed "space_guid" d.spaceGuid
    return fun guid => { guid, name, spaceGuid, instances := d.instances }

def org : Shape (Option String) (String → Org) where
  blank := none
  fields := [.of "name" Decode.text fun _ s => some s]
  openEnded := true
  close d := do
    let name ← needed "name" d
    return fun guid => { guid, name }

structure SpaceContent where
  name : Option String := none
  organizationGuid : Option String := none

def space : Shape SpaceContent (String → Space) where
  blank := {}
  fields := [
    .of "name" Decode.text fun d s => { d with name := some s },
    .of "organization_guid" Decode.text fun d s => { d with organizationGuid := some s }]
  openEnded := true
  close d := do
    let name ← needed "name" d.name
    let organizationGuid ← needed "organization_guid" d.organizationGuid
    return fun guid => { guid, name, organizationGuid }

/-- The content of a record, for whichever GUID it has. -/
def content : (kind : Kind) → Decoder (String → kind.Record)
  | .app => app.decode
  | .org => org.decode
  | .space => space.decode

structure Parts (α : Type) where
  guid : Option String := none
  content : Option (String → α) := none

def resource (kind : Kind) : Shape (Parts kind.Record) kind.Record where
  blank := {}
  fields := [
    .of "metadata" (oneText "guid").decode fun d s => { d with guid := some s },
    .of "entity" (content kind) fun d f => { d with content := some f }]
  openEnded := true
  close d := do
    let guid ← needed "metadata" d.guid
    let content ← needed "entity" d.content
    return content guid

end WorkloadLogin.Controller.Wire
