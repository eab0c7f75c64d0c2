import WorkloadLogin.Config

/-! # The store

Roles under their names and one configuration, if any. The last write of a name counts. -/
namespace WorkloadLogin.Service

structure Store where
  /-- Ascending by name, each name once. -/
  roles : List (String × Role) := []
  config : Option Config := none
  deriving DecidableEq, Repr, Inhabited

namespace Store

def role? (s : Store) (name : String) : Option Role :=
  (s.roles.find? fun r => r.1 == name).map Prod.snd

def putRole (s : Store) (name : String) (role : Role) : Store :=
  { s with roles := Entries.insert name role s.roles }

/-- Removes a role; tells whether there was one. -/
def deleteRole (s : Store) (name : String) : Bool × Store :=
  ((s.role? name).isSome, { s with roles := s.roles.filter fun r => r.1 != name })

def roleNames (s : Store) : List String := s.roles.map Prod.fst

def setConfig (s : Store) (config : Option Config) : Store := { s with config := config }

/-- The store that a module configuration starts with. -/
def ofModuleConfig (c : ModuleConfig) : Store :=
  c.roles.foldl (fun s r => s.putRole r.1 r.2) { config := c.backend }

end Store
end WorkloadLogin.Service
