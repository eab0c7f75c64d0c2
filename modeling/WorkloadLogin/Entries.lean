/-! # Entries in the order of their names

The members of an object and the roles of a store are kept alike: as a list of entries whose names
ascend, with one value at most under each name. -/
namespace WorkloadLogin.Entries
variable {α : Type}

/-- The entries with a value under a name, at its place, where it replaces any other one. -/
def insert (name : String) (v : α) : List (String × α) → List (String × α)
  | [] => [(name, v)]
  | (n, w) :: rest =>
    if name < n then (name, v) :: (n, w) :: rest
    else if name = n then (name, v) :: rest
    else (n, w) :: insert name v rest

end WorkloadLogin.Entries
