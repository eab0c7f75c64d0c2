import WorkloadLogin.Json

/-! # Values behind paths

A path names a place in a tree by its steps, with a point between them. A tree is put over another
one by keeping the members of both wherever both hold an object. -/
namespace WorkloadLogin.Json

/-- A value behind a path of steps. -/
def nest (v : Json) : List String → Json
  | [] => v
  | step :: steps => object [(step, nest v steps)]

def pathSteps (path : List Char) : List String := (path.splitOn '.').map String.ofList

/-- A value behind the steps of a path up to the first empty one. -/
def nestAt (v : Json) (path : String) : Json :=
  v.nest ((pathSteps path.toList).takeWhile fun s => !s.isEmpty)

mutual
/-- `v` overridden by `top`. -/
def merge (v top : Json) : Json :=
  match v, top with
  | object ms, object os => object (mergeMembers ms os)
  | _, top => top

/-- The members with each of `os` put over the one of its name. -/
def mergeMembers (ms : List (String × Json)) : List (String × Json) → List (String × Json)
  | [] => ms
  | (n, o) :: os =>
    let merged := match (ms.find? fun m => m.1 == n) with
      | some (_, v) => merge v o
      | none => o
    mergeMembers (Entries.insert n merged ms) os
end

end WorkloadLogin.Json
