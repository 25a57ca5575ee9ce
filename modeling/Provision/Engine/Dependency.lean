import Provision.Engine.Basic

/-! # Dependencies between objects

A reservation makes a master depend on a slave if its scope succeeds. The slave is held under a
shared lock all the while, so that it cannot be deleted. Whether the ledger stays free of cycles
and an exclusive slave has one master only is checked together with the recording of the edge; the
edge is seen by everyone from then on, and is withdrawn if the scope fails. -/

namespace Provision

open Run

/-- Whether `goal` is met in a search from pending objects towards those that rely on them, the
    latest found first. There is no answer if the search takes more steps than allowed. -/
def searchMasters {m : Type → Type} [Monad m] (masters : ObjectKey → m (List ObjectKey))
    (goal : ObjectKey) : Nat → List ObjectKey → ObjectSet → m (Option Bool)
  | _, [], _ => return some false
  | 0, _ :: _, _ => return none
  | steps + 1, key :: pending, visited => do
    if key = goal then return some true
    else if visited.contains key then searchMasters masters goal steps pending visited
    else do
      let found ← masters key
      searchMasters masters goal steps (found.reverse ++ pending) (visited.insert key)

/-- Whether `dependent` relies on `target`, directly or through other objects. -/
def dependsOn (dependent target : ObjectKey) : Run EngineError Bool := do
  let masters ← demand (.masters target)
  let steps := masters.length + (← get).store.edges.length
  match ← searchMasters (fun key => demand (.masters key)) dependent steps masters.reverse ∅ with
  | some found => return found
  | none => throw .tooDeep

/-- Checks a reservation and records its edge; tells whether the edge is new. -/
def reserve (resource : Resource) (master slave : ObjectKey) : Run EngineError Bool := do
  if ← dependsOn slave master then fail (.dependencyCycle master slave)
  else
    let masters ← demand (.masters slave)
    if masters.contains master then return false
    else if resource.flags.isExclusive && !masters.isEmpty then
      report (.alreadyReserved master slave)
      fail (.objectInUse slave)
    else
      demand (.link master slave)
      return true

/-- Takes back the edge of a reservation that failed, if it recorded one. -/
def withdraw {ε : Type} (recorded : Bool) (master slave : ObjectKey) : Run ε Unit := do
  if recorded then
    match ← ask (.unlink master slave) with
    | .ok () => return ()
    | .error cause => report (.withdrawalFailed master slave cause.message)

namespace Engine

/-- The resource of the kind recorded for an object. -/
def resourceOf (engine : Engine) (key : ObjectKey) : Run EngineError Resource := do
  match ← ask (.get key) with
  | .ok record =>
    match engine.resource? record.kind with
    | some resource => return resource
    | none => fail (.resourceNotFound record.kind)
  | .error (.notFound _) => fail (.objectDoesNotExist key)
  | .error cause => fail (.store cause)

/-- What a reservation begins with: the resource of its slave is looked up, and no lock is taken
    for that. -/
def resolve (engine : Engine) (master slave : ObjectKey) : Run ActionError Resource := do
  if master = slave then fail (.engine (.dependencyCycle master slave))
  else (engine.resourceOf slave).mapError .engine

/-- The checks of a reservation under the lock of its slave, up to the recording of the edge. -/
def checkAndReserve (resource : Resource) (master slave : ObjectKey) : Run EngineError Bool := do
  if ← demand (.has slave) then reserve resource master slave
  else fail (.objectDoesNotExist slave)

/-- A reservation of a slave whose resource is known. -/
def addResolved (resource : Resource) (master slave : ObjectKey) (scope : Run ActionError RawJson) :
    Run ActionError RawJson :=
  within (.dependency .add slave) <|
    guarded .shared slave .shared do
      let recorded ← (checkAndReserve resource master slave).mapError .engine
      match ← attempt (within (.scope .add slave) scope) with
      | .ok output =>
        report (.dependencyAdded master slave)
        return output
      | .error error =>
        withdraw recorded master slave
        fail error

/-- Makes `master` depend on `slave` if the scope succeeds. -/
def addDependency (engine : Engine) (master slave : ObjectKey)
    (scope : Run ActionError RawJson) : Run ActionError RawJson := do
  let resource ← engine.resolve master slave
  addResolved resource master slave scope

/-- Ends the dependency of `master` on `slave` once the scope has succeeded. It need not exist. -/
def removeDependency (engine : Engine) (master slave : ObjectKey)
    (scope : Run ActionError RawJson) : Run ActionError RawJson := do
  let _ ← (engine.resourceOf slave).mapError ActionError.engine
  within (.dependency .remove slave) <|
    guarded .shared slave .shared do
      let output ← within (.scope .remove slave) scope
      (demand (.unlink master slave)).mapError .engine
      report (.dependencyRemoved master slave)
      return output

end Engine

end Provision
