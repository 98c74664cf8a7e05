import Autoscaler.Cloud.Wait
import Autoscaler.Gce.Url
import Autoscaler.Roster

/-!
# Node groups as managed instance groups

A size change or a deletion is an operation of the control plane. The caller asks at
intervals how far it is, until it has ended or the caller has waited long enough.
-/

namespace Autoscaler.Gce

/-- How operations are waited for. -/
structure Polling where
  /-- The pause between two questions. -/
  interval : Duration := .ofMillis 100
  /-- How long to wait before giving up. -/
  timeout : Duration := .ofSeconds 5
  deriving DecidableEq, Repr, Inhabited

/-- The end of an operation, if it has ended. -/
def Progress.ended? (operation : String) : Progress → Option (Except CloudError Unit)
  | pending => none
  | running => none
  | done => some (.ok ())
  | failed message => some (.error (.operationFailed operation message))

namespace Cloud

/-- Asks how an operation has ended, and how long the caller that began to wait at `start`
has waited. -/
def askEnd (operation : String) (start : Duration) :
    CloudM Cloud (Option (Except CloudError Unit) × Duration) := do
  let progress ← operationStatus operation
  let c ← get
  return (progress.ended? operation, ⟨c.waited.nanos - start.nanos⟩)

/-- Waits for the pause between two questions. -/
def pause (polling : Polling) : CloudM Cloud Unit :=
  modify fun c => { c with waited := c.waited + polling.interval }

/-- How many questions it takes to see the end of an operation. -/
def questions (c : Cloud) (operation : String) : Nat :=
  c.pending + ((c.operations.find? operation).map (·.pollsLeft)).getD 0 + 1

/-- Waits for the end of an operation. -/
def awaitOperation (polling : Polling) (operation : String) : CloudM Cloud Unit := do
  let c ← get
  let late := .operationTimeout operation polling.timeout
  match ← awaitResult (askEnd operation c.waited) (pause polling) polling.timeout late
      (c.questions operation) with
  | some result => .ofExcept result
  | none => throw late

/-- The members of a group; a url that is no instance url makes the listing fail. -/
def listMembers (project : String) : Site.Lister Cloud := fun group => do
  let urls ← listInstances ⟨project, group.zone, group.name⟩
  .ofExcept ((urls.mapM readInstanceUrl).mapError .format)

def groupSize (project : String) (group : GroupId) : CloudM Cloud Nat :=
  targetSize ⟨project, group.zone, group.name⟩

def setGroupSize (project : String) (polling : Polling) (group : GroupId) (size : Nat) :
    CloudM Cloud Unit := do
  let operation ← resize ⟨project, group.zone, group.name⟩ size
  awaitOperation polling operation

/-- Deletes instances of a group in one operation. -/
def deleteAll (project : String) (polling : Polling) (group : GroupId)
    (members : List InstanceRef) : CloudM Cloud Unit := do
  let urls := members.map fun m => instanceUrl project m.zone m.name
  let operation ← deleteInstances ⟨project, group.zone, group.name⟩ urls
  awaitOperation polling operation

end Cloud

/-- Deletes members of a group after all were found to belong to it. -/
def deleteMembers (project : String) (polling : Polling) (group : GroupId)
    (members : List InstanceRef) : CloudM (Site Cloud) Unit :=
  if members = [] then return ()
  else do
    Site.ensureMembers (Cloud.listMembers project) group members
    Site.onCloud (Cloud.deleteAll project polling group members)

end Autoscaler.Gce
