import Autoscaler.Cloud.Action
import Autoscaler.Cloud.Traffic
import Autoscaler.Directory

/-!
# Managed instance groups in memory

The state of a control plane of managed instance groups, and the calls that it answers.
Groups are known by project, zone and name, and list their instances by url. Changes
are operations: a call starts one, and it is finished once it was asked about often
enough. An operation that is bound to fail changes nothing.
-/

namespace Autoscaler.Gce

/-- The name of the backend, which is also the scheme of its provider ids. -/
def backendName : String := "gce"

/-- What every full url begins with. -/
def urlBase : String := "https://www.googleapis.com/compute/v1"

/-- The full url of an instance. -/
def instanceUrl (project zone name : String) : String :=
  s!"{urlBase}/projects/{project}/zones/{zone}/instances/{name}"

structure GroupKey where
  project : String
  zone : String
  name : String
  deriving DecidableEq, Repr, Ord

def GroupKey.text (key : GroupKey) : String := key.zone ++ "/" ++ key.name

structure Group where
  target : Nat
  /-- Names of the instances. -/
  instances : List String := []
  deriving DecidableEq, Repr

/-- A group without the instances whose urls are listed, and smaller by their number. The
number is not cut off to a 32-bit word, which makes no difference to a group with fewer
instances than there are such words. -/
def Group.without (g : Group) (key : GroupKey) (urls : List String) : Group :=
  let kept := g.instances.filter fun name => instanceUrl key.project key.zone name ∉ urls
  { target := g.target - (g.instances.length - kept.length)
    instances := kept }

/-- An operation that was started. -/
structure Operation where
  /-- How often it still answers that it is running. -/
  pollsLeft : Nat
  /-- How it fails, if it does. -/
  failure : Option String
  deriving DecidableEq, Repr

/-- How far an operation is. -/
inductive Progress where
  | pending
  | running
  | done
  | failed (message : String)
  deriving DecidableEq, Repr

/-- The calls of the control plane. -/
inductive Call where
  | targetSize (group : GroupKey)
  | listInstances (group : GroupKey)
  | resize (group : GroupKey) (size : Nat)
  | deleteInstances (group : GroupKey) (urls : List String)
  | operationStatus (operation : String)
  deriving DecidableEq, Repr

structure Cloud where
  groups : Directory GroupKey Group := .empty
  operations : Directory String Operation := .empty
  /-- How often a new operation answers that it is running. -/
  operationPolls : Nat := 0
  /-- How a new operation fails, if it does. -/
  operationFailure : Option String := none
  /-- Whether the control plane answers at all. -/
  available : Bool := true
  /-- How many of the next questions about an operation are answered with `pending`. -/
  pending : Nat := 0
  /-- Urls that the listing of a zone and group name shows besides the members. -/
  strangers : List ((String × String) × List String) := []
  /-- How long callers have waited for operations, all in all. -/
  waited : Duration := .zero
  traffic : Traffic Call := .empty
  deriving Inhabited

namespace Cloud

/-- A control plane with these groups; of two with one key the later counts. -/
def ofGroups (groups : List (GroupKey × Group)) : Cloud :=
  { groups := Directory.ofList groups }

def addGroup (c : Cloud) (key : GroupKey) (target : Nat) : Cloud :=
  { c with groups := c.groups.insert key { target } }

def addInstance (c : Cloud) (key : GroupKey) (name : String) : Cloud :=
  { c with groups := c.groups.modify key fun g => { g with instances := g.instances ++ [name] } }

def setTarget (c : Cloud) (key : GroupKey) (target : Nat) : Cloud :=
  { c with groups := c.groups.modify key fun g => { g with target } }

def target? (c : Cloud) (key : GroupKey) : Option Nat := (c.groups.find? key).map (·.target)

/-- The urls shown besides the members of a group. -/
def strangersOf (c : Cloud) (key : GroupKey) : List String :=
  (Directory.lookup (key.zone, key.name) c.strangers).getD []

/-- Sends a call. It is kept, it may fail on its way, and a control plane that is not
available refuses it. -/
def send (call : Call) (reaches : Bool) : CloudM Cloud Unit := .ofFn fun c =>
  if c.traffic.blocked then
    (.error (.api backendName "injected failure"),
      { c with traffic := c.traffic.record call false })
  else
    let sent := { c with traffic := c.traffic.record call reaches }
    if reaches && !c.available then
      (.error (.api backendName "backend unavailable"), sent)
    else (.ok (), sent)

/-- The group, or the error that there is none. -/
def group (key : GroupKey) : CloudM Cloud Group := do
  match (← get).groups.find? key with
  | none => throw (.unknownGroup key.text)
  | some g => return g

def targetSize (key : GroupKey) : CloudM Cloud Nat := do
  send (.targetSize key) true
  return (← group key).target

/-- The urls of the members of a group. -/
def listInstances (key : GroupKey) : CloudM Cloud (List String) := do
  send (.listInstances key) true
  let g ← group key
  return g.instances.map (instanceUrl key.project key.zone) ++ (← get).strangersOf key

/-- The name of the operation started after `n` others. -/
def operationName (n : Nat) : String := "operation-" ++ Nat.repr n

/-- Starts an operation, and says whether it will make its change. -/
def startOperation : CloudM Cloud (String × Bool) := do
  let c ← get
  let name := operationName c.operations.entries.length
  let operation := { pollsLeft := c.operationPolls, failure := c.operationFailure }
  set { c with operations := c.operations.insert name operation }
  return (name, c.operationFailure.isNone)

/-- Starts to give a group another target size. -/
def resize (key : GroupKey) (size : Nat) : CloudM Cloud String := do
  send (.resize key size) true
  let _ ← group key
  let (name, applies) ← startOperation
  if applies then modify (·.setTarget key size)
  return name

/-- Starts to delete instances of a group. The operation exists even if the group does not. -/
def deleteInstances (key : GroupKey) (urls : List String) : CloudM Cloud String := do
  send (.deleteInstances key urls) true
  let (name, applies) ← startOperation
  if applies then
    let _ ← group key
    modify fun c => { c with groups := c.groups.modify key (·.without key urls) }
  return name

/-- Asks how far an operation is. -/
def operationStatus (name : String) : CloudM Cloud Progress := do
  let reaches := (← get).pending = 0
  send (.operationStatus name) reaches
  let c ← get
  if reaches then
    match c.operations.find? name with
    | none => throw (.api backendName s!"operation {name} not found")
    | some operation =>
        if operation.pollsLeft = 0 then
          return match operation.failure with
            | none => .done
            | some message => .failed message
        else
          set { c with operations := c.operations.modify name fun o =>
                  { o with pollsLeft := o.pollsLeft - 1 } }
          return .running
  else
    set { c with pending := c.pending - 1 }
    return .pending

end Cloud

end Autoscaler.Gce
