import Autoscaler.Cloud.Action
import Autoscaler.Cloud.Traffic
import Autoscaler.Directory

/-!
# Auto scaling groups in memory

The state of a control plane of auto scaling groups, and the calls that it answers.
Groups are known by name. An instance is known by its identifier alone: if several
groups hold it, the first one in the order of names answers for it.
-/

namespace Autoscaler.Aws

/-- The name of the backend, which is also the scheme of its provider ids. -/
def backendName : String := "aws"

structure Instance where
  id : String
  zone : String
  deriving DecidableEq, Repr

structure Group where
  desired : Nat
  instances : List Instance := []
  deriving DecidableEq, Repr

/-- A group without its first instance `id`, and one smaller if `decrement`. -/
def Group.without (g : Group) (id : String) (decrement : Bool) : Group where
  desired := if decrement then g.desired - 1 else g.desired
  instances := g.instances.eraseP fun i => i.id = id

/-- The calls of the control plane. -/
inductive Call where
  | describeGroup (name : String)
  | describeInstance (id : String)
  | setDesiredCapacity (name : String) (size : Nat) (honorCooldown : Bool)
  | terminateInstance (id : String) (decrement : Bool)
  deriving DecidableEq, Repr

structure Cloud where
  groups : Directory String Group := .empty
  /-- Whether the control plane answers at all. -/
  available : Bool := true
  /-- Instances that the control plane no longer finds. -/
  hidden : List String := []
  traffic : Traffic Call := .empty
  deriving Inhabited

/-- A group as the control plane describes it. -/
structure GroupDescription where
  name : String
  desired : Nat
  instanceIds : List String
  deriving DecidableEq, Repr

/-- An instance as the control plane describes it. -/
structure InstanceDescription where
  id : String
  group : String
  zone : String
  deriving DecidableEq, Repr

namespace Cloud

/-- A control plane with these groups; of two with one name the later counts. -/
def ofGroups (groups : List (String × Group)) : Cloud :=
  { groups := Directory.ofList groups }

def addGroup (c : Cloud) (name : String) (desired : Nat) : Cloud :=
  { c with groups := c.groups.insert name { desired } }

def addInstance (c : Cloud) (group : String) (i : Instance) : Cloud :=
  { c with groups := c.groups.modify group fun g =>
      { g with instances := g.instances ++ [i] } }

def setDesired (c : Cloud) (group : String) (desired : Nat) : Cloud :=
  { c with groups := c.groups.modify group fun g => { g with desired } }

def desired? (c : Cloud) (group : String) : Option Nat := (c.groups.find? group).map (·.desired)

/-- Sends a call. It is kept, it may fail on its way, and a control plane that is not
available refuses it. -/
def send (call : Call) (reaches : Bool) : CloudM Cloud Unit := .ofFn fun c =>
  if c.traffic.blocked then
    (.error (.api backendName "injected failure"),
      { c with traffic := c.traffic.record call false })
  else
    let sent := { c with traffic := c.traffic.record call reaches }
    if reaches && !c.available then
      (.error (.api backendName "service unavailable"), sent)
    else (.ok (), sent)

def describeGroup (name : String) : CloudM Cloud (Option GroupDescription) := do
  send (.describeGroup name) true
  let c ← get
  return (c.groups.find? name).map fun g =>
    { name, desired := g.desired, instanceIds := g.instances.map Instance.id }

/-- The first group, in the order of names, that holds the instance. -/
def holder? (c : Cloud) (id : String) : Option (String × Instance) :=
  c.groups.entries.findSome? fun (name, g) =>
    (g.instances.find? fun i => i.id = id).map fun i => (name, i)

def describeInstance (id : String) : CloudM Cloud (Option InstanceDescription) := do
  let found := id ∉ (← get).hidden
  send (.describeInstance id) found
  if found then
    let c ← get
    return (c.holder? id).map fun (group, i) => { id, group, zone := i.zone }
  else
    return none

def setDesiredCapacity (name : String) (size : Nat) (honorCooldown : Bool) :
    CloudM Cloud Unit := do
  send (.setDesiredCapacity name size honorCooldown) true
  let c ← get
  match c.groups.find? name with
  | none => throw (.unknownGroup name)
  | some _ => set (c.setDesired name size)

def terminateInstance (id : String) (decrement : Bool) : CloudM Cloud Unit := do
  send (.terminateInstance id decrement) true
  let c ← get
  match c.holder? id with
  | none => throw (.api backendName s!"instance {id} not found")
  | some (name, _) =>
      set { c with groups := c.groups.modify name (·.without id decrement) }

end Cloud

end Autoscaler.Aws
