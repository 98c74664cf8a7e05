import Autoscaler.Proofs.Gce.Instances
import Autoscaler.Proofs.Gce.Url

/-!
# Deletions that succeed

Members are deleted by one operation on their group, which is given their urls. A url is put
together from the zone and the name of a member, whatever these are, and the group takes out
each instance whose url is among them. So that no other instance has such a url, it is enough
that each member belongs to the group or was read from a url before and is nowhere now. Members
of the second kind and members that are named again take nothing, so the group may lose fewer
instances than members are named; its target size goes down by what it loses. The operation has
to end well for that: a caller is not told so of one that was never going to change a group.
-/

namespace Autoscaler.Gce

open Autoscaler.Text (Plain)

/-- The group is there, in the zone of the instance, and holds its name. -/
def Holds (groups : Directory GroupKey Group) (member : InstanceRef) (key : GroupKey) : Prop :=
  ∃ g, groups.find? key = some g ∧ member.zone = key.zone ∧ member.name ∈ g.instances

/-- No group has an instance of this name. -/
def Gone (groups : Directory GroupKey Group) (member : InstanceRef) : Prop :=
  ∀ key g, groups.find? key = some g → member.name ∉ g.instances

/-- An instance that was read from a url, and that no group has any more. -/
def Former (groups : Directory GroupKey Group) (member : InstanceRef) : Prop :=
  Gone groups member ∧ ∃ url, readInstanceUrl url = .ok member

/-- The group without the instances of some names, and with a target size that is smaller by as
many as it has lost. -/
structure Group.Lost (names : List String) (g g' : Group) : Prop where
  instances : g'.instances = g.instances.filter (· ∉ names)
  length : g.instances.length ≤ g'.instances.length + names.length
  target : g'.target = g.target - (g.instances.length - g'.instances.length)

variable {groups : Directory GroupKey Group} {key : GroupKey} {members : List InstanceRef}

/-- The urls of members stand for those instances of their group that have the name of one. -/
theorem instanceUrl_mem_iff {g : Group} (found : groups.find? key = some g)
    (accounted : ∀ member ∈ members, Holds groups member key ∨ Former groups member)
    {name : String} (inside : name ∈ g.instances) :
    instanceUrl key.project key.zone name ∈ Cloud.urlsOf key.project members ↔
      name ∈ members.map InstanceRef.name := by
  simp only [Cloud.urlsOf, List.mem_map]
  constructor
  · rintro ⟨member, named, same⟩
    refine ⟨member, named, ?_⟩
    obtain ⟨-, -, zone, -⟩ | ⟨gone, url, read⟩ := accounted member named
    · rw [zone] at same
      exact instanceUrl_inj same
    · -- The url is that of a former instance, which then is the one that is still there.
      obtain ⟨plain_zone, plain_name⟩ := readInstanceUrl_plain read
      obtain ⟨-, rfl⟩ := eq_of_instanceUrl_eq plain_zone plain_name same.symm
      exact absurd inside (gone key g found)
  · rintro ⟨member, named, rfl⟩
    refine ⟨member, named, ?_⟩
    obtain ⟨-, -, zone, -⟩ | ⟨gone, -⟩ := accounted member named
    · rw [zone]
    · exact absurd inside (gone key g found)

theorem Group.lost_without {g : Group} (found : groups.find? key = some g)
    (unique : g.instances.Nodup)
    (accounted : ∀ member ∈ members, Holds groups member key ∨ Former groups member) :
    g.Lost (members.map InstanceRef.name)
      (g.without key (Cloud.urlsOf key.project members)) where
  instances := by
    refine List.filter_congr ?_
    intro name inside
    rw [decide_eq_decide, not_iff_not]
    exact instanceUrl_mem_iff found accounted inside
  length := by
    have bounded := length_without key unique (Cloud.urlsOf key.project members)
    rwa [Cloud.urlsOf, List.length_map] at bounded ⊢
  target := rfl

namespace Cloud

variable {c c' : Cloud} {project : String} {polling : Polling} {id : GroupId}

/-- What is known of a deletion once it was accepted. -/
structure Deleting (key : GroupKey) (urls : List String) (operation : String) (c c' : Cloud) :
    Prop where
  fate : c'.fate? operation = some c.operationFailure
  strangers : c'.strangers = c.strangers
  groups : c.operationFailure = none → c'.groups = c.groups.modify key (·.without key urls)

theorem deleteInstances_ok {urls : List String} {operation : String}
    (run : (deleteInstances key urls).runOn c = (.ok operation, c')) :
    Deleting key urls operation c c' := by
  obtain ⟨answer, reached, sent, -⟩ := send_cases (.deleteInstances key urls) true c
  obtain ⟨_, m, sent', begun⟩ := Action.bind_ok_cases run
  cases sent.symm.trans sent'
  rw [Action.runOn_bind_ok (startOperation_runOn _)] at begun
  have fate :=
    started_fate { c with traffic := c.traffic.record (.deleteInstances key urls) reached }
  cases fails : c.operationFailure with
  | none =>
      simp only [fails, Option.isNone_none, ↓reduceIte] at begun fate
      obtain ⟨g, m, held, told⟩ := Action.bind_ok_cases begun
      obtain ⟨rfl, -⟩ := group_cases held
      cases told
      exact ⟨fate.trans (congrArg some fails.symm), rfl, fun _ => rfl⟩
  | some message =>
      simp only [fails, Option.isNone_some, Bool.false_eq_true, ↓reduceIte] at begun fate
      cases begun
      exact ⟨fate.trans (congrArg some fails.symm), rfl, by simp [fails]⟩

/-- A caller who is told that members were deleted is told so of the operation that did it. -/
theorem deleteAll_ok (run : (deleteAll project polling id members).runOn c = (.ok (), c')) :
    c'.strangers = c.strangers ∧ c'.groups = c.groups.modify ⟨project, id.zone, id.name⟩
      (·.without ⟨project, id.zone, id.name⟩ (urlsOf project members)) := by
  obtain ⟨operation, m, accepted, awaited⟩ := Action.bind_ok_cases run
  have deleting := deleteInstances_ok accepted
  obtain ⟨polled, -, ⟨message, failed⟩ | late | verdict⟩ := awaitOperation_cases awaited
  · cases failed
  · cases late
  · cases verdict with
    | done fate =>
        have succeeds : c.operationFailure = none := Option.some.inj (deleting.fate.symm.trans fate)
        have lasting := (lasting_awaitOperation polling operation).of_runOn awaited
        exact ⟨lasting.strangers.trans deleting.strangers,
          polled.groups.trans (deleting.groups succeeds)⟩

/-- A deletion that ends well takes exactly the named members that are there from their group. -/
theorem deleteAll_lost (unique : UniqueNames c.groups)
    (accounted : ∀ member ∈ members,
      Holds c.groups member ⟨project, id.zone, id.name⟩ ∨ Former c.groups member)
    (run : (deleteAll project polling id members).runOn c = (.ok (), c')) :
    ChangedAt ⟨project, id.zone, id.name⟩ (Group.Lost (members.map InstanceRef.name))
      c.groups.find? c'.groups.find? := by
  rw [(deleteAll_ok run).2]
  refine .modify ?_
  intro g found
  exact Group.lost_without found (unique _ g found) accounted

/-! ## Listings without strangers -/

theorem read_of_mem_mapM {urls : List String} {shown : List InstanceRef} {member : InstanceRef}
    (read : urls.mapM readInstanceUrl = .ok shown) (inside : member ∈ shown) :
    ∃ url ∈ urls, readInstanceUrl url = .ok member := by
  induction urls generalizing shown with
  | nil =>
      cases read
      cases inside
  | cons url urls ih =>
      rw [List.mapM_cons] at read
      cases first : readInstanceUrl url with
      | error e =>
          rw [first] at read
          cases read
      | ok here =>
          rw [first] at read
          cases rest : urls.mapM readInstanceUrl with
          | error e =>
              rw [rest] at read
              cases read
          | ok others =>
              rw [rest] at read
              cases read
              obtain rfl | later := List.mem_cons.mp inside
              · exact ⟨url, List.mem_cons_self, first⟩
              · obtain ⟨url', member', read'⟩ := ih rest later
                exact ⟨url', List.mem_cons_of_mem _ member', read'⟩

/-- A listing that shows members only shows none but those of its group. -/
theorem holds_of_members? (alone : c.strangers = []) {shown : List InstanceRef}
    {member : InstanceRef} (listed : members? project c id = some shown) (inside : member ∈ shown) :
    Holds c.groups member ⟨project, id.zone, id.name⟩ := by
  obtain ⟨g, found, told⟩ := Option.bind_eq_some_iff.mp listed
  have none_else : c.strangersOf ⟨project, id.zone, id.name⟩ = [] := by
    rw [strangersOf, alone]
    rfl
  rw [none_else, List.append_nil] at told
  cases read : (g.instances.map (instanceUrl project id.zone)).mapM readInstanceUrl with
  | error e =>
      rw [read] at told
      cases told
  | ok members =>
      rw [read] at told
      cases told
      obtain ⟨url, among, read'⟩ := read_of_mem_mapM read inside
      obtain ⟨name, held, rfl⟩ := List.mem_map.mp among
      cases eq_of_readInstanceUrl read'
      exact ⟨g, found, rfl, held⟩

end Cloud

end Autoscaler.Gce
