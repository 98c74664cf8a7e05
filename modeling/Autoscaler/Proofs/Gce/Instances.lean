import Autoscaler.Proofs.Directory
import Autoscaler.Proofs.Gce.Operations
import Autoscaler.Proofs.Roster.Answers
import Mathlib.Data.List.Nodup
import Mathlib.Data.List.Perm.Subperm

/-!
# Instances of managed instance groups

What a listing shows of a group does not depend on the calls made before. A deletion is one
operation on one group, which loses at most as many instances as members are named: it takes
only instances of its own, and where their names are unique each url stands for at most one.
-/

namespace Autoscaler.Gce

/-- A group with fewer instances, and with a target size that is smaller by at most `k`. -/
structure Group.Reduced (k : Nat) (g g' : Group) : Prop where
  instances : g'.instances.Sublist g.instances
  atMost : g'.target ≤ g.target
  atLeast : g.target ≤ g'.target + k

/-- No group has two instances of one name. -/
def UniqueNames (groups : Directory GroupKey Group) : Prop :=
  ∀ key g, groups.find? key = some g → g.instances.Nodup

/-- No group has an instance that it did not have before. -/
def Fewer (groups groups' : Directory GroupKey Group) : Prop :=
  Within (fun g g' : Group => g'.instances.Sublist g.instances) groups.find? groups'.find?

variable {groups groups' : Directory GroupKey Group}

theorem Fewer.refl (groups : Directory GroupKey Group) : Fewer groups groups :=
  fun _ g found => ⟨g, found, .refl _⟩

theorem Fewer.trans {groups'' : Directory GroupKey Group} (first : Fewer groups groups')
    (rest : Fewer groups' groups'') : Fewer groups groups'' :=
  Within.trans (fun _ _ _ before after => after.trans before) first rest

theorem Fewer.modify (key : GroupKey) {f : Group → Group}
    (fewer : ∀ g, (f g).instances.Sublist g.instances) : Fewer groups (groups.modify key f) := by
  have changed : ChangedAt key (fun g g' : Group => g'.instances.Sublist g.instances)
      groups.find? (groups.modify key f).find? := .modify fun g _ => fewer g
  exact changed.within fun _ => .refl _

theorem Fewer.uniqueNames (fewer : Fewer groups groups') (unique : UniqueNames groups) :
    UniqueNames groups' := by
  intro key g found
  obtain ⟨g₀, found₀, kept⟩ := fewer key g found
  exact (unique key g₀ found₀).sublist kept

theorem instanceUrl_inj {project zone name name' : String}
    (same : instanceUrl project zone name = instanceUrl project zone name') : name = name' := by
  simpa [instanceUrl, toString] using same

/-- With names that are unique, a group loses at most one instance for each url. -/
theorem length_without (key : GroupKey) {g : Group} (unique : g.instances.Nodup)
    (urls : List String) :
    g.instances.length ≤ (g.without key urls).instances.length + urls.length := by
  let url := instanceUrl key.project key.zone
  have split := List.length_eq_length_filter_add (l := g.instances) (url · ∉ urls)
  have lost : (g.instances.filter fun name => !decide (url name ∉ urls)).length ≤
      urls.length := by
    rw [← List.length_map url]
    refine (List.subperm_of_subset ?_ ?_).length_le
    · exact (unique.filter _).map fun _ _ => instanceUrl_inj
    · intro shown member
      obtain ⟨name, inside, rfl⟩ := List.mem_map.mp member
      simpa using (List.mem_filter.mp inside).2
  change g.instances.length ≤ (g.instances.filter fun name => url name ∉ urls).length + urls.length
  omega

theorem reduced_without (key : GroupKey) {g : Group} (unique : g.instances.Nodup)
    (urls : List String) : g.Reduced urls.length (g.without key urls) where
  instances := List.filter_sublist
  atMost := Nat.sub_le _ _
  atLeast := by
    have kept := length_without key unique urls
    change g.target ≤ g.target -
      (g.instances.length - (g.without key urls).instances.length) + urls.length
    omega

namespace Cloud

open Autoscaler.Action (Keeps)

variable {c c' : Cloud}

/-! ## Listings -/

/-- The members that a listing of a group shows, if the group is there and every url can be
read. -/
def members? (project : String) (c : Cloud) (id : GroupId) : Option (List InstanceRef) :=
  (c.groups.find? ⟨project, id.zone, id.name⟩).bind fun g =>
    ((g.instances.map (instanceUrl project id.zone) ++
      c.strangersOf ⟨project, id.zone, id.name⟩).mapM readInstanceUrl).toOption

theorem group_cases {key : GroupKey} {r : Except CloudError Group}
    (run : (group key).runOn c = (r, c')) :
    c' = c ∧ (r = .error (.unknownGroup key.text) ∨
      ∃ g, c.groups.find? key = some g ∧ r = .ok g) := by
  rw [group_runOn] at run
  cases known : c.groups.find? key with
  | none =>
      simp only [known] at run
      cases run
      exact ⟨rfl, .inl rfl⟩
  | some g =>
      simp only [known] at run
      cases run
      exact ⟨rfl, .inr ⟨g, rfl, rfl⟩⟩

theorem listInstances_ok {key : GroupKey} {urls : List String}
    (run : (listInstances key).runOn c = (.ok urls, c')) :
    ∃ g, c.groups.find? key = some g ∧
      urls = g.instances.map (instanceUrl key.project key.zone) ++ c.strangersOf key := by
  obtain ⟨_, m, sent, looked⟩ := Action.bind_ok_cases run
  obtain ⟨traffic, -, rfl⟩ := (keeps_send (.listInstances key) true rfl).of_runOn sent
  obtain ⟨g, m', found, told⟩ := Action.bind_ok_cases looked
  obtain ⟨rfl, failed | ⟨g', known, same⟩⟩ := group_cases found
  · cases failed
  · cases same
    cases told
    exact ⟨g, known, rfl⟩

/-- A listing tells the same whatever was asked before. -/
theorem tells_listMembers (project : String) :
    Site.Tells (listMembers project) Observed (members? project) where
  keeps := keeps_listMembers project
  same seen := by
    obtain ⟨traffic, -, rfl⟩ := seen
    rfl
  ok {c c' id members} run := by
    obtain ⟨urls, m, listed, told⟩ := Action.bind_ok_cases run
    obtain ⟨g, known, rfl⟩ := listInstances_ok listed
    rw [members?, known, Option.bind_some]
    rw [Action.runOn_ofExcept] at told
    cases read : (g.instances.map (instanceUrl project id.zone) ++
        c.strangersOf ⟨project, id.zone, id.name⟩).mapM readInstanceUrl with
    | error e =>
        rw [read] at told
        cases told
    | ok shown =>
        rw [read] at told
        cases told
        rfl

/-- A listing of a group that is there does not fail while calls are answered. -/
theorem listMembers_healthy (healthy : c.Healthy) {project : String} {id : GroupId}
    {members : List InstanceRef} (listed : members? project c id = some members) :
    ((listMembers project id).runOn c).1 = .ok members := by
  obtain ⟨g, known, read⟩ := Option.bind_eq_some_iff.mp listed
  have sent := send_healthy healthy (.listInstances ⟨project, id.zone, id.name⟩) true
  have shown : (listInstances ⟨project, id.zone, id.name⟩).runOn c =
      (.ok (g.instances.map (instanceUrl project id.zone) ++
        c.strangersOf ⟨project, id.zone, id.name⟩),
      { c with
        traffic := c.traffic.record (.listInstances ⟨project, id.zone, id.name⟩) true }) := by
    rw [listInstances, Action.runOn_bind_ok sent, Action.runOn_bind_ok (group_known known _)]
    rfl
  rw [listMembers, Action.runOn_bind_ok shown, Action.runOn_ofExcept]
  generalize (g.instances.map (instanceUrl project id.zone) ++
    c.strangersOf ⟨project, id.zone, id.name⟩).mapM readInstanceUrl = refs at read ⊢
  cases refs with
  | error e => cases read
  | ok refs =>
      cases read
      rfl

/-! ## Members while sizes change -/

/-- The control plane answers, and operations that are started now end well, however long they
take. -/
structure Serving (c : Cloud) : Prop where
  healthy : c.Healthy
  succeeds : c.operationFailure = none

/-- The control plane shows the same members as before and serves if it did, whatever has become
of sizes and operations. -/
structure Steady (c c' : Cloud) : Prop where
  members : ∀ project, members? project c' = members? project c
  serving : c.Serving → c'.Serving

instance : IsPreorder Cloud Steady where
  refl _ := ⟨fun _ => rfl, fun serving => serving⟩
  trans _ _ _ first rest :=
    ⟨fun project => (rest.members project).trans (first.members project),
      fun serving => rest.serving (first.serving serving)⟩

theorem Observed.steady (seen : Observed c c') : Steady c c' := by
  obtain ⟨traffic, asks, rfl⟩ := seen
  exact ⟨fun _ => rfl, fun serving =>
    ⟨⟨serving.healthy.available, asks.open serving.healthy.clear⟩, serving.succeeds⟩⟩

theorem steady_record (c : Cloud) (call : Call) (reached : Bool) :
    Steady c { c with traffic := c.traffic.record call reached } :=
  ⟨fun _ => rfl, fun serving =>
    ⟨⟨serving.healthy.available, serving.healthy.clear.record _ _⟩, serving.succeeds⟩⟩

theorem Answer.steady {operation : String} {reached : Bool} {r : Except CloudError Progress}
    (answer : Answer operation c (c.traffic.record (.operationStatus operation) reached) r c') :
    Steady c c' := by
  have recorded := steady_record c (.operationStatus operation) reached
  cases answer <;> exact ⟨recorded.members, fun serving =>
    ⟨⟨serving.healthy.available, serving.healthy.clear.record _ _⟩, serving.succeeds⟩⟩

theorem keeps_askEnd (operation : String) (start : Duration) :
    Keeps Steady (askEnd operation start) := by
  refine .bind ?_ fun _ => .bind .get fun _ => .pure _
  intro c
  rcases asked : (operationStatus operation).runOn c with ⟨r, c'⟩
  obtain ⟨reached, answer⟩ := operationStatus_cases asked
  exact answer.steady

theorem keeps_pause (polling : Polling) : Keeps Steady (pause polling) := by
  intro c
  exact ⟨fun _ => rfl, fun serving =>
    ⟨⟨serving.healthy.available, serving.healthy.clear⟩, serving.succeeds⟩⟩

theorem keeps_awaitOperation (polling : Polling) (operation : String) :
    Keeps Steady (awaitOperation polling operation) :=
  keeps_awaitOperation_of (keeps_askEnd operation) (keeps_pause polling)

theorem steady_setTarget (c : Cloud) (key : GroupKey) (size : Nat) :
    Steady c (c.setTarget key size) where
  members project := by
    funext id
    rw [members?, setTarget, Directory.find?_modify, members?]
    cases c.groups.find? ⟨project, id.zone, id.name⟩ with
    | none => rfl
    | some g =>
        rw [Option.map_some, Option.bind_some, Option.bind_some]
        split <;> rfl
  serving serving := ⟨⟨serving.healthy.available, serving.healthy.clear⟩, serving.succeeds⟩

theorem steady_resized (c : Cloud) (key : GroupKey) (size : Nat) :
    Steady c (c.resized key size) := by
  have began : Steady c c.started := ⟨fun _ => rfl, fun serving =>
    ⟨⟨serving.healthy.available, serving.healthy.clear⟩, serving.succeeds⟩⟩
  rw [resized]
  split
  · exact trans_of Steady began (steady_setTarget _ _ _)
  · exact began

theorem keeps_resize (key : GroupKey) (size : Nat) : Keeps Steady (resize key size) := by
  intro c
  obtain ⟨answer, reached, sent, outcome⟩ := send_cases (.resize key size) true c
  have recorded := steady_record c (.resize key size) reached
  obtain rfl | ⟨-, message, rfl⟩ := outcome
  · rw [resize_of_sent sent]
    split
    · exact recorded
    · exact trans_of Steady recorded (steady_resized _ _ _)
  · rw [resize, Action.runOn_bind_error sent]
    exact recorded

theorem keeps_setGroupSize (project : String) (polling : Polling) (id : GroupId) (size : Nat) :
    Keeps Steady (setGroupSize project polling id size) :=
  .bind (keeps_resize _ size) fun operation => keeps_awaitOperation polling operation

/-- While operations end well, a size that is set is set, whether or not the caller sees it. -/
theorem setGroupSize_serving (serving : c.Serving) {project : String} {polling : Polling}
    {id : GroupId} {n : Nat} (size : Nat) (known : c.target? ⟨project, id.zone, id.name⟩ = some n) :
    ((setGroupSize project polling id size).runOn c).2.groups =
      (c.setTarget ⟨project, id.zone, id.name⟩ size).groups := by
  obtain ⟨g, found, -⟩ := Option.map_eq_some_iff.mp known
  have accepted := resize_of_sent
    (send_healthy serving.healthy (.resize ⟨project, id.zone, id.name⟩ size) true)
  rw [found] at accepted
  rw [setGroupSize, Action.runOn_bind_ok accepted]
  rcases waited : (awaitOperation polling (operationName c.operations.entries.length)).runOn _
    with ⟨r, c'⟩
  obtain ⟨polled, -, -⟩ := awaitOperation_cases waited
  rw [polled.groups, resized, serving.succeeds]
  rfl

/-! ## Deletions -/

/-- A call to delete instances is sent once. It takes them from its group or changes no group,
whether or not an operation was started. -/
theorem deleteInstances_cases {key : GroupKey} {urls : List String}
    {r : Except CloudError String} (run : (deleteInstances key urls).runOn c = (r, c')) :
    (∃ reached, c'.traffic = c.traffic.record (.deleteInstances key urls) reached) ∧
    (c'.groups = c.groups ∨ c'.groups = c.groups.modify key (·.without key urls)) ∧
    ∀ e, r = .error e → e.isRefusal = false := by
  obtain ⟨answer, reached, sent, outcome⟩ := send_cases (.deleteInstances key urls) true c
  rw [deleteInstances] at run
  obtain rfl | ⟨-, message, rfl⟩ := outcome
  · rw [Action.runOn_bind_ok sent, Action.runOn_bind_ok (startOperation_runOn _)] at run
    cases fails : c.operationFailure with
    | none =>
        simp only [fails, Option.isNone_none, ↓reduceIte] at run
        obtain ⟨g, m, held, told⟩ | ⟨e, missing, rfl⟩ := Action.bind_cases run
        · obtain ⟨rfl, -⟩ := group_cases held
          cases told
          exact ⟨⟨reached, rfl⟩, .inr rfl, by rintro e ⟨⟩⟩
        · obtain ⟨rfl, failed | ⟨g, -, found⟩⟩ := group_cases missing
          · cases failed
            exact ⟨⟨reached, rfl⟩, .inl rfl, by rintro e ⟨⟩; rfl⟩
          · cases found
    | some message =>
        simp only [fails, Option.isNone_some, Bool.false_eq_true, ↓reduceIte] at run
        cases run
        exact ⟨⟨reached, rfl⟩, .inl rfl, by rintro e ⟨⟩⟩
  · rw [Action.runOn_bind_error sent] at run
    cases run
    exact ⟨⟨reached, rfl⟩, .inl rfl, by rintro e ⟨⟩; rfl⟩

variable {project : String} {polling : Polling} {id : GroupId} {members : List InstanceRef}

/-- The urls by which members are deleted. -/
def urlsOf (project : String) (members : List InstanceRef) : List String :=
  members.map fun member => instanceUrl project member.zone member.name

/-- Deleting members sends one call that deletes and then asks how the operation goes. No group
changes but the one that the call names. -/
theorem deleteAll_cases {r : Except CloudError Unit}
    (run : (deleteAll project polling id members).runOn c = (r, c')) :
    (∃ reached, (c.traffic.record (.deleteInstances ⟨project, id.zone, id.name⟩
      (urlsOf project members)) reached).Asks Call.kind c'.traffic) ∧
    (c'.groups = c.groups ∨ c'.groups = c.groups.modify ⟨project, id.zone, id.name⟩
      (·.without ⟨project, id.zone, id.name⟩ (urlsOf project members))) ∧
    ∀ e, r = .error e → e.isRefusal = false := by
  obtain ⟨operation, m, accepted, awaited⟩ | ⟨e, refused, rfl⟩ := Action.bind_cases run
  · obtain ⟨⟨reached, sent⟩, changed, -⟩ := deleteInstances_cases accepted
    obtain ⟨polled, -, ended⟩ := awaitOperation_cases awaited
    rw [polled.groups]
    refine ⟨⟨reached, sent ▸ polled.asks⟩, changed, ?_⟩
    rintro e rfl
    obtain ⟨message, failed⟩ | failed | verdict := ended
    · cases failed
      rfl
    · cases failed
      rfl
    · cases verdict
      rfl
  · obtain ⟨⟨reached, sent⟩, changed, failed⟩ := deleteInstances_cases refused
    refine ⟨⟨reached, sent ▸ .refl _⟩, changed, ?_⟩
    rintro e' ⟨⟩
    exact failed e rfl

/-- Whatever fails, a deletion of members changes one group, which loses at most their number. -/
theorem deleteAll_changes (unique : UniqueNames c.groups) {r : Except CloudError Unit}
    (run : (deleteAll project polling id members).runOn c = (r, c')) :
    ChangedAt ⟨project, id.zone, id.name⟩ (Group.Reduced members.length)
      c.groups.find? c'.groups.find? := by
  obtain ⟨-, same | changed, -⟩ := deleteAll_cases run
  · rw [same]
    exact .refl (fun g => ⟨.refl _, Nat.le_refl _, Nat.le_add_right _ _⟩) _ _
  · rw [changed]
    refine .modify ?_
    intro g found
    have reduced := reduced_without ⟨project, id.zone, id.name⟩ (unique _ g found)
      (urlsOf project members)
    rwa [urlsOf, List.length_map] at reduced

end Cloud

end Autoscaler.Gce
