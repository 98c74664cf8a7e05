import Autoscaler.Proofs.Aws.Cloud
import Autoscaler.Proofs.Directory
import Autoscaler.Proofs.Roster.Answers
import Mathlib.Data.List.Nodup

/-!
# Instances of auto scaling groups

What a listing shows of a group does not depend on the calls made before. Where ids are
unique, all that it shows is held by the group that it was asked for, so a roster built from
listings never points to a group that does not hold the instance, or did not hold it then.
Terminating instances of one group changes no other group, takes at most one off its desired
size for each of them, and cannot fail half-way if the group holds all of them once.
-/

namespace Autoscaler.Aws

def Group.ids (g : Group) : List String := g.instances.map Instance.id

/-- No two instances share an id. -/
structure UniqueIds (groups : Directory String Group) : Prop where
  within : ∀ name g, groups.find? name = some g → g.ids.Nodup
  across : ∀ name g other h id, groups.find? name = some g → groups.find? other = some h →
    id ∈ g.ids → id ∈ h.ids → name = other

/-- The group is there and holds the instance. -/
def Holds (groups : Directory String Group) (member : InstanceRef) (group : GroupId) : Prop :=
  ∃ g, groups.find? group.name = some g ∧ (⟨member.name, member.zone⟩ : Instance) ∈ g.instances

/-- Every owner on the roster holds its instance. -/
def Accurate (groups : Directory String Group) (roster : Roster) : Prop :=
  ∀ member group, roster.owner? member = some group → Holds groups member group

/-- No group has an instance that it did not have before. -/
def Fewer (groups groups' : Directory String Group) : Prop :=
  Within (fun g g' : Group => g'.instances.Sublist g.instances) groups.find? groups'.find?

/-- A group with fewer instances, and with a desired size that is smaller by at most `k`. -/
structure Group.Reduced (k : Nat) (g g' : Group) : Prop where
  instances : g'.instances.Sublist g.instances
  atMost : g'.desired ≤ g.desired
  atLeast : g.desired ≤ g'.desired + k

/-- The rosters that registrations, refreshes and questions lead to while a control plane has
these groups, whatever else becomes of it. -/
inductive Reached (groups : Directory String Group) : Roster → Prop where
  | empty : Reached groups {}
  | register {roster : Roster} (group : GroupId) (before : Reached groups roster) :
      Reached groups (roster.register group)
  | refresh {roster : Roster} (cloud : Cloud) (same : cloud.groups = groups)
      (before : Reached groups roster) :
      Reached groups ((Site.refresh Cloud.listMembers).runOn ⟨cloud, roster⟩).2.roster
  | lookup {roster : Roster} (cloud : Cloud) (same : cloud.groups = groups)
      (member : InstanceRef) (before : Reached groups roster) :
      Reached groups ((Site.lookup Cloud.listMembers member).runOn ⟨cloud, roster⟩).2.roster

variable {groups groups' : Directory String Group} {member : InstanceRef} {group : GroupId}

theorem Fewer.refl (groups : Directory String Group) : Fewer groups groups :=
  fun _ g found => ⟨g, found, .refl _⟩

theorem Fewer.trans {groups'' : Directory String Group} (first : Fewer groups groups')
    (rest : Fewer groups' groups'') : Fewer groups groups'' :=
  Within.trans (fun _ _ _ before after => after.trans before) first rest

theorem Fewer.modify (name : String) {f : Group → Group}
    (fewer : ∀ g, (f g).instances.Sublist g.instances) :
    Fewer groups (groups.modify name f) := by
  have changed : ChangedAt name (fun g g' : Group => g'.instances.Sublist g.instances)
      groups.find? (groups.modify name f).find? := .modify fun g _ => fewer g
  exact changed.within fun _ => .refl _

theorem Fewer.uniqueIds (fewer : Fewer groups groups') (unique : UniqueIds groups) :
    UniqueIds groups' where
  within name g found := by
    obtain ⟨g₀, found₀, kept⟩ := fewer name g found
    exact (unique.within name g₀ found₀).sublist (kept.map _)
  across name g other h id found found' here there := by
    obtain ⟨g₀, found₀, kept⟩ := fewer name g found
    obtain ⟨h₀, found₀', kept'⟩ := fewer other h found'
    exact unique.across name g₀ other h₀ id found₀ found₀' ((kept.map _).subset here)
      ((kept'.map _).subset there)

theorem Fewer.holds (fewer : Fewer groups groups') (held : Holds groups' member group) :
    Holds groups member group := by
  obtain ⟨g, found, inside⟩ := held
  obtain ⟨g₀, found₀, kept⟩ := fewer _ g found
  exact ⟨g₀, found₀, kept.subset inside⟩

theorem Holds.id_mem (held : Holds groups member group) :
    ∃ g, groups.find? group.name = some g ∧ member.name ∈ g.ids := by
  obtain ⟨g, found, inside⟩ := held
  exact ⟨g, found, List.mem_map_of_mem (f := Instance.id) inside⟩

/-- An instance that a group held has come to no other group. -/
theorem Fewer.eq_of_mem (fewer : Fewer groups groups') (unique : UniqueIds groups)
    (held : Holds groups member group) {name : String} {g : Group}
    (found : groups'.find? name = some g) (there : member.name ∈ g.ids) : name = group.name := by
  obtain ⟨h, found', here⟩ := held.id_mem
  obtain ⟨g₀, found₀, kept⟩ := fewer name g found
  exact unique.across _ _ _ _ _ found₀ found' ((kept.map _).subset there) here

/-- Different members of one group have different ids. -/
theorem nodup_names (unique : UniqueIds groups) {members : List InstanceRef}
    (held : ∀ member ∈ members, Holds groups member group) (distinct : members.Nodup) :
    (members.map InstanceRef.name).Nodup := by
  refine distinct.map_on ?_
  intro a here b there same
  obtain ⟨g, found, inside⟩ := held a here
  obtain ⟨g', found', inside'⟩ := held b there
  cases found.symm.trans found'
  have alike := List.inj_on_of_nodup_map (unique.within _ g found) inside inside' same
  cases a
  cases b
  cases alike
  rfl

namespace Cloud

open Autoscaler.Action (Keeps)

variable {c c' : Cloud}

/-! ## Who holds an instance -/

theorem find?_of_holder? {id name : String} {i : Instance} (held : c.holder? id = some (name, i)) :
    ∃ g, c.groups.find? name = some g ∧ i ∈ g.instances ∧ i.id = id := by
  obtain ⟨⟨key, g⟩, entry, found⟩ := List.exists_of_findSome?_eq_some held
  obtain ⟨j, found, same⟩ := Option.map_eq_some_iff.mp found
  cases same
  exact ⟨g, Directory.mem_entries_iff.mp entry, List.mem_of_find?_eq_some found,
    by simpa using List.find?_some found⟩

theorem holder?_isSome {name : String} {g : Group} {id : String}
    (found : c.groups.find? name = some g) (inside : id ∈ g.ids) : (c.holder? id).isSome := by
  obtain ⟨i, here, rfl⟩ := List.mem_map.mp inside
  rw [holder?, List.findSome?_isSome_iff]
  refine ⟨(name, g), Directory.mem_entries_iff.mpr found, ?_⟩
  rw [Option.isSome_map, List.find?_isSome]
  exact ⟨i, here, by simp⟩

/-- Where ids are unique, an instance is found in the group that holds it. -/
theorem holder?_of_holds (unique : UniqueIds c.groups) (held : Holds c.groups member group) :
    c.holder? member.name = some (group.name, ⟨member.name, member.zone⟩) := by
  obtain ⟨g, found, inside⟩ := held
  have named : member.name ∈ g.ids := List.mem_map_of_mem (f := Instance.id) inside
  obtain ⟨⟨name, i⟩, holder⟩ := Option.isSome_iff_exists.mp (holder?_isSome found named)
  obtain ⟨h, found', inside', same⟩ := find?_of_holder? holder
  have there : member.name ∈ h.ids := same ▸ List.mem_map_of_mem (f := Instance.id) inside'
  cases unique.across _ _ _ _ _ found found' named there
  cases found.symm.trans found'
  have alike := List.inj_on_of_nodup_map (unique.within _ g found) inside inside' same.symm
  rw [holder, ← alike]

/-! ## Listings -/

/-- Where the control plane finds an instance. -/
def located? (c : Cloud) (id : String) : Option InstanceRef :=
  if id ∈ c.hidden then none else (c.holder? id).map fun (_, i) => ⟨i.zone, id⟩

/-- The members that a listing of a group shows, if the group is there. -/
def members? (c : Cloud) (group : GroupId) : Option (List InstanceRef) :=
  (c.groups.find? group.name).map fun g => g.ids.filterMap c.located?

theorem Observed.members? (seen : Observed c c') : c'.members? = c.members? := by
  obtain ⟨traffic, -, rfl⟩ := seen
  rfl

theorem Observed.located? (seen : Observed c c') : c'.located? = c.located? := by
  obtain ⟨traffic, -, rfl⟩ := seen
  rfl

theorem describeInstance_ok {id : String} {found : Option InstanceDescription}
    (run : (describeInstance id).runOn c = (.ok found, c')) :
    found.map (fun d => ⟨d.zone, id⟩) = c.located? id := by
  rw [describeInstance, Action.runOn_bind_ok (Action.runOn_get _)] at run
  obtain ⟨_, m, sent, told⟩ := Action.bind_ok_cases run
  obtain ⟨traffic, -, rfl⟩ := (keeps_send (.describeInstance id) _ rfl).of_runOn sent
  by_cases gone : id ∈ c.hidden
  · simp only [gone, not_true_eq_false, ↓reduceIte, Action.runOn_pure] at told
    cases told
    rw [Cloud.located?, if_pos gone]
    rfl
  · simp only [gone, not_false_eq_true, ↓reduceIte] at told
    rw [Action.runOn_bind_ok (Action.runOn_get _), Action.runOn_pure] at told
    cases told
    rw [Cloud.located?, if_neg gone, Option.map_map]
    rfl

theorem locate_ok {ids : List String} {members : List InstanceRef}
    (run : (locate ids).runOn c = (.ok members, c')) : members = ids.filterMap c.located? := by
  induction ids generalizing c members with
  | nil =>
      cases run
      rfl
  | cons id ids ih =>
      obtain ⟨found, m, asked, rest⟩ := Action.bind_ok_cases run
      obtain ⟨others, m', more, told⟩ := Action.bind_ok_cases rest
      cases told
      have seen := (keeps_describeInstance id).of_runOn asked
      have later := ih more
      rw [seen.located?] at later
      rw [List.filterMap_cons, ← describeInstance_ok asked, later]
      cases found <;> rfl

/-- A listing tells the same whatever was asked before. -/
theorem tells_listMembers : Site.Tells listMembers Observed members? where
  keeps := keeps_listMembers
  same := Observed.members?
  ok {c c' group members} run := by
    obtain ⟨description, m, described, located⟩ := Action.bind_ok_cases run
    obtain ⟨g, known, rfl⟩ := describe_ok described
    have seen := (keeps_describe group).of_runOn described
    rw [members?, known, locate_ok located, seen.located?]
    rfl

theorem describeInstance_healthy (healthy : c.Healthy) (id : String) :
    ∃ found, ((describeInstance id).runOn c).1 = .ok found := by
  rw [describeInstance, Action.runOn_bind_ok (Action.runOn_get _),
    Action.runOn_bind_ok (send_healthy healthy _ _)]
  split
  · exact ⟨_, rfl⟩
  · exact ⟨_, rfl⟩

theorem locate_healthy (healthy : c.Healthy) (ids : List String) :
    ∃ members, ((locate ids).runOn c).1 = .ok members := by
  induction ids generalizing c with
  | nil => exact ⟨_, rfl⟩
  | cons id ids ih =>
      obtain ⟨found, told⟩ := describeInstance_healthy healthy id
      rcases asked : (describeInstance id).runOn c with ⟨r, m⟩
      have healthy' := ((keeps_describeInstance id).of_runOn asked).healthy healthy
      obtain ⟨others, told'⟩ := ih healthy'
      rcases rest : (locate ids).runOn m with ⟨r', m'⟩
      rw [asked] at told
      rw [rest] at told'
      subst told told'
      rw [locate, Action.runOn_bind_ok asked, Action.runOn_bind_ok rest]
      exact ⟨_, rfl⟩

/-- A listing of a group that is there does not fail while calls are answered. -/
theorem listMembers_healthy (healthy : c.Healthy) {group : GroupId} {members : List InstanceRef}
    (listed : c.members? group = some members) : ((listMembers group).runOn c).1 = .ok members := by
  obtain ⟨g, known, -⟩ := Option.map_eq_some_iff.mp listed
  have described := describe_healthy healthy known
  have healthy' := ((keeps_describe group).of_runOn described).healthy healthy
  obtain ⟨shown, located⟩ := locate_healthy healthy' (Group.described group.name g).instanceIds
  have ended : ((listMembers group).runOn c).1 = .ok shown := by
    rw [listMembers, Action.runOn_bind_ok described]
    exact located
  cases (tells_listMembers.ok (Prod.ext ended rfl)).symm.trans listed
  exact ended

/-- The control plane shows the same members as before and answers if it did, whatever has
become of sizes. -/
structure Steady (c c' : Cloud) : Prop where
  members : c'.members? = c.members?
  healthy : c.Healthy → c'.Healthy

instance : IsPreorder Cloud Steady where
  refl _ := ⟨rfl, fun healthy => healthy⟩
  trans _ _ _ first rest :=
    ⟨rest.members.trans first.members, fun healthy => rest.healthy (first.healthy healthy)⟩

theorem Observed.steady (seen : Observed c c') : Steady c c' := ⟨seen.members?, seen.healthy⟩

theorem steady_record (c : Cloud) (call : Call) (reached : Bool) :
    Steady c { c with traffic := c.traffic.record call reached } :=
  ⟨rfl, fun healthy => ⟨healthy.available, healthy.clear.record _ _⟩⟩

theorem steady_setDesired (c : Cloud) (name : String) (size : Nat) :
    Steady c (c.setDesired name size) where
  members := by
    have holder (id : String) : (c.setDesired name size).holder? id = c.holder? id := by
      rw [holder?, setDesired, Directory.modify, List.findSome?_map, holder?]
      congr 1
      funext e
      by_cases here : e.1 = name <;> simp only [Function.comp_apply, here, ↓reduceIte]
    have located : (c.setDesired name size).located? = c.located? := by
      funext id
      rw [located?, holder, located?]
      rfl
    funext group
    rw [members?, located, setDesired, Directory.find?_modify, Option.map_map, members?]
    congr 1
    funext g
    rw [Function.comp_apply]
    split <;> rfl
  healthy healthy := ⟨healthy.available, healthy.clear⟩

theorem keeps_setGroupSize (group : GroupId) (size : Nat) :
    Keeps Steady (setGroupSize group size) := by
  intro c
  obtain ⟨answer, reached, sent, -⟩ :=
    send_cases (.setDesiredCapacity group.name size false) true c
  have recorded := steady_record c (.setDesiredCapacity group.name size false) reached
  rw [setGroupSize, setDesiredCapacity]
  cases answer with
  | error e =>
      rw [Action.runOn_bind_error sent]
      exact recorded
  | ok =>
      rw [Action.runOn_bind_ok sent, Action.runOn_bind_ok (Action.runOn_get _)]
      split
      · exact recorded
      · exact trans_of Steady recorded (steady_setDesired _ _ _)

/-- Where ids are unique, a listing of a group shows only what the group holds. -/
theorem holds_of_members? (unique : UniqueIds c.groups) {members : List InstanceRef}
    (listed : c.members? group = some members) (shown : member ∈ members) :
    Holds c.groups member group := by
  obtain ⟨g, found, rfl⟩ := Option.map_eq_some_iff.mp listed
  obtain ⟨id, inside, located⟩ := List.mem_filterMap.mp shown
  rw [located?] at located
  split at located
  · cases located
  · obtain ⟨⟨name, i⟩, holder, rfl⟩ := Option.map_eq_some_iff.mp located
    obtain ⟨h, found', inside', rfl⟩ := find?_of_holder? holder
    have there : i.id ∈ h.ids := List.mem_map_of_mem inside'
    cases unique.across _ _ _ _ _ found found' inside there
    exact ⟨h, found', inside'⟩

/-- Where ids are unique, a roster that was accurate is so after more questions. -/
theorem accurate_of_learns (fewer : Fewer groups c.groups) (unique : UniqueIds c.groups)
    {roster after : Roster} (accurate : Accurate groups roster)
    (learns : Roster.Learns c.members? roster after) : Accurate groups after := by
  intro member group owned
  obtain known | ⟨members, listed, shown⟩ := learns.owners member group owned
  · exact accurate member group known
  · exact fewer.holds (holds_of_members? unique listed shown)

/-! ## Terminations -/

/-- A termination sends one call. It takes the instance from the group that holds it if it ends
well, and changes no group otherwise. -/
theorem terminateInstance_cases {id : String} {r : Except CloudError Unit}
    (run : (terminateInstance id true).runOn c = (r, c')) :
    (∃ reached, c'.traffic = c.traffic.record (.terminateInstance id true) reached) ∧
    ((∃ message, r = .error (.api backendName message)) ∧ c'.groups = c.groups ∨
      r = .ok () ∧ ∃ name i, c.holder? id = some (name, i) ∧
        c'.groups = c.groups.modify name (·.without id true)) := by
  rw [terminateInstance] at run
  obtain ⟨answer, reached, sent, outcome⟩ := send_cases (.terminateInstance id true) true c
  obtain rfl | ⟨message, rfl⟩ := outcome
  · rw [Action.runOn_bind_ok sent, Action.runOn_bind_ok (Action.runOn_get _)] at run
    cases held : c.holder? id with
    | none =>
        simp only [holder?] at held
        simp only [holder?, held, Action.runOn_throw] at run
        cases run
        exact ⟨⟨reached, rfl⟩, .inl ⟨⟨_, rfl⟩, rfl⟩⟩
    | some found =>
        simp only [holder?] at held
        simp only [holder?, held, Action.runOn_set] at run
        cases run
        exact ⟨⟨reached, rfl⟩, .inr ⟨rfl, _, _, rfl, rfl⟩⟩
  · rw [Action.runOn_bind_error sent] at run
    cases run
    exact ⟨⟨reached, rfl⟩, .inl ⟨⟨message, rfl⟩, rfl⟩⟩

theorem terminateInstance_healthy (healthy : c.Healthy) {id name : String} {i : Instance}
    (held : c.holder? id = some (name, i)) :
    (terminateInstance id true).runOn c =
      (.ok (), { c with
        traffic := c.traffic.record (.terminateInstance id true) true
        groups := c.groups.modify name (·.without id true) }) := by
  rw [terminateInstance, Action.runOn_bind_ok (send_healthy healthy _ _),
    Action.runOn_bind_ok (Action.runOn_get _)]
  simp only [holder?] at held
  simp only [holder?, held, Action.runOn_set]

theorem reduced_without (g : Group) (id : String) : g.Reduced 1 (g.without id true) where
  instances := List.eraseP_sublist
  atMost := Nat.sub_le _ _
  atLeast := by
    change g.desired ≤ g.desired - 1 + 1
    omega

/-- Terminations send calls for the members alone, and the one error they have is that of a
call. -/
theorem terminateAll_cases {members : List InstanceRef} {r : Except CloudError Unit}
    (run : (terminateAll members).runOn c = (r, c')) :
    c.traffic.Extends (fun call => ∃ member ∈ members, call = .terminateInstance member.name true)
      c'.traffic ∧
    (r = .ok () ∨ ∃ message, r = .error (.api backendName message)) := by
  induction members generalizing c with
  | nil =>
      cases run
      exact ⟨.refl _, .inl rfl⟩
  | cons member members ih =>
      obtain ⟨_, m, first, rest⟩ | ⟨e, first, rfl⟩ := Action.bind_cases run
      · obtain ⟨⟨reached, sent⟩, -⟩ := terminateInstance_cases first
        obtain ⟨later, ended⟩ := ih rest
        refine ⟨.trans ?_ (later.mono ?_), ended⟩
        · rw [sent]
          exact .record ⟨member, List.mem_cons_self, rfl⟩ _ _
        · rintro call ⟨other, inside, rfl⟩
          exact ⟨other, List.mem_cons_of_mem _ inside, rfl⟩
      · obtain ⟨⟨reached, sent⟩, ⟨failed, -⟩ | ⟨ended, -⟩⟩ := terminateInstance_cases first
        · refine ⟨?_, .inr failed⟩
          rw [sent]
          exact .record ⟨member, List.mem_cons_self, rfl⟩ _ _
        · cases ended

/-- Terminating instances that no other group has changes one group, whatever fails. -/
theorem terminateAll_changes {name : String} {members : List InstanceRef}
    (inside : ∀ member ∈ members, ∀ other g, c.groups.find? other = some g →
      member.name ∈ g.ids → other = name) {r : Except CloudError Unit}
    (run : (terminateAll members).runOn c = (r, c')) :
    ChangedAt name (Group.Reduced members.length) c.groups.find? c'.groups.find? := by
  induction members generalizing c with
  | nil =>
      cases run
      exact .refl (fun g => ⟨.refl _, Nat.le_refl _, Nat.le_refl _⟩) _ _
  | cons member members ih =>
      obtain ⟨here, others⟩ := List.forall_mem_cons.mp inside
      have first {m : Cloud} {answer : Except CloudError Unit}
          (run : (terminateInstance member.name true).runOn c = (answer, m)) :
          ChangedAt name (Group.Reduced 1) c.groups.find? m.groups.find? := by
        obtain ⟨-, ⟨-, same⟩ | ⟨-, holder, i, held, changed⟩⟩ := terminateInstance_cases run
        · rw [same]
          exact .refl (fun g => ⟨.refl _, Nat.le_refl _, Nat.le_succ _⟩) _ _
        · obtain ⟨g, found, there, same⟩ := find?_of_holder? held
          cases here holder g found (same ▸ List.mem_map_of_mem there)
          rw [changed]
          exact .modify fun g _ => reduced_without g member.name
      obtain ⟨_, m, begun, rest⟩ | ⟨e, begun, rfl⟩ := Action.bind_cases run
      · have changed := first begun
        refine changed.trans (S := Group.Reduced members.length) ?_ (ih ?_ rest)
        · intro g h k before after
          have := before.atMost
          have := before.atLeast
          have := after.atMost
          have := after.atLeast
          refine ⟨after.instances.trans before.instances, ?_, ?_⟩
          · omega
          · rw [List.length_cons]
            omega
        · intro other inside' name' g found there
          obtain ⟨g₀, found₀, kept⟩ :=
            changed.within (fun g => ⟨.refl _, Nat.le_refl _, Nat.le_succ _⟩) name' g found
          exact others other inside' name' g₀ found₀ ((kept.instances.map _).subset there)
      · refine (first begun).mono ?_
        intro g h _ reduced
        have := reduced.atLeast
        refine ⟨reduced.instances, reduced.atMost, ?_⟩
        rw [List.length_cons]
        omega

/-- Nothing stops the termination of instances that are all there and named once. -/
theorem terminateAll_healthy {members : List InstanceRef} (healthy : c.Healthy)
    (unique : UniqueIds c.groups) (held : ∀ member ∈ members, ∃ group, Holds c.groups member group)
    (distinct : (members.map InstanceRef.name).Nodup) :
    ((terminateAll members).runOn c).1 = .ok () := by
  induction members generalizing c with
  | nil => rfl
  | cons member members ih =>
      obtain ⟨⟨group, here⟩, others⟩ := List.forall_mem_cons.mp held
      obtain ⟨fresh, distinct⟩ := List.nodup_cons.mp distinct
      rw [terminateAll, Action.runOn_bind_ok
        (terminateInstance_healthy healthy (holder?_of_holds unique here))]
      have fewer : Fewer c.groups (c.groups.modify group.name (·.without member.name true)) :=
        .modify _ fun _ => List.eraseP_sublist
      refine ih ⟨healthy.available, healthy.clear.record _ _⟩ (fewer.uniqueIds unique) ?_ distinct
      intro other inside
      obtain ⟨group', g, found, there⟩ := others other inside
      have kept : other.name ≠ member.name :=
        fun same => fresh (same ▸ List.mem_map_of_mem inside)
      refine ⟨group', if group'.name = group.name then g.without member.name true else g, ?_, ?_⟩
      · rw [Directory.find?_modify, found]
        rfl
      · split
        · exact (List.mem_eraseP_of_neg (by simpa using kept)).mpr there
        · exact there

end Cloud

/-- Where ids are unique, every roster that is reached is accurate. -/
theorem Reached.accurate (unique : UniqueIds groups) {roster : Roster}
    (reached : Reached groups roster) : Accurate groups roster := by
  induction reached with
  | empty =>
      intro member group owned
      cases owned
  | @register roster group before ih =>
      intro member owner owned
      refine ih member owner ?_
      rw [Roster.register] at owned
      split at owned
      · exact owned
      · exact owned
  | @refresh roster cloud same before ih =>
      subst same
      have consulted := Cloud.tells_listMembers.keeps_refresh ⟨cloud, roster⟩
      exact Cloud.accurate_of_learns (.refl _) unique ih consulted.learns
  | @lookup roster cloud same member before ih =>
      subst same
      rcases run : (Site.lookup Cloud.listMembers member).runOn ⟨cloud, roster⟩ with ⟨r, site⟩
      obtain ⟨consulted, -⟩ := Cloud.tells_listMembers.lookup_cases run
      exact Cloud.accurate_of_learns (.refl _) unique ih consulted.learns

end Autoscaler.Aws
