import Autoscaler.Proofs.Aws.Instances

/-!
# Terminations that all succeed

Members are terminated one by one, each by its id alone. If all terminations end well, the group
has lost exactly the members that were named, whatever a roster knew before: a member that no
group holds makes its termination fail, and so does a member that is named a second time. It
takes no more than that each member either belongs to the group or is nowhere.
-/

namespace Autoscaler.Aws

/-- No group has an instance of this name. -/
def Gone (groups : Directory String Group) (member : InstanceRef) : Prop :=
  ∀ name g, groups.find? name = some g → member.name ∉ g.ids

/-- The group without the instances of some ids, each of which it had once. -/
structure Group.Lost (ids : List String) (g g' : Group) : Prop where
  instances : g'.instances = g.instances.filter fun i => i.id ∉ ids
  length : g.instances.length = g'.instances.length + ids.length
  desired : g'.desired = g.desired - ids.length

variable {groups groups' : Directory String Group} {member other : InstanceRef} {group : GroupId}

namespace Group.Lost

theorem nil (g : Group) : g.Lost [] g where
  instances := by simp
  length := rfl
  desired := rfl

theorem cons {id : String} {ids : List String} {g h k : Group} (first : g.Lost [id] h)
    (rest : h.Lost ids k) : g.Lost (id :: ids) k where
  instances := by
    rw [rest.instances, first.instances, List.filter_filter]
    refine List.filter_congr ?_
    intro i _
    simp only [List.mem_cons, List.not_mem_nil, or_false, not_or, Bool.decide_and]
    exact Bool.and_comm _ _
  length := by
    have begun := first.length
    have ended := rest.length
    simp only [List.length_cons, List.length_nil] at begun ⊢
    omega
  desired := by
    have begun := first.desired
    have ended := rest.desired
    simp only [List.length_cons, List.length_nil] at begun ⊢
    omega

end Group.Lost

/-- Where ids are unique, to take out the first instance of an id is to take out all. -/
theorem eraseP_eq_filter {instances : List Instance} {id : String}
    (distinct : (instances.map Instance.id).Nodup) :
    (instances.eraseP fun i => i.id = id) = instances.filter fun i => i.id ∉ [id] := by
  induction instances with
  | nil => rfl
  | cons i instances ih =>
      obtain ⟨fresh, distinct⟩ := List.nodup_cons.mp distinct
      by_cases here : i.id = id
      · subst here
        have others : ∀ j ∈ instances, decide (j.id ∉ [i.id]) = true := by
          intro j inside
          have different : j.id ≠ i.id := fun same => fresh (same ▸ List.mem_map_of_mem inside)
          simpa using different
        rw [List.eraseP_cons_of_pos (by simp), List.filter_cons_of_neg (by simp),
          List.filter_eq_self.mpr others]
      · rw [List.eraseP_cons_of_neg (by simpa using here), ih distinct,
          List.filter_cons_of_pos (by simpa using here)]

theorem Group.lost_without {g : Group} {id : String} (distinct : g.ids.Nodup)
    (inside : id ∈ g.ids) : g.Lost [id] (g.without id true) where
  instances := eraseP_eq_filter distinct
  length := by
    obtain ⟨i, here, rfl⟩ := List.mem_map.mp inside
    have some_instance : 0 < g.instances.length := List.length_pos_of_mem here
    have erased : (g.without i.id true).instances.length = g.instances.length - 1 :=
      List.length_eraseP_of_mem here (by simp)
    rw [erased, List.length_singleton]
    omega
  desired := rfl

/-! ## What is left of members behind a termination -/

theorem Gone.fewer (gone : Gone groups member) (fewer : Fewer groups groups') :
    Gone groups' member := by
  intro name g found inside
  obtain ⟨g₀, found₀, kept⟩ := fewer name g found
  exact gone name g₀ found₀ ((kept.map _).subset inside)

/-- An instance that was terminated is nowhere. -/
theorem gone_of_terminated (unique : UniqueIds groups) (held : Holds groups member group) :
    Gone (groups.modify group.name (·.without member.name true)) member := by
  have fewer : Fewer groups (groups.modify group.name (·.without member.name true)) :=
    .modify _ fun _ => List.eraseP_sublist
  intro name g found inside
  cases fewer.eq_of_mem unique held found inside
  rw [Directory.find?_modify] at found
  obtain ⟨g₀, found₀, rfl⟩ := Option.map_eq_some_iff.mp found
  rw [if_pos rfl, Group.ids, Group.without, eraseP_eq_filter (unique.within _ g₀ found₀)] at inside
  obtain ⟨i, kept, same⟩ := List.mem_map.mp inside
  have other := (List.mem_filter.mp kept).2
  simp [same] at other

/-- A termination leaves each member where it is or nowhere. -/
theorem accounted_of_terminated (unique : UniqueIds groups) (held : Holds groups member group)
    (accounted : Holds groups other group ∨ Gone groups other) :
    Holds (groups.modify group.name (·.without member.name true)) other group ∨
      Gone (groups.modify group.name (·.without member.name true)) other := by
  obtain ⟨g, found, inside⟩ | gone := accounted
  · by_cases same : other.name = member.name
    · right
      rw [Gone, same]
      exact gone_of_terminated unique held
    · refine .inl ⟨g.without member.name true, ?_, ?_⟩
      · rw [Directory.find?_modify, found, Option.map_some, if_pos rfl]
      · exact (List.mem_eraseP_of_neg (by simpa using same)).mpr inside
  · exact .inr (gone.fewer (.modify _ fun _ => List.eraseP_sublist))

namespace Cloud

variable {c c' : Cloud}

/-- Terminations that end well take exactly the named members from their group. -/
theorem terminateAll_lost {members : List InstanceRef} (unique : UniqueIds c.groups)
    (accounted : ∀ member ∈ members, Holds c.groups member group ∨ Gone c.groups member)
    (run : (terminateAll members).runOn c = (.ok (), c')) :
    ChangedAt group.name (Group.Lost (members.map InstanceRef.name)) c.groups.find?
      c'.groups.find? := by
  induction members generalizing c with
  | nil =>
      cases run
      exact .refl Group.Lost.nil _ _
  | cons member members ih =>
      obtain ⟨here, others⟩ := List.forall_mem_cons.mp accounted
      obtain ⟨_, m, first, rest⟩ := Action.bind_ok_cases run
      obtain ⟨-, ⟨⟨message, failed⟩, -⟩ | ⟨-, name, i, held, changed⟩⟩ :=
        terminateInstance_cases first
      · cases failed
      obtain ⟨g, found, inside, same⟩ := find?_of_holder? held
      have named : member.name ∈ g.ids := same ▸ List.mem_map_of_mem inside
      -- The call has found the member somewhere, so it is not one of those that are gone.
      have holds : Holds c.groups member group :=
        here.resolve_right fun gone => gone _ _ found named
      cases (Fewer.refl c.groups).eq_of_mem unique holds found named
      have fewer : Fewer c.groups m.groups := by
        rw [changed]
        exact .modify _ fun _ => List.eraseP_sublist
      have begun : ChangedAt group.name (Group.Lost [member.name]) c.groups.find?
          m.groups.find? := by
        rw [changed]
        refine .modify ?_
        intro g' found'
        cases found.symm.trans found'
        exact Group.lost_without (unique.within _ g found) named
      refine begun.trans (S := Group.Lost (members.map InstanceRef.name))
        (fun _ _ _ => Group.Lost.cons) (ih (fewer.uniqueIds unique) ?_ rest)
      intro other inside'
      rw [changed]
      exact accounted_of_terminated unique holds (others other inside')

end Cloud

end Autoscaler.Aws
