import Autoscaler.Fleet.Provider
import Autoscaler.Proofs.Fleet.Ownership

/-!
# Building a provider

A provider is built from a list of specifications, all or none of them. If every specification can
be read, the backend accepts every identifier and no group is named twice, then the provider has
one group for each specification, and the groups that were not on the roster before stand behind
those that were. Otherwise the error is that of the first specification with a fault, and nothing
is registered. No control plane is asked in either case.
-/

namespace Autoscaler

namespace Provider

/-- The specification can be read, and it means this group to the backend. -/
structure Names (b : Backend) (spec : String) (g : NodeGroup) : Prop where
  reads : ∃ identifier, GroupSpec.parse spec = .ok ⟨g.bounds, identifier⟩ ∧
    b.readGroupId identifier = .ok g.id
  backend : g.backend = b

/-- The specifications name these groups, one each, and no two of them the same. -/
structure Describes (b : Backend) (specs : List String) (groups : List NodeGroup) : Prop where
  each : List.Forall₂ (Names b) specs groups
  distinct : (groups.map NodeGroup.id).Nodup

/-- What can be wrong with a specification behind others that name the groups `earlier`. -/
inductive Fault (b : Backend) (earlier : List NodeGroup) (spec : String) : CloudError → Prop where
  | malformed (error : FormatError) (unread : GroupSpec.parse spec = .error error) :
      Fault b earlier spec (.format error)
  | refused (parsed : GroupSpec) (error : FormatError) (read : GroupSpec.parse spec = .ok parsed)
      (unknown : b.readGroupId parsed.identifier = .error error) :
      Fault b earlier spec (.format error)
  | repeated (g : NodeGroup) (names : Names b spec g)
      (before : g.id ∈ earlier.map NodeGroup.id) : Fault b earlier spec (.duplicateGroup g.url)

/-- The first specification with a fault has this error. -/
def Fails (b : Backend) (specs : List String) (error : CloudError) : Prop :=
  ∃ before spec after groups, specs = before ++ spec :: after ∧ Describes b before groups ∧
    Fault b groups spec error

variable {b : Backend} {spec : String} {specs : List String} {g g' : NodeGroup}
  {groups groups' earlier : List NodeGroup} {error : CloudError}

/-! ## One specification -/

theorem Names.unique (names : Names b spec g) (names' : Names b spec g') : g' = g := by
  obtain ⟨⟨identifier, read, known⟩, here⟩ := names
  obtain ⟨⟨identifier', read', known'⟩, here'⟩ := names'
  rw [read, Except.ok.injEq, GroupSpec.mk.injEq] at read'
  obtain ⟨bounds, rfl⟩ := read'
  rw [known, Except.ok.injEq] at known'
  cases g
  cases g'
  cases here
  cases here'
  cases bounds
  cases known'
  rfl

/-- A specification names a group that is new, or has one of the faults. -/
theorem readGroup_cases (b : Backend) (earlier : List NodeGroup) (spec : String) :
    (∃ g, readGroup b earlier spec = .ok g ∧ Names b spec g ∧
        g.id ∉ earlier.map NodeGroup.id) ∨
      ∃ error, readGroup b earlier spec = .error error ∧ Fault b earlier spec error := by
  rw [readGroup]
  cases read : GroupSpec.parse spec with
  | error e => exact .inr ⟨_, rfl, .malformed e read⟩
  | ok parsed =>
      dsimp only
      rw [NodeGroup.ofSpec]
      cases known : b.readGroupId parsed.identifier with
      | error e => exact .inr ⟨_, rfl, .refused parsed e read known⟩
      | ok id =>
          have names : Names b spec ⟨b, id, parsed.bounds⟩ :=
            ⟨⟨parsed.identifier, read, known⟩, rfl⟩
          dsimp only
          split
          · next before => exact .inr ⟨_, rfl, .repeated _ names (by simpa using before)⟩
          · next new => exact .inl ⟨_, rfl, names, by simpa using new⟩

/-- A specification that names a new group has no fault. -/
theorem Names.no_fault (names : Names b spec g) (new : g.id ∉ earlier.map NodeGroup.id) :
    ¬ Fault b earlier spec error := by
  obtain ⟨identifier, read, known⟩ := names.reads
  intro fault
  cases fault with
  | malformed error unread => cases read.symm.trans unread
  | refused parsed error read' unknown =>
      cases read.symm.trans read'
      cases known.symm.trans unknown
  | repeated g' names' before =>
      cases names.unique names'
      exact new before

/-! ## Lists of specifications -/

namespace Describes

theorem nil (b : Backend) : Describes b [] [] := ⟨.nil, List.nodup_nil⟩

theorem snoc (describes : Describes b specs groups) (names : Names b spec g)
    (new : g.id ∉ groups.map NodeGroup.id) : Describes b (specs ++ [spec]) (groups ++ [g]) where
  each := List.rel_append describes.each (.cons names .nil)
  distinct := by
    rw [List.map_append, List.map_singleton, List.nodup_append_comm, List.singleton_append]
    exact List.nodup_cons.mpr ⟨new, describes.distinct⟩

theorem unique (describes : Describes b specs groups) (describes' : Describes b specs groups') :
    groups' = groups := by
  have each := describes.each
  have each' := describes'.each
  clear describes describes'
  induction each generalizing groups' with
  | nil =>
      cases each'
      rfl
  | cons names _ ih =>
      cases each' with
      | cons names' others => rw [names.unique names', ih others]

/-- The groups that specifications name are those that the first of them name and those that the
others name. -/
theorem each_append {after : List String}
    (each : List.Forall₂ (Names b) (specs ++ after) groups) :
    ∃ first rest, List.Forall₂ (Names b) specs first ∧ List.Forall₂ (Names b) after rest ∧
      groups = first ++ rest := by
  induction specs generalizing groups with
  | nil => exact ⟨[], groups, .nil, each, rfl⟩
  | cons spec specs ih =>
      cases each with
      | cons names others =>
          obtain ⟨first, rest, before, behind, rfl⟩ := ih others
          exact ⟨_ :: first, rest, .cons names before, behind, rfl⟩

/-- Where all specifications name different groups, none of them has a fault. -/
theorem not_fails (describes : Describes b specs groups) : ¬ Fails b specs error := by
  rintro ⟨before, spec, after, groups', rfl, earlier, fault⟩
  obtain ⟨first, rest, each, others, rfl⟩ := each_append describes.each
  cases others with
  | @cons _ g _ rest names _ =>
      have distinct := describes.distinct
      rw [List.map_append, List.map_cons] at distinct
      have same : first = groups' := earlier.unique ⟨each, distinct.of_append_left⟩
      subst same
      refine names.no_fault ?_ fault
      intro before
      exact (List.nodup_append.mp distinct).2.2 _ before _ List.mem_cons_self rfl

end Describes

/-- Reading goes on to the end, or up to the first fault. -/
theorem readGroups_cases {first : List String} (described : Describes b first earlier)
    (specs : List String) :
    (∃ groups, readGroups b earlier specs = .ok groups ∧ Describes b (first ++ specs) groups) ∨
      ∃ error, readGroups b earlier specs = .error error ∧ Fails b (first ++ specs) error := by
  induction specs generalizing first earlier with
  | nil => exact .inl ⟨earlier, rfl, by rwa [List.append_nil]⟩
  | cons spec specs ih =>
      obtain ⟨g, read, names, new⟩ | ⟨error, read, fault⟩ := readGroup_cases b earlier spec
      · have onward := ih (described.snoc names new)
        rw [List.append_assoc, List.singleton_append] at onward
        rw [readGroups, read]
        exact onward
      · rw [readGroups, read]
        exact .inr ⟨error, rfl, first, spec, specs, earlier, rfl, described, fault⟩

end Provider

/-! ## Registration -/

namespace Backend

/-- The world after groups were put on the roster of a backend: those that are new stand behind
those that were there, and nothing else has changed. -/
structure Enrolls (b : Backend) (ids : List GroupId) (w w' : World) : Prop where
  aws : w'.aws = w.aws
  gce : w'.gce = w.gce
  roster : b.roster w' =
    { b.roster w with
      groups := (b.roster w).groups ++ ids.filter fun id => id ∉ (b.roster w).groups }
  others : ∀ n, n ≠ b.rosterSlot → w'.rosters.get n = w.rosters.get n

variable {b : Backend} {id : GroupId} {ids : List GroupId} {w m w' : World}

namespace Enrolls

theorem refl (b : Backend) (w : World) : b.Enrolls [] w w where
  aws := rfl
  gce := rfl
  roster := by simp
  others _ _ := rfl

theorem cons (first : b.Enrolls [id] w m) (rest : b.Enrolls ids m w') (new : id ∉ ids) :
    b.Enrolls (id :: ids) w w' where
  aws := rest.aws.trans first.aws
  gce := rest.gce.trans first.gce
  roster := by
    have same : (ids.filter fun other => other ∉ (b.roster m).groups) =
        ids.filter fun other => other ∉ (b.roster w).groups := by
      apply List.filter_congr
      intro other inside
      have different : other ≠ id := fun same => new (same ▸ inside)
      rw [first.roster]
      by_cases known : id ∈ (b.roster w).groups <;> simp [known, different]
    rw [rest.roster, same, first.roster, List.append_assoc, ← List.filter_append,
      List.singleton_append]
  others n elsewhere := (rest.others n elsewhere).trans (first.others n elsewhere)

end Enrolls

theorem enrolls_register (b : Backend) (id : GroupId) (w : World) :
    b.Enrolls [id] w (b.register id w) where
  aws := rfl
  gce := rfl
  roster := by
    have listed : b.roster (b.register id w) = (b.roster w).register id := Slots.get_set_self _ _ _
    rw [listed, Roster.register]
    split
    · next known => simp [known]
    · next new => simp [new]
  others _ elsewhere := Slots.get_set_ne _ _ elsewhere

theorem enrolls_registerAll (b : Backend) {groups : List NodeGroup}
    (distinct : (groups.map NodeGroup.id).Nodup) (w : World) :
    b.Enrolls (groups.map NodeGroup.id) w
      (groups.foldl (fun w g => b.register g.id w) w) := by
  induction groups generalizing w with
  | nil => exact .refl b w
  | cons g groups ih =>
      obtain ⟨new, others⟩ := List.nodup_cons.mp distinct
      exact (b.enrolls_register g.id w).cons (ih others _) new

end Backend

/-! ## Building -/

namespace Provider

variable {b : Backend} {specs : List String} {w w' : World}

/-- A provider that is built has the groups that its specifications describe, and they are on the
roster. -/
structure BuiltFrom (b : Backend) (specs : List String) (w : World) (p : Provider) (w' : World) :
    Prop where
  backend : p.backend = b
  describes : Describes b specs p.groups
  enrolls : b.Enrolls (p.groups.map NodeGroup.id) w w'

theorem build_cases (b : Backend) (specs : List String) (w : World) :
    (∃ p w', (build b specs).runOn w = (.ok p, w') ∧ BuiltFrom b specs w p w') ∨
      ∃ error, (build b specs).runOn w = (.error error, w) ∧ Fails b specs error := by
  obtain ⟨groups, read, describes⟩ | ⟨error, read, fails⟩ := readGroups_cases (.nil b) specs
  · refine .inl ⟨⟨b, groups⟩, groups.foldl (fun w g => b.register g.id w) w, ?_, rfl, describes,
      b.enrolls_registerAll describes.distinct w⟩
    rw [build, read, Action.runOn_bind_ok (Action.runOn_ofExcept _ _),
      Action.runOn_bind_ok (Action.runOn_modify _ _), Action.runOn_pure]
  · refine .inr ⟨error, ?_, fails⟩
    rw [build, read, Action.runOn_bind_error (Action.runOn_ofExcept _ _)]

/-- Building asks no control plane. It succeeds if and only if the specifications describe groups,
which then are those of the provider and on the roster, and otherwise it leaves everything as it
was and has the error of the first specification with a fault. -/
theorem build_allOrNothing (b : Backend) (specs : List String) (w : World) :
    ((build b specs).runOn w).2.aws = w.aws ∧ ((build b specs).runOn w).2.gce = w.gce ∧
      ((∃ p, ((build b specs).runOn w).1 = .ok p) ↔ ∃ groups, Describes b specs groups) ∧
      (∀ p, ((build b specs).runOn w).1 = .ok p →
        BuiltFrom b specs w p ((build b specs).runOn w).2) ∧
      ∀ error, ((build b specs).runOn w).1 = .error error →
        Fails b specs error ∧ ((build b specs).runOn w).2 = w := by
  obtain ⟨p, w', run, built⟩ | ⟨error, run, fails⟩ := build_cases b specs w
  · rw [run]
    refine ⟨built.enrolls.aws, built.enrolls.gce, ?_, ?_, ?_⟩
    · exact ⟨fun _ => ⟨p.groups, built.describes⟩, fun _ => ⟨p, rfl⟩⟩
    · rintro _ ⟨⟩
      exact built
    · rintro _ ⟨⟩
  · rw [run]
    refine ⟨rfl, rfl, ?_, ?_, ?_⟩
    · constructor
      · rintro ⟨_, ⟨⟩⟩
      · rintro ⟨groups, describes⟩
        exact absurd fails describes.not_fails
    · rintro _ ⟨⟩
    · rintro _ ⟨⟩
      exact ⟨fails, rfl⟩

end Provider

end Autoscaler
