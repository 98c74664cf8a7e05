import Autoscaler.Proofs.Fleet.Building
import Autoscaler.Proofs.Fleet.Steady

/-!
# Groups of one provider

The groups of a provider that was built have one backend and different identifiers. A control
plane of managed instance groups knows each of them by its identifier, so that setting the size of
one changes nothing that can be read of another. A control plane of auto scaling groups knows a
group by its name and has no use for the zone that is configured: of two groups with one name in
different zones, each reads the size that was set for the other.

A size or a listing is read by calls that can fail. What is read is compared by the answers that
there are, and while the control plane serves there is an answer as long as there was one before.
-/

namespace Autoscaler

variable {α : Type}

/-- Every answer of an action is this value, and there is one if the control plane serves. -/
structure Backend.Tells (b : Backend) (act : CloudM World α) (w : World) (a : α) : Prop where
  answers : ∀ {a' w'}, act.runOn w = (.ok a', w') → a' = a
  serving : b.Serving w → (act.runOn w).1 = .ok a

/-- The answers of an action from two worlds are the same, and the second answers if and only if
the first does, unless the control plane fails to serve. -/
structure Backend.TellsSame (b : Backend) (act : CloudM World α) (w w' : World) : Prop where
  answers : ∀ {a a' m m'}, act.runOn w = (.ok a, m) → act.runOn w' = (.ok a', m') → a' = a
  serving : b.Serving w → (act.runOn w').1.toOption = (act.runOn w).1.toOption

/-- An action that reads a value off the world, if there is one to read. -/
structure Backend.Reads (b : Backend) (act : CloudM World α) (value? : World → Option α) :
    Prop where
  answers : ∀ {w a w'}, act.runOn w = (.ok a, w') → value? w = some a
  serving : ∀ {w a}, b.Serving w → value? w = some a → (act.runOn w).1 = .ok a

namespace Backend

variable {b : Backend} {id : GroupId} {w w' : World} {act : CloudM World α}
  {value? : World → Option α}

namespace Reads

theorem tells (reads : b.Reads act value?) {a : α} (here : value? w = some a) :
    b.Tells act w a where
  answers run := Option.some.inj ((reads.answers run).symm.trans here)
  serving serving := reads.serving serving here

theorem toOption (reads : b.Reads act value?) (serving : b.Serving w) :
    (act.runOn w).1.toOption = value? w := by
  cases here : value? w with
  | some a =>
      rw [reads.serving serving here]
      rfl
  | none =>
      rcases run : act.runOn w with ⟨e | a, m⟩
      · rfl
      · cases (reads.answers run).symm.trans here

theorem tellsSame (reads : b.Reads act value?) (stays : b.Serving w → b.Serving w')
    (same : value? w' = value? w) : b.TellsSame act w w' where
  answers run run' := by
    have before := reads.answers run
    have after := reads.answers run'
    rw [same, before] at after
    exact (Option.some.inj after).symm
  serving serving := by
    rw [reads.toOption serving, reads.toOption (stays serving), same]

end Reads

theorem reads_groupSize (b : Backend) (id : GroupId) : b.Reads (b.groupSize id) (b.size? id) where
  answers := groupSize_ok
  serving := groupSize_serving

/-- The members of a group, as a listing shows them. -/
def listMembers : Backend → GroupId → CloudM World (List InstanceRef)
  | aws cloud roster, group =>
      World.onAws cloud roster (Site.onCloud (Aws.Cloud.listMembers group))
  | gce project _ cloud roster, group =>
      World.onGce cloud roster (Site.onCloud (Gce.Cloud.listMembers project group))

theorem reads_listMembers (b : Backend) (id : GroupId) :
    b.Reads (b.listMembers id) fun w => b.members? w id where
  answers {w members w'} run := by
    cases b with
    | aws cloud roster =>
        obtain ⟨site, shown, -⟩ := World.onAws_cases run
        obtain ⟨c, listed, -⟩ := Site.onCloud_cases shown
        exact Aws.Cloud.tells_listMembers.ok listed
    | gce project polling cloud roster =>
        obtain ⟨site, shown, -⟩ := World.onGce_cases run
        obtain ⟨c, listed, -⟩ := Site.onCloud_cases shown
        exact (Gce.Cloud.tells_listMembers project).ok listed
  serving {w members} serving listed := by
    cases b with
    | aws cloud roster => exact Aws.Cloud.listMembers_healthy serving listed
    | gce project polling cloud roster => exact Gce.Cloud.listMembers_healthy serving.healthy listed

/-- The control plane takes two groups for one: it knows auto scaling groups by their names. -/
def Confuses : Backend → GroupId → GroupId → Prop
  | aws .., id, id' => id'.name = id.name
  | gce .., _, _ => False

/-- Different groups have one address only if they are taken for one. -/
theorem address_eq_iff {id' : GroupId} (different : id ≠ id') :
    b.address id' = b.address id ↔ b.Confuses id id' := by
  cases b with
  | aws cloud roster => simp [address, Confuses]
  | gce project polling cloud roster =>
      simp only [address, Confuses, Address.gce.injEq, Gce.GroupKey.mk.injEq, true_and, iff_false]
      rintro ⟨zone, name⟩
      cases id
      cases id'
      cases zone
      cases name
      exact different rfl

theorem sizeAt?_address (b : Backend) (id : GroupId) (w : World) :
    w.sizeAt? (b.address id) = b.size? id w := by
  cases b <;> rfl

theorem size?_of_set_elsewhere {id' : GroupId} {size : Nat}
    (run : (b.setGroupSize id size).runOn w = (.ok (), w'))
    (elsewhere : b.address id' ≠ b.address id) : b.size? id' w' = b.size? id' w := by
  obtain ⟨-, changed⟩ := setGroupSize_changes run
  rw [← sizeAt?_address, changed.elsewhere _ elsewhere, sizeAt?_address]

theorem size?_of_address {id' : GroupId} (same : b.address id' = b.address id) (w : World) :
    b.size? id' w = b.size? id w := by
  rw [← sizeAt?_address, same, sizeAt?_address]

end Backend

/-! ## Building a provider -/

namespace Provider

variable {backend : Backend} {p : Provider} {w w' : World}

/-- All groups are groups of one backend, and no two of them have one identifier. -/
structure Configured (backend : Backend) (groups : List NodeGroup) : Prop where
  backends : ∀ g ∈ groups, g.backend = backend
  ids : (groups.map NodeGroup.id).Nodup

theorem Configured.id_ne {groups : List NodeGroup} (configured : Configured backend groups)
    {g h : NodeGroup} (inside : g ∈ groups) (inside' : h ∈ groups) (different : g ≠ h) :
    g.id ≠ h.id := fun same =>
  different (List.inj_on_of_nodup_map configured.ids inside inside' same)

/-- Groups that specifications describe are groups of the backend with different identifiers. -/
theorem Describes.configured {specs : List String} {groups : List NodeGroup}
    (describes : Describes backend specs groups) : Configured backend groups where
  backends := by
    have each : List.Forall₂ (fun g spec => g.backend = backend ∧ Names backend spec g)
        groups specs := describes.each.flip.imp fun _ _ names => ⟨names.backend, names⟩
    exact ((List.forall₂_and_left _ _).mp each).1
  ids := describes.distinct

/-- The groups of a provider that is built are groups of its backend with different
identifiers. -/
theorem build_configured {specs : List String}
    (built : (build backend specs).runOn w = (.ok p, w')) :
    p.backend = backend ∧ Configured backend p.groups := by
  obtain ⟨q, m, run, from_specs⟩ | ⟨error, run, -⟩ := build_cases backend specs w
  · cases run.symm.trans built
    exact ⟨from_specs.backend, from_specs.describes.configured⟩
  · cases run.symm.trans built

/-- Setting the size of one group of a provider makes it read that size and leaves the listing of
every other group as it was. The size of another group stays as it was, too, unless the control
plane takes both for one group; then it reads the size that was set. -/
theorem setGroupSize_separate {specs : List String}
    (built : (build backend specs).runOn w = (.ok p, w')) {g h : NodeGroup} (inside : g ∈ p.groups)
    (inside' : h ∈ p.groups) (different : g ≠ h) {size : Nat} {now later : World}
    (set : (g.backend.setGroupSize g.id size).runOn now = (.ok (), later)) :
    g.backend.Tells g.currentSize later size ∧
      h.backend.TellsSame (h.backend.listMembers h.id) now later ∧
      (¬ backend.Confuses g.id h.id → h.backend.TellsSame h.currentSize now later) ∧
      (backend.Confuses g.id h.id → h.backend.Tells h.currentSize later size) := by
  obtain ⟨-, configured⟩ := build_configured built
  have apart := configured.id_ne inside inside' different
  have here := configured.backends g inside
  have there := configured.backends h inside'
  rw [here] at set
  rw [NodeGroup.currentSize, NodeGroup.currentSize, here, there]
  have steady := (backend.steady_setGroupSize g.id size).of_runOn set
  have held := Backend.size?_of_set set
  refine ⟨(backend.reads_groupSize g.id).tells held, ?_, ?_, ?_⟩
  · refine (backend.reads_listMembers h.id).tellsSame (fun serving => serving.steady steady) ?_
    rw [backend.members?_steady steady]
  · intro clear
    refine (backend.reads_groupSize h.id).tellsSame (fun serving => serving.steady steady) ?_
    apply Backend.size?_of_set_elsewhere set
    rwa [ne_eq, Backend.address_eq_iff apart]
  · intro confused
    apply (backend.reads_groupSize h.id).tells
    rw [Backend.size?_of_address ((Backend.address_eq_iff apart).mpr confused), held]

end Provider

/-!
## Two groups of one name

A control plane with two auto scaling groups, one of which is configured twice, in two zones.
-/

namespace Namesakes

def backend : Backend := .aws 0 0

def specs : List String := ["1:5:y/w", "1:5:z/w", "1:5:z/v"]

def cloud : Aws.Cloud where
  groups := { entries := [("v", { desired := 2 }), ("w", { desired := 1 })], nodup := by decide }

def world : World := { aws := ⟨[cloud]⟩ }

def group (zone name : String) : NodeGroup := ⟨backend, ⟨zone, name⟩, .small 1 5⟩

def provider : Provider := ⟨backend, [group "y" "w", group "z" "w", group "z" "v"]⟩

/-- The world after the provider is built. -/
def before : World := ((Provider.build backend specs).runOn world).2

/-- The world after one of the namesakes was given another size. -/
def after : World := ((backend.setGroupSize ⟨"y", "w"⟩ 3).runOn before).2

theorem built : (Provider.build backend specs).runOn world = (.ok provider, before) :=
  Prod.ext (by decide +kernel) (by rw [before])

theorem set : (backend.setGroupSize ⟨"y", "w"⟩ 3).runOn before = (.ok (), after) :=
  Prod.ext (by decide +kernel) (by rw [after])

theorem serving : backend.Serving before := ⟨rfl, fun _ _ => rfl⟩

end Namesakes

open Namesakes in
theorem Provider.setGroupSize_separate_sample :
    (group "y" "w").backend.Tells (group "y" "w").currentSize after 3 ∧
      (group "z" "v").backend.TellsSame (group "z" "v").currentSize before after := by
  obtain ⟨set, -, kept, -⟩ := Provider.setGroupSize_separate built (g := group "y" "w")
    (h := group "z" "v") (by decide) (by decide) (by decide) Namesakes.set
  exact ⟨set, kept (by simp [Namesakes.backend, Backend.Confuses, group])⟩

/-- Different groups of one provider can be one group of the control plane. -/
theorem Provider.setGroupSize_namesake :
    ¬ ∀ (backend : Backend) (specs : List String) (p : Provider) (w w' : World) (g h : NodeGroup)
        (size : Nat) (now later : World), (Provider.build backend specs).runOn w = (.ok p, w') →
      g ∈ p.groups → h ∈ p.groups → g ≠ h →
      (g.backend.setGroupSize g.id size).runOn now = (.ok (), later) →
      h.backend.TellsSame h.currentSize now later := by
  intro claim
  have same := claim _ _ _ _ _ (Namesakes.group "y" "w") (Namesakes.group "z" "w") _ _ _
    Namesakes.built (by decide) (by decide) (by decide) Namesakes.set
  exact absurd (same.serving Namesakes.serving) (by decide +kernel)

end Autoscaler
