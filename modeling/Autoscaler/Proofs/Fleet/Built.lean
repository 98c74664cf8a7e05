import Autoscaler.Proofs.Fleet.Building
import Autoscaler.Proofs.Fleet.Identifiers

/-!
# Providers that are built from a layout

Every backend can name the groups of a layout in specifications, and a provider that is built from
these has the groups of the layout, all of them on its roster. So a layout that is expressed on two
new control planes, with two new providers, is mirrored.
-/

namespace Autoscaler

/-- The specifications by which a backend names the pools. -/
def Layout.specs (k : Layout) (b : Backend) : List String :=
  k.pools.map fun pool => GroupSpec.text ⟨pool.bounds, b.groupUrl pool.id⟩

namespace Provider

variable {b : Backend} {pool : Pool}

theorem names_pool (plain : b.Plain) (plain' : pool.Plain) :
    Names b (GroupSpec.text ⟨pool.bounds, b.groupUrl pool.id⟩) (pool.group b) where
  reads := ⟨b.groupUrl pool.id, GroupSpec.parse_text _ (b.groupUrl_ne_empty pool.id),
    Backend.readGroupId_groupUrl plain ⟨plain'.zone, plain'.name⟩⟩
  backend := rfl

/-- The specifications of a layout describe its groups. -/
theorem describes_specs (plain : b.Plain) (k : Layout) :
    Describes b (k.specs b) (k.provider b).groups where
  each := by
    rw [Layout.specs, Layout.provider, List.forall₂_map_left_iff, List.forall₂_map_right_iff,
      List.forall₂_same]
    exact fun pool inside => names_pool plain (k.plain pool inside)
  distinct := by
    apply List.Nodup.of_map GroupId.name
    rw [Layout.provider, List.map_map, List.map_map]
    exact k.names

/-- The provider of a layout is built from its specifications. -/
theorem build_specs (plain : b.Plain) (k : Layout) {w : World} (new : b.roster w = {}) :
    ∃ rosters, (build b (k.specs b)).runOn w = (.ok (k.provider b), { w with rosters }) ∧
      (rosters.get b.rosterSlot).groups = k.ids ∧ (rosters.get b.rosterSlot).owners = [] := by
  have describes := describes_specs plain k
  obtain ⟨p, w', run, built⟩ | ⟨error, -, fails⟩ := build_cases b (k.specs b) w
  · obtain ⟨backend, groups⟩ := p
    obtain rfl : groups = (k.provider b).groups := describes.unique built.describes
    obtain rfl : backend = b := built.backend
    have left : w' = { w with rosters := w'.rosters } := by
      rw [← built.enrolls.aws, ← built.enrolls.gce]
    have roster := built.enrolls.roster
    rw [new] at roster
    refine ⟨w'.rosters, by rw [run, ← left]; rfl, ?_, ?_⟩
    · show (backend.roster w').groups = k.ids
      rw [roster]
      simp [Layout.provider, Layout.ids, Function.comp_def, Pool.group]
    · show (backend.roster w').owners = []
      rw [roster]
  · exact absurd fails describes.not_fails

/-- Providers that are built where a layout is expressed are mirrored. -/
theorem build_mirrored {b b' : Backend} {k : Layout} {sizes : String → Nat} {w w' : World}
    (plain : b.Plain) (plain' : b'.Plain) (expresses : b.Expresses k sizes w)
    (expresses' : b'.Expresses k sizes w') (new : b.roster w = {}) (new' : b'.roster w' = {}) :
    ∃ m m', (build b (k.specs b)).runOn w = (.ok (k.provider b), m) ∧
      (build b' (k.specs b')).runOn w' = (.ok (k.provider b'), m') ∧ Mirrored k b b' m m' := by
  obtain ⟨rosters, built, groups, owners⟩ := build_specs plain k new
  obtain ⟨rosters', built', groups', owners'⟩ := build_specs plain' k new'
  refine ⟨_, _, built, built', sizes, expresses.rosters rosters, expresses'.rosters rosters',
    groups, ?_⟩
  exact ⟨groups'.trans groups.symm, owners'.trans owners.symm⟩

end Provider

end Autoscaler
