import Autoscaler.Proofs.Fleet.Twins

/-!
# Increases

An increase is judged before anything is changed: by its sign, without a call, and then by the
size that is read, with the one call that reads it. What it asks for within the maximum it gets
exactly, through the same call that sets a size, so it comes out where a resize to the sum does.
Sizes are words of 32 bits and increases have a sign; the sum is an integer, and as long as it
is within the maximum it is the size that is sent.
-/

namespace Autoscaler

/-- The worlds have the same contents in every slot. -/
structure World.Same (w w' : World) : Prop where
  aws : ∀ n, w'.aws.get n = w.aws.get n
  gce : ∀ n, w'.gce.get n = w.gce.get n
  rosters : ∀ n, w'.rosters.get n = w.rosters.get n

namespace Backend

variable {b : Backend} {id : GroupId} {w m : World}

/-- The world with one call more, which has read the size of a group. -/
def withRead : Backend → GroupId → World → World
  | aws cloud _, id, w =>
      let c := w.aws.get cloud
      { w with
        aws := w.aws.set cloud
          { c with traffic := c.traffic.record (.describeGroup id.name) true } }
  | gce project _ cloud _, id, w =>
      let c := w.gce.get cloud
      { w with
        gce := w.gce.set cloud
          { c with traffic := c.traffic.record (.targetSize ⟨project, id.zone, id.name⟩) true } }

/-- A size that is read is read with one call. -/
theorem groupSize_same {n : Nat} (read : (b.groupSize id).runOn w = (.ok n, m)) :
    World.Same (b.withRead id w) m := by
  cases b with
  | aws cloud roster =>
      obtain ⟨site, asked, rfl⟩ := World.onAws_cases read
      obtain ⟨c, told, rfl⟩ := Site.onCloud_cases asked
      cases Aws.Cloud.groupSize_left told
      exact ⟨fun _ => rfl, fun _ => rfl, Slots.get_set_get w.rosters roster⟩
  | gce project polling cloud roster =>
      obtain ⟨site, asked, rfl⟩ := World.onGce_cases read
      obtain ⟨c, told, rfl⟩ := Site.onCloud_cases asked
      cases Gce.Cloud.groupSize_left told
      exact ⟨fun _ => rfl, fun _ => rfl, Slots.get_set_get w.rosters roster⟩

end Backend

namespace NodeGroup

variable {g : NodeGroup} {delta : Int} {n size : Nat} {w w' m : World}

/-! ## The three ways -/

theorem increase_not_positive (g : NodeGroup) (w : World) (down : delta ≤ 0) :
    (g.increase delta).runOn w = (.error (.invalidDelta delta), w) := by
  rw [increase, if_pos down]
  rfl

theorem increase_beyond (read : g.currentSize.runOn w = (.ok n, m)) (up : 0 < delta)
    (beyond : (g.bounds.max : Int) < n + delta) :
    (g.increase delta).runOn w =
      (.error (.maxSizeExceeded (n + delta) g.bounds.max), m) := by
  rw [increase, if_neg (Int.not_le.mpr up), Action.runOn_bind_ok read]
  dsimp only
  rw [if_pos beyond]
  rfl

/-- Within the maximum an increase is the call that sets the size, behind the one that reads it. -/
theorem increase_within (read : g.currentSize.runOn w = (.ok n, m)) (up : 0 < delta)
    (within : n + delta ≤ g.bounds.max) :
    (g.increase delta).runOn w = (g.backend.setGroupSize g.id (n + delta).toNat).runOn m := by
  rw [increase, if_neg (Int.not_le.mpr up), Action.runOn_bind_ok read]
  dsimp only
  rw [if_neg (Int.not_lt.mpr within)]

/-- An increase that ends well was one within the maximum. -/
theorem increase_ok_iff (read : g.currentSize.runOn w = (.ok n, m)) :
    (g.increase delta).runOn w = (.ok (), w') ↔
      0 < delta ∧ n + delta ≤ g.bounds.max ∧
        (g.backend.setGroupSize g.id (n + delta).toNat).runOn m = (.ok (), w') := by
  by_cases up : 0 < delta
  · by_cases within : n + delta ≤ g.bounds.max
    · simp only [increase_within read up within, up, within, true_and]
    · simp [increase_beyond read up (Int.not_le.mp within), within]
  · simp [increase_not_positive g w (Int.not_lt.mp up), up]

/-- A resize to a size within the maximum is the call that sets it. -/
theorem resize_ok_iff (within : size ≤ g.bounds.max) :
    (g.resize size).runOn w = (.ok size, w') ↔
      (g.backend.setGroupSize g.id size).runOn w = (.ok (), w') := by
  rw [resize, Nat.min_eq_left within, Action.runOn_bind]
  rcases (g.backend.setGroupSize g.id size).runOn w with ⟨_ | _, w''⟩ <;> simp

theorem currentSize_twin (uniform : w.Uniform) (read : g.currentSize.runOn w = (.ok n, m)) :
    World.Twin w m := by
  obtain ⟨told, always⟩ := g.backend.constant_groupSize g.id w
  have left := (always w uniform.twin).2
  rwa [show (g.backend.groupSize g.id).runOn w = _ from read] at left

/-- A resize that ends well in one of two twins does so in the other, and leaves twins. -/
theorem resize_of_twin (twin : World.Twin w m) (run : (g.resize size).runOn m = (.ok n, w')) :
    ∃ w'', (g.resize size).runOn w = (.ok n, w'') ∧ World.Twin w'' w' := by
  obtain ⟨agree, left⟩ := g.blind_resize size w m twin
  rw [run] at agree left
  exact ⟨((g.resize size).runOn w).2, Prod.ext agree.eq rfl, left⟩

/-- A resize that ends well leaves the groups with the one size, whatever was asked before it. -/
theorem resize_sameGroups (same : World.SameGroups w m) (within : size ≤ g.bounds.max)
    (run : (g.resize size).runOn m = (.ok n, w')) :
    World.SameGroups (g.withSize size w) w' := by
  obtain ⟨-, ⟨-, left⟩ | ⟨e, failed, -⟩⟩ := resize_cases run
  · rw [Nat.min_eq_left within] at left
    exact trans_of World.SameGroups (same.withSize g.backend g.id size) left
  · cases failed

/-! ## Increases and resizes -/

/-- **Increases are exact.** An increase is refused for its sign before any call and for the
maximum after the one call that reads the size, and nothing has changed then. Otherwise it ends
as the call that sets the sum ends. If that is well the sum is a word and the size of the group,
and a resize to it leaves the same world if it starts where the size was read, the same groups
wherever it succeeds, and the same but for the traffic if no plan of failures is under way. -/
theorem increase_exact (delta : Int) (read : g.currentSize.runOn w = (.ok n, m)) :
    World.Same (g.backend.withRead g.id w) m ∧
    (delta ≤ 0 → (g.increase delta).runOn w = (.error (.invalidDelta delta), w)) ∧
    (0 < delta → g.bounds.max < n + delta → (g.increase delta).runOn w =
      (.error (.maxSizeExceeded (n + delta) g.bounds.max), m)) ∧
    (0 < delta → n + delta ≤ g.bounds.max → (g.increase delta).runOn w =
      (g.backend.setGroupSize g.id (n + delta).toNat).runOn m) ∧
    (((g.increase delta).runOn w).1 = .ok () ↔ 0 < delta ∧ n + delta ≤ g.bounds.max ∧
      ((g.backend.setGroupSize g.id (n + delta).toNat).runOn m).1 = .ok ()) ∧
    ∀ w', (g.increase delta).runOn w = (.ok (), w') →
      ∃ size : Nat, size = n + delta ∧ size < word32 ∧ g.size? w' = some size ∧
        (g.resize size).runOn m = (.ok size, w') ∧
        (∀ w'', (g.resize size).runOn w = (.ok size, w'') → World.SameGroups w'' w') ∧
        (w.Uniform → ∃ w'', (g.resize size).runOn w = (.ok size, w'') ∧ World.Twin w'' w') := by
  refine ⟨Backend.groupSize_same read, increase_not_positive g w, increase_beyond read,
    increase_within read, ?_, ?_⟩
  · have ends (w' : World) : (g.increase delta).runOn w = (.ok (), w') ↔ _ := increase_ok_iff read
    simpa [Prod.ext_iff] using exists_congr ends
  · intro w' run
    obtain ⟨up, within, set⟩ := (increase_ok_iff read).mp run
    obtain ⟨size, sum⟩ := Int.eq_ofNat_of_zero_le (show 0 ≤ n + delta by omega)
    rw [sum, Int.toNat_natCast] at set
    have fits : size ≤ g.bounds.max := by omega
    have resized := (resize_ok_iff fits).mpr set
    have same : World.SameGroups w m := by
      have seen := g.keeps_currentSize w
      rw [read] at seen
      exact seen.sameGroups
    refine ⟨size, sum.symm, Nat.lt_of_le_of_lt fits g.bounds.max_lt, Backend.size?_of_set set,
      resized, ?_, fun uniform => resize_of_twin (currentSize_twin uniform read) resized⟩
    intro w'' direct
    have left := resize_sameGroups (refl_of World.SameGroups w) fits direct
    have left' := resize_sameGroups same fits resized
    exact ⟨fun slot => (left'.aws slot).trans (left.aws slot).symm,
      fun slot => (left'.gce slot).trans (left.gce slot).symm⟩

end NodeGroup

namespace Boundary

/-- A group that has two machines and may have five. -/
def group : NodeGroup := ⟨.gce "p" {} 0 0, ⟨"z", "m"⟩, .small 1 5⟩

/-- The operations of the control plane take two questions more than the one they all take. -/
def world : World where
  gce :=
    ⟨[{ groups := { entries := [(⟨"p", "z", "m"⟩, { target := 2 })], nodup := by decide }
        operationPolls := 2 }]⟩

def asked : World := (group.currentSize.runOn world).2

theorem read : group.currentSize.runOn world = (.ok 2, asked) :=
  Prod.ext (by decide +kernel) (by rw [asked])

def after : World := ((group.increase 3).runOn world).2

theorem increased : (group.increase 3).runOn world = (.ok (), after) :=
  Prod.ext (by decide +kernel) (by rw [after])

theorem uniform : world.Uniform :=
  .of_items (fun _ member => by cases member) (fun c member => ⟨false, fun _ _ => by
    rw [List.mem_singleton.mp member]
    rfl⟩)

end Boundary

/-- The increase up to the maximum itself, and the one beyond it. -/
theorem NodeGroup.increase_exact_boundary :
    (Boundary.group.increase 4).runOn Boundary.world =
        (.error (.maxSizeExceeded 6 5), Boundary.asked) ∧
      Boundary.group.size? Boundary.after = some 5 ∧
      ∃ w, (Boundary.group.resize 5).runOn Boundary.world = (.ok 5, w) ∧
        World.Twin w Boundary.after := by
  obtain ⟨-, -, beyond, -⟩ := NodeGroup.increase_exact 4 Boundary.read
  obtain ⟨-, -, -, -, -, exactly⟩ := NodeGroup.increase_exact 3 Boundary.read
  obtain ⟨size, sum, -, known, -, -, twin⟩ := exactly Boundary.after Boundary.increased
  obtain rfl : size = 5 := by omega
  exact ⟨beyond (by decide) (by decide), known, twin Boundary.uniform⟩

end Autoscaler
