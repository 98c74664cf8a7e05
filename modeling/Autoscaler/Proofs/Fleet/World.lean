import Autoscaler.Fleet.Backend
import Autoscaler.Proofs.Aws.Cloud
import Autoscaler.Proofs.Gce.Operations
import Autoscaler.Proofs.Roster

/-!
# Worlds before and after

Two worlds are compared slot by slot: whether only calls that ask lie between them, whether
all groups are the same, and how many calls of a kind were made on all control planes
together. The total is a sum over slots, all but finitely many of which count nothing.
-/

namespace Autoscaler

namespace Slots

variable {α : Type}

/-- The sum of a count over all slots. -/
def total (f : α → Nat) (s : Slots α) : Nat := s.items.foldr (fun a n => f a + n) 0

variable [Inhabited α] {f : α → Nat}

theorem put_put (items : List α) (n : Nat) (a b : α) : put (put items n a) n b = put items n b := by
  induction n generalizing items with
  | zero => cases items <;> rfl
  | succ n ih => cases items <;> simp only [put, ih]

theorem set_set (s : Slots α) (n : Nat) (a b : α) : (s.set n a).set n b = s.set n b := by
  simp only [set, put_put]

/-- Only slots that were written hold anything but the default value. -/
theorem get_cases (s : Slots α) (n : Nat) : s.get n = default ∨ s.get n ∈ s.items := by
  rw [get, List.getD_eq_getElem?_getD]
  cases found : s.items[n]? with
  | none => exact .inl rfl
  | some a => exact .inr (List.mem_of_getElem? found)

theorem foldr_put (zero : f default = 0) (items : List α) (n : Nat) (a : α) :
    (put items n a).foldr (fun a n => f a + n) 0 + f (items.getD n default) =
      items.foldr (fun a n => f a + n) 0 + f a := by
  induction n generalizing items with
  | zero =>
      cases items with
      | nil => simp [put, zero]
      | cons item items =>
          simp only [put, List.foldr_cons, List.getD_cons_zero]
          omega
  | succ n ih =>
      cases items with
      | nil => simpa [put, zero] using ih []
      | cons item items =>
          have rest := ih items
          simp only [put, List.foldr_cons, List.getD_cons_succ] at rest ⊢
          omega

theorem total_set (zero : f default = 0) (s : Slots α) (n : Nat) (a : α) :
    (s.set n a).total f + f (s.get n) = s.total f + f a := foldr_put zero s.items n a

theorem foldr_congr (zero : f default = 0) (items items' : List α)
    (same : ∀ n, f (items'.getD n default) = f (items.getD n default)) :
    items'.foldr (fun a n => f a + n) 0 = items.foldr (fun a n => f a + n) 0 := by
  induction items generalizing items' with
  | nil =>
      induction items' with
      | nil => rfl
      | cons item' items' ih =>
          have first : f item' = 0 := by simpa [zero] using same 0
          have rest := ih fun n => by simpa using same (n + 1)
          simpa [first] using rest
  | cons item items ih =>
      cases items' with
      | nil =>
          have first : f item = 0 := by simpa [zero] using (same 0).symm
          have rest := ih [] fun n => by simpa using same (n + 1)
          simpa [first] using rest
      | cons item' items' =>
          have first : f item' = f item := by simpa using same 0
          have rest := ih items' fun n => by simpa using same (n + 1)
          simp only [List.foldr_cons, first, rest]

theorem total_congr (zero : f default = 0) {s s' : Slots α}
    (same : ∀ n, f (s'.get n) = f (s.get n)) : s'.total f = s.total f :=
  foldr_congr zero s.items s'.items same

/-- If one slot gets a new content that `R` relates to the old one, then every slot has a
content that `R` relates to what it held. -/
theorem get_set_of {R : α → α → Prop} (same : ∀ a, R a a) {s : Slots α} {n : Nat} {a : α}
    (there : R (s.get n) a) (m : Nat) : R (s.get m) ((s.set n a).get m) := by
  rw [get_set]
  split
  · next here => rwa [here]
  · exact same _

theorem get_set_get (s : Slots α) (n m : Nat) : (s.set n (s.get n)).get m = s.get m :=
  get_set_of (R := fun a a' : α => a' = a) (fun _ => rfl) rfl m

/-- Slots that are related one by one stay so if one of them gets related contents. -/
theorem get_set_set {R : α → α → Prop} {s s' : Slots α} (others : ∀ m, R (s.get m) (s'.get m))
    {a a' : α} (there : R a a') (n m : Nat) : R ((s.set n a).get m) ((s'.set n a').get m) := by
  rw [get_set, get_set]
  split
  · exact there
  · exact others m

end Slots

namespace World

open Autoscaler.Action (Keeps)

/-- How many calls of one kind were made, on all control planes together. -/
def made (kind : CallKind) (w : World) : Nat :=
  w.aws.total (fun c => c.traffic.made Aws.Call.kind kind) +
    w.gce.total (fun c => c.traffic.made Gce.Call.kind kind)

/-- All calls that `w` has seen, `w'` has seen before any other. -/
structure CallsKept (w w' : World) : Prop where
  aws : ∀ n, (w.aws.get n).traffic.sent <:+ (w'.aws.get n).traffic.sent
  gce : ∀ n, (w.gce.get n).traffic.sent <:+ (w'.gce.get n).traffic.sent

/-- Every control plane has the same groups. -/
structure SameGroups (w w' : World) : Prop where
  aws : ∀ n, (w'.aws.get n).groups = (w.aws.get n).groups
  gce : ∀ n, (w'.gce.get n).groups = (w.gce.get n).groups

/-- The world after calls that only ask. What rosters know may have changed. -/
structure Observed (w w' : World) : Prop where
  aws : ∀ n, (w.aws.get n).Observed (w'.aws.get n)
  gce : ∀ n, (w.gce.get n).Observed (w'.gce.get n)

variable {w w' w'' : World}

instance : IsPreorder World CallsKept where
  refl _ := ⟨fun _ => List.suffix_rfl, fun _ => List.suffix_rfl⟩
  trans _ _ _ first rest :=
    ⟨fun n => (first.aws n).trans (rest.aws n), fun n => (first.gce n).trans (rest.gce n)⟩

instance : IsPreorder World SameGroups where
  refl _ := ⟨fun _ => rfl, fun _ => rfl⟩
  trans _ _ _ first rest :=
    ⟨fun n => (rest.aws n).trans (first.aws n), fun n => (rest.gce n).trans (first.gce n)⟩

instance : IsPreorder World Observed where
  refl _ := ⟨fun _ => refl_of Aws.Cloud.Observed _, fun _ => refl_of Gce.Cloud.Observed _⟩
  trans _ _ _ first rest :=
    ⟨fun n => trans_of Aws.Cloud.Observed (first.aws n) (rest.aws n),
      fun n => trans_of Gce.Cloud.Observed (first.gce n) (rest.gce n)⟩

theorem Observed.sameGroups (seen : Observed w w') : SameGroups w w' :=
  ⟨fun n => (seen.aws n).groups, fun n => (seen.gce n).groups⟩

theorem Observed.callsKept (seen : Observed w w') : CallsKept w w' := by
  constructor
  · intro n
    obtain ⟨traffic, asks, same⟩ := seen.aws n
    rw [same]
    exact asks.suffix
  · intro n
    obtain ⟨traffic, asks, same⟩ := seen.gce n
    rw [same]
    exact asks.suffix

/-- Observers make no call that changes something. -/
theorem Observed.made_eq (seen : Observed w w') {kind : CallKind} (changing : kind ≠ .ask) :
    w'.made kind = w.made kind := by
  have aws : w'.aws.total (fun c => c.traffic.made Aws.Call.kind kind) =
      w.aws.total (fun c => c.traffic.made Aws.Call.kind kind) := by
    apply Slots.total_congr rfl
    intro n
    obtain ⟨traffic, asks, same⟩ := seen.aws n
    rw [same]
    exact asks.made_eq changing
  have gce : w'.gce.total (fun c => c.traffic.made Gce.Call.kind kind) =
      w.gce.total (fun c => c.traffic.made Gce.Call.kind kind) := by
    apply Slots.total_congr rfl
    intro n
    obtain ⟨traffic, asks, same⟩ := seen.gce n
    rw [same]
    exact asks.made_eq changing
  rw [made, aws, gce, made]

/-! ## Actions on one control plane -/

/-- An auto scaling control plane and a roster. -/
def awsSite (w : World) (cloud roster : Nat) : Site Aws.Cloud :=
  ⟨w.aws.get cloud, w.rosters.get roster⟩

/-- A control plane of managed instance groups and a roster. -/
def gceSite (w : World) (cloud roster : Nat) : Site Gce.Cloud :=
  ⟨w.gce.get cloud, w.rosters.get roster⟩

/-- The world with another auto scaling control plane and another roster in two slots. -/
def setAws (w : World) (cloud roster : Nat) (site : Site Aws.Cloud) : World :=
  { w with
    aws := w.aws.set cloud site.cloud
    rosters := w.rosters.set roster site.roster }

/-- The world with another control plane of managed instance groups and another roster. -/
def setGce (w : World) (cloud roster : Nat) (site : Site Gce.Cloud) : World :=
  { w with
    gce := w.gce.set cloud site.cloud
    rosters := w.rosters.set roster site.roster }

theorem onAws_cases {α : Type} {act : CloudM (Site Aws.Cloud) α} {cloud roster : Nat}
    {r : Except CloudError α} (run : (onAws cloud roster act).runOn w = (r, w')) :
    ∃ site, act.runOn (w.awsSite cloud roster) = (r, site) ∧ w' = w.setAws cloud roster site := by
  rw [onAws, Action.runOn_zoom] at run
  cases run
  exact ⟨_, rfl, rfl⟩

theorem onGce_cases {α : Type} {act : CloudM (Site Gce.Cloud) α} {cloud roster : Nat}
    {r : Except CloudError α} (run : (onGce cloud roster act).runOn w = (r, w')) :
    ∃ site, act.runOn (w.gceSite cloud roster) = (r, site) ∧ w' = w.setGce cloud roster site := by
  rw [onGce, Action.runOn_zoom] at run
  cases run
  exact ⟨_, rfl, rfl⟩

theorem onAws_bind {α β : Type} (cloud roster : Nat) (act : CloudM (Site Aws.Cloud) α)
    (next : α → CloudM (Site Aws.Cloud) β) :
    onAws cloud roster (act >>= next) =
      onAws cloud roster act >>= fun a => onAws cloud roster (next a) :=
  Action.zoom_bind (by simp) (by simp [Slots.set_set]) act next

theorem onGce_bind {α β : Type} (cloud roster : Nat) (act : CloudM (Site Gce.Cloud) α)
    (next : α → CloudM (Site Gce.Cloud) β) :
    onGce cloud roster (act >>= next) =
      onGce cloud roster act >>= fun a => onGce cloud roster (next a) :=
  Action.zoom_bind (by simp) (by simp [Slots.set_set]) act next

theorem keeps_onAws {α : Type} {act : CloudM (Site Aws.Cloud) α}
    (kept : Keeps (Site.OnClouds Aws.Cloud.Observed) act) (cloud roster : Nat) :
    Keeps Observed (onAws cloud roster act) :=
  fun w => ⟨Slots.get_set_of (refl_of Aws.Cloud.Observed)
      (kept ⟨w.aws.get cloud, w.rosters.get roster⟩),
    fun _ => refl_of Gce.Cloud.Observed _⟩

theorem keeps_onGce {α : Type} {act : CloudM (Site Gce.Cloud) α}
    (kept : Keeps (Site.OnClouds Gce.Cloud.Observed) act) (cloud roster : Nat) :
    Keeps Observed (onGce cloud roster act) :=
  fun w => ⟨fun _ => refl_of Aws.Cloud.Observed _,
    Slots.get_set_of (refl_of Gce.Cloud.Observed)
      (kept ⟨w.gce.get cloud, w.rosters.get roster⟩)⟩

/-! ## Another content of one slot -/

section Slot

variable {w : World} {cloud : Nat} {rosters : Slots Roster}

theorem callsKept_setAws {c : Aws.Cloud}
    (more : (w.aws.get cloud).traffic.sent <:+ c.traffic.sent) :
    CallsKept w { w with aws := w.aws.set cloud c, rosters } where
  aws := Slots.get_set_of (R := fun c c' : Aws.Cloud => c.traffic.sent <:+ c'.traffic.sent)
    (fun _ => List.suffix_rfl) more
  gce _ := List.suffix_rfl

theorem callsKept_setGce {c : Gce.Cloud}
    (more : (w.gce.get cloud).traffic.sent <:+ c.traffic.sent) :
    CallsKept w { w with gce := w.gce.set cloud c, rosters } where
  aws _ := List.suffix_rfl
  gce := Slots.get_set_of (R := fun c c' : Gce.Cloud => c.traffic.sent <:+ c'.traffic.sent)
    (fun _ => List.suffix_rfl) more

theorem made_setAws {c : Aws.Cloud} {kind : CallKind} {k : Nat}
    (more : c.traffic.made Aws.Call.kind kind =
      (w.aws.get cloud).traffic.made Aws.Call.kind kind + k) :
    made kind { w with aws := w.aws.set cloud c, rosters } = w.made kind + k := by
  have total := Slots.total_set (f := fun c => c.traffic.made Aws.Call.kind kind) rfl w.aws cloud c
  simp only [made]
  omega

theorem made_setGce {c : Gce.Cloud} {kind : CallKind} {k : Nat}
    (more : c.traffic.made Gce.Call.kind kind =
      (w.gce.get cloud).traffic.made Gce.Call.kind kind + k) :
    made kind { w with gce := w.gce.set cloud c, rosters } = w.made kind + k := by
  have total := Slots.total_set (f := fun c => c.traffic.made Gce.Call.kind kind) rfl w.gce cloud c
  simp only [made]
  omega

/-- A slot that gets a control plane with the same groups. -/
theorem sameGroups_setAws_get {c : Aws.Cloud} (same : c.groups = (w.aws.get cloud).groups) :
    SameGroups w { w with aws := w.aws.set cloud c, rosters } where
  aws := Slots.get_set_of (R := fun c c' : Aws.Cloud => c'.groups = c.groups) (fun _ => rfl) same
  gce _ := rfl

theorem sameGroups_setGce_get {c : Gce.Cloud} (same : c.groups = (w.gce.get cloud).groups) :
    SameGroups w { w with gce := w.gce.set cloud c, rosters } where
  aws _ := rfl
  gce := Slots.get_set_of (R := fun c c' : Gce.Cloud => c'.groups = c.groups) (fun _ => rfl) same

/-- A slot that gets one control plane or another with the same groups. -/
theorem sameGroups_setAws {c c' : Aws.Cloud} (same : c'.groups = c.groups) :
    SameGroups { w with aws := w.aws.set cloud c }
      { w with aws := w.aws.set cloud c', rosters } where
  aws := Slots.get_set_set (R := fun c c' : Aws.Cloud => c'.groups = c.groups)
    (fun _ => rfl) same cloud
  gce _ := rfl

theorem sameGroups_setGce {c c' : Gce.Cloud} (same : c'.groups = c.groups) :
    SameGroups { w with gce := w.gce.set cloud c }
      { w with gce := w.gce.set cloud c', rosters } where
  aws _ := rfl
  gce := Slots.get_set_set (R := fun c c' : Gce.Cloud => c'.groups = c.groups)
    (fun _ => rfl) same cloud

end Slot

end World

end Autoscaler
