import Autoscaler.Proofs.Roster.Answers

/-!
# Fresh rosters

A roster is fresh if it knows exactly what listings would show now. As long as listings show the
same and none of them fails, it stays so: a question about an unknown instance may rebuild the
roster, but to what it was, and every answer is what the roster has known before.
-/

namespace Autoscaler

namespace Roster

/-- The roster knows what the listings of its groups show. -/
def Fresh (told : GroupId → Option (List InstanceRef)) (roster : Roster) : Prop :=
  ∃ listings, Lists told roster listings ∧ roster.owners = ownersOf listings

/-- The rosters have the same groups and the same owners. -/
structure Alike (roster after : Roster) : Prop where
  groups : after.groups = roster.groups
  owners : after.owners = roster.owners

instance : IsPreorder Roster Alike where
  refl _ := ⟨rfl, rfl⟩
  trans _ _ _ first rest :=
    ⟨rest.groups.trans first.groups, rest.owners.trans first.owners⟩

variable {told : GroupId → Option (List InstanceRef)} {roster after : Roster}
  {member : InstanceRef} {group : GroupId}

theorem Alike.owner? (alike : Alike roster after) (member : InstanceRef) :
    after.owner? member = roster.owner? member := by
  rw [Roster.owner?, alike.owners, Roster.owner?]

namespace Fresh

theorem alike (fresh : Fresh told roster) (alike : Alike roster after) : Fresh told after := by
  obtain ⟨listings, lists, known⟩ := fresh
  refine ⟨listings, ?_, alike.owners.trans known⟩
  rw [Lists, alike.groups]
  exact lists

/-- An owner is a group that lists the instance. -/
theorem listed (fresh : Fresh told roster) (owned : roster.owner? member = some group) :
    ∃ members, told group = some members ∧ member ∈ members := by
  obtain ⟨listings, lists, known⟩ := fresh
  have entry := mem_owners_of_owner? owned
  rw [known] at entry
  obtain ⟨listing, complete, rfl, shown⟩ := listed_of_mem_ownersOf entry
  exact ⟨listing.2, told_of_mem_listings lists complete, shown⟩

/-- An answer is what a fresh roster has known before, and it knows no more afterwards. -/
theorem answer (fresh : Fresh told roster) {owner : Option GroupId}
    (answer : Answer (Lists told roster) roster member (.ok owner) after) :
    owner = roster.owner? member ∧ Alike roster after := by
  cases answer with
  | known group owned => exact ⟨owned.symm, refl_of Alike _⟩
  | outside unknown _ => exact ⟨unknown.symm, refl_of Alike _⟩
  | rebuilt unknown _ listings complete owner found =>
      obtain ⟨listings', lists, known⟩ := fresh
      cases complete.steady lists
      have same : Alike roster (roster.rebuilt listings) := ⟨rfl, known.symm⟩
      exact ⟨found.symm.trans (same.owner? member), same⟩

end Fresh

end Roster

namespace Site

variable {κ : Type} {list : Lister κ} {R : κ → κ → Prop}
  {told : κ → GroupId → Option (List InstanceRef)} {Ready : κ → Prop}

/-- A rebuild that ends well leaves a fresh roster. -/
theorem Tells.fresh_of_refresh (tells : Tells list R told) {site site' : Site κ}
    (run : (Site.refresh list).runOn site = (.ok (), site')) :
    site'.roster.Fresh (told site.cloud) := by
  obtain ⟨listings, cloud, listed, -, rfl⟩ | ⟨_, _, _, failed, -⟩ := refresh_cases run
  · exact ⟨listings, tells.listings listed, rfl⟩
  · cases failed

/-- A lister that answers for every group of which its control plane tells, as long as that is
ready, and leaves it ready. -/
structure Serves (list : Lister κ) (R : κ → κ → Prop)
    (told : κ → GroupId → Option (List InstanceRef)) (Ready : κ → Prop) : Prop where
  tells : Tells list R told
  stays : ∀ {c c'}, R c c' → Ready c → Ready c'
  answers : ∀ {c group members}, Ready c → told c group = some members →
    ((list group).runOn c).1 = .ok members

namespace Serves

theorem listAll (serves : Serves list R told Ready) {groups : List GroupId} {c : κ}
    {listings : Roster.Listings} (ready : Ready c)
    (complete : Roster.listings? (told c) groups = some listings) :
    ((Site.listAll list groups).runOn c).1 = .ok listings := by
  induction groups generalizing c listings with
  | nil =>
      cases complete
      rfl
  | cons group groups ih =>
      simp only [Roster.listings?, List.mapM_cons, Option.bind_eq_bind, Option.bind_eq_some_iff,
        Option.pure_def, Option.some.injEq] at complete
      obtain ⟨_, shown, others, later, rfl⟩ := complete
      obtain ⟨members, here, rfl⟩ := Option.map_eq_some_iff.mp shown
      have answered := serves.answers ready here
      rcases first : (list group).runOn c with ⟨r, m⟩
      rw [first] at answered
      subst answered
      have asked := (serves.tells.keeps group).of_runOn first
      have later : Roster.listings? (told m) groups = some others := by
        rw [serves.tells.same asked]
        exact later
      have onward := ih (serves.stays asked ready) later
      rcases rest : (Site.listAll list groups).runOn m with ⟨r, m'⟩
      rw [rest] at onward
      subst onward
      rw [Site.listAll, Action.runOn_bind_ok first, Action.runOn_bind_ok rest, Action.runOn_pure]

variable {site site' : Site κ}

theorem refresh (serves : Serves list R told Ready) (ready : Ready site.cloud)
    {listings : Roster.Listings} (lists : Roster.Lists (told site.cloud) site.roster listings) :
    ((Site.refresh list).runOn site).1 = .ok () := by
  have listed := serves.listAll ready lists
  rcases run : (Site.refresh list).runOn site with ⟨r, site'⟩
  obtain ⟨_, _, _, ended, -⟩ | ⟨e, _, failed, -, -⟩ := refresh_cases run
  · exact ended
  · rw [failed] at listed
    cases listed

theorem lookup_ok (serves : Serves list R told Ready) (ready : Ready site.cloud)
    {listings : Roster.Listings} (lists : Roster.Lists (told site.cloud) site.roster listings)
    (member : InstanceRef) :
    ∃ owner, ((Site.lookup list member).runOn site).1 = .ok owner := by
  rw [Site.lookup, Action.runOn_bind_ok (Action.runOn_get _)]
  cases known : site.roster.owner? member with
  | some group =>
      simp only [known]
      exact ⟨_, rfl⟩
  | none =>
      by_cases covered : site.roster.covers member = true
      · have refreshed := serves.refresh ready lists
        rcases run : (Site.refresh list).runOn site with ⟨r, m⟩
        rw [run] at refreshed
        subst refreshed
        simp only [known, covered, ↓reduceIte]
        rw [Action.runOn_bind_ok run]
        exact ⟨_, rfl⟩
      · simp only [known, covered]
        exact ⟨_, rfl⟩

/-- A fresh roster answers what it knows and stays fresh. -/
theorem lookup [IsPreorder κ R] (serves : Serves list R told Ready) (ready : Ready site.cloud)
    (fresh : site.roster.Fresh (told site.cloud)) {member : InstanceRef}
    {r : Except CloudError (Option GroupId)}
    (run : (Site.lookup list member).runOn site = (r, site')) :
    r = .ok (site.roster.owner? member) ∧ R site.cloud site'.cloud ∧
      site.roster.Alike site'.roster := by
  have ⟨_, lists, _⟩ := fresh
  obtain ⟨owner, told⟩ := serves.lookup_ok ready lists member
  rw [run] at told
  subst told
  obtain ⟨consulted, answer⟩ := serves.tells.lookup_cases run
  obtain ⟨rfl, alike⟩ := fresh.answer answer
  exact ⟨rfl, consulted.cloud, alike⟩

end Serves

end Site

end Autoscaler
