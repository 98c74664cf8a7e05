import Autoscaler.Proofs.Roster

/-!
# Answers of a roster

A roster answers from what it knows, or that the instance lies in no zone of its groups, or
from a rebuild. Which listings a rebuild may read is a parameter: any at all, if nothing is
known of the control plane, or the one that a control plane gives while nothing changes it.

Members are confirmed one after the other, and a rebuild for one of them replaces what was
known of those before. If listings do not change, this can happen in a first round only: a
second round finds the roster that the first one has left, and leaves it as it is. All that is
known in the end was known before or is shown by a listing.
-/

namespace Autoscaler

namespace Roster

/-- The answer to a question about an instance and the roster that it leaves. -/
inductive Answer (Complete : Listings → Prop) (roster : Roster) (member : InstanceRef) :
    Except CloudError (Option GroupId) → Roster → Prop where
  | known (group : GroupId) (owned : roster.owner? member = some group) :
      Answer Complete roster member (.ok (some group)) roster
  | outside (unknown : roster.owner? member = none) (uncovered : roster.covers member = false) :
      Answer Complete roster member (.ok none) roster
  | rebuilt (unknown : roster.owner? member = none) (covered : roster.covers member)
      (listings : Listings) (complete : Complete listings) (owner : Option GroupId)
      (found : (roster.rebuilt listings).owner? member = owner) :
      Answer Complete roster member (.ok owner) (roster.rebuilt listings)
  | failed (unknown : roster.owner? member = none) (covered : roster.covers member)
      (error : CloudError) : Answer Complete roster member (.error error) roster.failed

/-- Each member in turn is answered to belong to `group`. -/
inductive Confirms (Complete : Listings → Prop) (group : GroupId) :
    Roster → List InstanceRef → Roster → Prop where
  | nil (roster : Roster) : Confirms Complete group roster [] roster
  | cons {roster between after : Roster} {member : InstanceRef} {members : List InstanceRef}
      (first : Answer Complete roster member (.ok (some group)) between)
      (rest : Confirms Complete group between members after) :
      Confirms Complete group roster (member :: members) after

/-- The listings of groups, as far as each of them has one. -/
def listings? (told : GroupId → Option (List InstanceRef)) (groups : List GroupId) :
    Option Listings :=
  groups.mapM fun group => (told group).map fun members => (group, members)

/-- The listings are those of all groups on the roster. -/
def Lists (told : GroupId → Option (List InstanceRef)) (roster : Roster) (listings : Listings) :
    Prop :=
  listings? told roster.groups = some listings

/-- The roster after questions: it has the same groups, and what it knows now it has known
before or a listing shows it. -/
structure Learns (told : GroupId → Option (List InstanceRef)) (roster after : Roster) : Prop where
  groups : after.groups = roster.groups
  owners : ∀ member group, after.owner? member = some group →
    roster.owner? member = some group ∨ ∃ members, told group = some members ∧ member ∈ members

variable {Complete Complete' : Listings → Prop} {told : GroupId → Option (List InstanceRef)}
  {group : GroupId} {member : InstanceRef} {members : List InstanceRef}
  {roster between after : Roster} {r : Except CloudError (Option GroupId)}

/-! ## Owners according to listings -/

theorem mem_of_mem_assign {owners : List (InstanceRef × GroupId)} {e : InstanceRef × GroupId}
    (entry : e ∈ assign owners member group) : e = (member, group) ∨ e ∈ owners := by
  obtain rfl | kept := List.mem_cons.mp entry
  · exact .inl rfl
  · exact .inr (List.mem_filter.mp kept).1

theorem mem_of_mem_assignAll {owners : List (InstanceRef × GroupId)} {e : InstanceRef × GroupId}
    (entry : e ∈ members.foldl (fun owners member => assign owners member group) owners) :
    e.2 = group ∧ e.1 ∈ members ∨ e ∈ owners := by
  induction members generalizing owners with
  | nil => exact .inr entry
  | cons member members ih =>
      obtain ⟨owner, later⟩ | before := ih entry
      · exact .inl ⟨owner, List.mem_cons_of_mem _ later⟩
      · obtain rfl | before := mem_of_mem_assign before
        · exact .inl ⟨rfl, List.mem_cons_self⟩
        · exact .inr before

/-- An owner is a group whose listing shows the instance. -/
theorem listed_of_mem_ownersOf {listings : Listings} {e : InstanceRef × GroupId}
    (entry : e ∈ ownersOf listings) : ∃ listing ∈ listings, listing.1 = e.2 ∧ e.1 ∈ listing.2 := by
  suffices general : ∀ owners : List (InstanceRef × GroupId),
      e ∈ listings.foldl (fun owners listing =>
        listing.2.foldl (fun owners member => assign owners member listing.1) owners) owners →
      (∃ listing ∈ listings, listing.1 = e.2 ∧ e.1 ∈ listing.2) ∨ e ∈ owners by
    obtain listed | none_before := general [] entry
    · exact listed
    · cases none_before
  clear entry
  induction listings with
  | nil => exact fun _ entry => .inr entry
  | cons listing listings ih =>
      intro owners entry
      obtain ⟨later, member, shown⟩ | before := ih _ entry
      · exact .inl ⟨later, List.mem_cons_of_mem _ member, shown⟩
      · obtain ⟨owner, shown⟩ | before := mem_of_mem_assignAll before
        · exact .inl ⟨listing, List.mem_cons_self, owner.symm, shown⟩
        · exact .inr before

theorem mem_owners_of_owner? (owned : roster.owner? member = some group) :
    (member, group) ∈ roster.owners := by
  obtain ⟨e, found, rfl⟩ := Option.map_eq_some_iff.mp owned
  have same : e.1 = member := by simpa using List.find?_some found
  subst same
  exact List.mem_of_find?_eq_some found

theorem listed_of_owner?_rebuilt {listings : Listings}
    (owned : (roster.rebuilt listings).owner? member = some group) :
    ∃ listing ∈ listings, listing.1 = group ∧ member ∈ listing.2 :=
  listed_of_mem_ownersOf (mem_owners_of_owner? owned)

/-- A listing among those of groups is that of its group. -/
theorem told_of_mem_listings {groups : List GroupId} {listings : Listings}
    (complete : listings? told groups = some listings)
    {listing : GroupId × List InstanceRef} (member : listing ∈ listings) :
    told listing.1 = some listing.2 := by
  induction groups generalizing listings with
  | nil =>
      cases complete
      cases member
  | cons group groups ih =>
      simp only [listings?, List.mapM_cons, Option.bind_eq_bind, Option.bind_eq_some_iff,
        Option.pure_def, Option.some.injEq] at complete
      obtain ⟨first, shown, rest, others, rfl⟩ := complete
      obtain rfl | member := List.mem_cons.mp member
      · obtain ⟨members, same, rfl⟩ := Option.map_eq_some_iff.mp shown
        exact same
      · exact ih others member

/-! ## What a roster learns -/

theorem Lists.steady {listings listings' : Listings} (lists : Lists told roster listings)
    (lists' : Lists told roster listings') : listings' = listings :=
  Option.some.inj (lists'.symm.trans lists)

namespace Learns

theorem refl (roster : Roster) : Learns told roster roster := ⟨rfl, fun _ _ owned => .inl owned⟩

theorem trans (first : Learns told roster between) (rest : Learns told between after) :
    Learns told roster after where
  groups := rest.groups.trans first.groups
  owners member group owned := by
    obtain known | shown := rest.owners member group owned
    · exact first.owners member group known
    · exact .inr shown

theorem rebuilt {listings : Listings} (lists : Lists told roster listings) :
    Learns told roster (roster.rebuilt listings) where
  groups := rfl
  owners member group owned := by
    obtain ⟨listing, complete, rfl, shown⟩ := listed_of_owner?_rebuilt owned
    exact .inr ⟨listing.2, told_of_mem_listings lists complete, shown⟩

theorem failed (roster : Roster) : Learns told roster roster.failed :=
  ⟨rfl, fun _ _ owned => .inl owned⟩

theorem lists (learns : Learns told roster after) : Lists told after = Lists told roster := by
  funext listings
  rw [Lists, learns.groups, Lists]

end Learns

/-! ## One answer -/

namespace Answer

theorem mono (weaker : ∀ listings, Complete listings → Complete' listings)
    (answer : Answer Complete roster member r after) : Answer Complete' roster member r after := by
  cases answer with
  | known group owned => exact .known group owned
  | outside unknown uncovered => exact .outside unknown uncovered
  | rebuilt unknown covered listings complete owner found =>
      exact .rebuilt unknown covered listings (weaker listings complete) owner found
  | failed unknown covered error => exact .failed unknown covered error

/-- Only an answer that is an error counts as a failed rebuild. -/
theorem failures {owner : Option GroupId} (answer : Answer Complete roster member (.ok owner) after) :
    after.failures = roster.failures := by
  cases answer <;> rfl

/-- The roster an answer leaves agrees with it. -/
theorem owned (answer : Answer Complete roster member (.ok (some group)) after) :
    after.owner? member = some group := by
  cases answer with
  | known group owned => exact owned
  | rebuilt unknown covered listings complete owner found => exact found

theorem learns (answer : Answer (Lists told roster) roster member r after) :
    Learns told roster after := by
  cases answer with
  | known => exact .refl _
  | outside => exact .refl _
  | rebuilt unknown covered listings complete => exact .rebuilt complete
  | failed => exact .failed _

end Answer

/-! ## Rounds of answers -/

namespace Confirms

theorem failures (round : Confirms Complete group roster members after) :
    after.failures = roster.failures := by
  induction round with
  | nil => rfl
  | cons first _ ih => exact ih.trans first.failures

/-- A round over members that are known to belong to the group changes nothing. -/
theorem eq_of_owned (owned : ∀ member ∈ members, roster.owner? member = some group)
    (round : Confirms Complete group roster members after) : after = roster := by
  induction round with
  | nil => rfl
  | cons first rest ih =>
      obtain ⟨here, others⟩ := List.forall_mem_cons.mp owned
      cases first with
      | known => exact ih others
      | rebuilt unknown => simp [here] at unknown

variable (steady : ∀ listings listings', Complete listings → Complete listings' →
  listings' = listings)

include steady

/-- Right after a rebuild, nothing changes: asking about an unknown member rebuilds the same
roster once more and does not confirm it. -/
theorem of_rebuilt {listings : Listings} (complete : Complete listings)
    (fresh : roster.owners = ownersOf listings)
    (round : Confirms Complete group roster members after) :
    after = roster ∧ ∀ member ∈ members, roster.owner? member = some group := by
  induction round with
  | nil => exact ⟨rfl, by simp⟩
  | @cons roster between after member members first rest ih =>
      cases first with
      | known group owned =>
          obtain ⟨same, others⟩ := ih fresh
          exact ⟨same, List.forall_mem_cons.mpr ⟨owned, others⟩⟩
      | rebuilt unknown covered listings' complete' owner found =>
          cases steady _ _ complete complete'
          rw [owner?, fresh] at unknown
          rw [owner?, rebuilt, unknown] at found
          cases found

/-- After a round, either nothing has changed and all members were known, or the roster is
fresh. -/
theorem settled (round : Confirms Complete group roster members after) :
    (after = roster ∧ ∀ member ∈ members, roster.owner? member = some group) ∨
      ∃ listings, Complete listings ∧ after.owners = ownersOf listings := by
  induction round with
  | nil => exact .inl ⟨rfl, by simp⟩
  | cons first rest ih =>
      cases first with
      | known group owned =>
          obtain ⟨same, others⟩ | fresh := ih
          · exact .inl ⟨same, List.forall_mem_cons.mpr ⟨owned, others⟩⟩
          · exact .inr fresh
      | rebuilt unknown covered listings complete =>
          obtain ⟨same, -⟩ := of_rebuilt steady complete rfl rest
          exact .inr ⟨listings, complete, by rw [same]; rfl⟩

/-- The second of two rounds does not change the roster, and every member is known to belong
to the group from its beginning on. -/
theorem twice (first : Confirms Complete group roster members between)
    (second : Confirms Complete group between members after) :
    after = between ∧ ∀ member ∈ members, between.owner? member = some group := by
  obtain ⟨rfl, owned⟩ | ⟨listings, complete, fresh⟩ := first.settled steady
  · exact ⟨second.eq_of_owned owned, owned⟩
  · exact second.of_rebuilt steady complete fresh

end Confirms

/-! ## Rounds of questions -/

section Rounds

open Autoscaler.Action (Keeps)

variable {σ : Type} {ask : InstanceRef → CloudM σ (Option GroupId)}
  {stranger : InstanceRef → CloudError}

/-- Asks for the owner of each member in turn, up to the first that `group` does not own. -/
def round (ask : InstanceRef → CloudM σ (Option GroupId)) (stranger : InstanceRef → CloudError)
    (group : GroupId) : List InstanceRef → CloudM σ Unit
  | [] => return ()
  | member :: members => do
      match ← ask member with
      | none => throw (.notManaged member)
      | some owner =>
          if owner = group then round ask stranger group members
          else throw (stranger member)

/-- If every question is answered by a roster, and no question changes which listings there
are, then a round that ends well confirms all members. -/
theorem round_cases {R : σ → σ → Prop} [IsPreorder σ R] (rosterOf : σ → Roster)
    (Complete : σ → Listings → Prop) (steady : ∀ s s', R s s' → Complete s' = Complete s)
    (asks : ∀ s member r s', (ask member).runOn s = (r, s') →
      R s s' ∧ Answer (Complete s) (rosterOf s) member r (rosterOf s'))
    {s s' : σ} {r : Except CloudError Unit}
    (run : (round ask stranger group members).runOn s = (r, s')) :
    R s s' ∧ (r = .ok () → Confirms (Complete s) group (rosterOf s) members (rosterOf s')) := by
  induction members generalizing s with
  | nil =>
      cases run
      exact ⟨refl_of R _, fun _ => .nil _⟩
  | cons member members ih =>
      obtain ⟨owner, m, asked, rest⟩ | ⟨e, asked, rfl⟩ := Action.bind_cases run
      · obtain ⟨before, answer⟩ := asks s member _ m asked
        cases owner with
        | none =>
            cases rest
            exact ⟨before, by rintro ⟨⟩⟩
        | some owner =>
            dsimp only at rest
            split at rest
            · next same =>
                subst same
                obtain ⟨after, confirms⟩ := ih rest
                rw [steady s m before] at confirms
                exact ⟨trans_of R before after, fun ok => .cons answer (confirms ok)⟩
            · cases rest
              exact ⟨before, by rintro ⟨⟩⟩
      · exact ⟨(asks s member _ s' asked).1, by rintro ⟨⟩⟩

end Rounds

end Roster

namespace Site

open Autoscaler.Action (Keeps)

variable {κ : Type} {list : Lister κ} {site site' : Site κ}

/-! ## Answers of a site -/

theorem refresh_cases {r : Except CloudError Unit} (run : (refresh list).runOn site = (r, site')) :
    (∃ listings cloud, (listAll list site.roster.groups).runOn site.cloud = (.ok listings, cloud) ∧
        r = .ok () ∧ site' = ⟨cloud, site.roster.rebuilt listings⟩) ∨
      ∃ e cloud, (listAll list site.roster.groups).runOn site.cloud = (.error e, cloud) ∧
        r = .error e ∧ site' = ⟨cloud, site.roster.failed⟩ := by
  rw [refresh, Action.runOn_ofFn] at run
  rcases listed : (listAll list site.roster.groups).runOn site.cloud with ⟨e | listings, cloud⟩
  · rw [listed] at run
    cases run
    exact .inr ⟨e, cloud, rfl, rfl, rfl⟩
  · rw [listed] at run
    cases run
    exact .inl ⟨listings, cloud, rfl, rfl, rfl⟩

/-- The listings that the control plane of a site gives of the groups on the roster. -/
def Lists (list : Lister κ) (site : Site κ) (listings : Roster.Listings) : Prop :=
  ∃ cloud, (listAll list site.roster.groups).runOn site.cloud = (.ok listings, cloud)

theorem lookup_cases {member : InstanceRef} {r : Except CloudError (Option GroupId)}
    (run : (lookup list member).runOn site = (r, site')) :
    Roster.Answer (site.Lists list) site.roster member r site'.roster := by
  rw [lookup, Action.runOn_bind_ok (Action.runOn_get _)] at run
  cases known : site.roster.owner? member with
  | some group =>
      simp only [known, Action.runOn_pure] at run
      cases run
      exact .known group known
  | none =>
      simp only [known] at run
      split at run
      · next covered =>
          obtain ⟨_, m, refreshed, told⟩ | ⟨e, refreshed, rfl⟩ := Action.bind_cases run
          · rw [Action.runOn_bind_ok (Action.runOn_get _), Action.runOn_pure] at told
            cases told
            obtain ⟨listings, cloud, listed, -, rfl⟩ | ⟨_, _, _, failed, _⟩ :=
              refresh_cases refreshed
            · exact .rebuilt known covered listings ⟨cloud, listed⟩ _ rfl
            · cases failed
          · obtain ⟨_, _, _, ended, _⟩ | ⟨_, cloud, -, -, rfl⟩ := refresh_cases refreshed
            · cases ended
            · exact .failed known covered e
      · next uncovered =>
          cases run
          exact .outside known (by simpa using uncovered)

/-- Making sure of members is a round of lookups. -/
theorem ensureMembers_eq_round (list : Lister κ) (group : GroupId) (members : List InstanceRef) :
    ensureMembers list group members =
      Roster.round (lookup list) (.mixedGroups group) group members := by
  induction members with
  | nil => rfl
  | cons member members ih =>
      rw [ensureMembers, ih]
      rfl

/-- An action on the control plane that comes behind a round of lookups runs only if the round
confirms all members, and leaves the roster as the round has left it. -/
theorem ensureMembers_onCloud_cases {group : GroupId} {members : List InstanceRef}
    {act : CloudM κ Unit} {r : Except CloudError Unit}
    (run : (ensureMembers list group members >>= fun _ => onCloud act).runOn site = (r, site')) :
    (∃ e, (ensureMembers list group members).runOn site = (.error e, site') ∧ r = .error e) ∨
      ∃ m cloud, (ensureMembers list group members).runOn site = (.ok (), m) ∧
        act.runOn m.cloud = (r, cloud) ∧ site' = { m with cloud } := by
  obtain ⟨_, m, ensured, acted⟩ | ⟨e, failed, rfl⟩ := Action.bind_cases run
  · obtain ⟨cloud, ended, rfl⟩ := onCloud_cases acted
    exact .inr ⟨m, cloud, ensured, ended, rfl⟩
  · exact .inl ⟨e, failed, rfl⟩

/-- A lister whose control plane tells the same of each group, whatever else was asked. -/
structure Tells (list : Lister κ) (R : κ → κ → Prop)
    (told : κ → GroupId → Option (List InstanceRef)) : Prop where
  keeps : ∀ group, Keeps R (list group)
  same : ∀ {c c'}, R c c' → told c' = told c
  ok : ∀ {c c' group members}, (list group).runOn c = (.ok members, c') →
    told c group = some members

/-- The site after questions: its control plane was only asked, and its roster knows what it has
known before or a listing shows. -/
structure Consulted (R : κ → κ → Prop) (told : κ → GroupId → Option (List InstanceRef))
    (site site' : Site κ) : Prop where
  cloud : R site.cloud site'.cloud
  learns : Roster.Learns (told site.cloud) site.roster site'.roster

theorem Consulted.of_cloud {R : κ → κ → Prop} {told : κ → GroupId → Option (List InstanceRef)}
    {cloud : κ} (asked : R site.cloud cloud) : Consulted R told site { site with cloud } :=
  ⟨asked, .refl _⟩

namespace Tells

variable {R : κ → κ → Prop} {told : κ → GroupId → Option (List InstanceRef)}

theorem listings (tells : Tells list R told) {groups : List GroupId} {c c' : κ}
    {listings : Roster.Listings} (run : (listAll list groups).runOn c = (.ok listings, c')) :
    Roster.listings? (told c) groups = some listings := by
  induction groups generalizing c listings with
  | nil =>
      cases run
      rfl
  | cons group groups ih =>
      obtain ⟨members, m, listed, rest⟩ := Action.bind_ok_cases run
      obtain ⟨others, m', more, ended⟩ := Action.bind_ok_cases rest
      cases ended
      have shown := tells.ok listed
      have later := ih more
      rw [tells.same ((tells.keeps group).of_runOn listed)] at later
      simp only [Roster.listings?] at later ⊢
      simp [shown, later]

theorem lists (tells : Tells list R told) {listings : Roster.Listings}
    (lists : site.Lists list listings) :
    Roster.Lists (told site.cloud) site.roster listings := by
  obtain ⟨cloud, run⟩ := lists
  exact tells.listings run

variable [IsPreorder κ R]

theorem isPreorder (tells : Tells list R told) : IsPreorder (Site κ) (Consulted R told) where
  refl site := ⟨refl_of R site.cloud, .refl _⟩
  trans site m site' first rest := by
    refine ⟨trans_of R first.cloud rest.cloud, first.learns.trans ?_⟩
    rw [← tells.same first.cloud]
    exact rest.learns

theorem keeps_refresh (tells : Tells list R told) : Keeps (Consulted R told) (refresh list) := by
  intro site
  have kept := Site.keeps_refresh tells.keeps site
  rcases run : (refresh list).runOn site with ⟨r, site'⟩
  rw [run] at kept
  refine ⟨kept, ?_⟩
  obtain ⟨listings, cloud, listed, -, rfl⟩ | ⟨_, _, -, -, rfl⟩ := refresh_cases run
  · exact .rebuilt (tells.listings listed)
  · exact .failed _

/-- The answers of a site come from what its control plane tells. -/
theorem lookup_cases (tells : Tells list R told) {member : InstanceRef}
    {r : Except CloudError (Option GroupId)}
    (run : (lookup list member).runOn site = (r, site')) :
    Consulted R told site site' ∧
      Roster.Answer (Roster.Lists (told site.cloud) site.roster) site.roster member r
        site'.roster := by
  have answer := (Site.lookup_cases run).mono fun _ => tells.lists
  exact ⟨⟨(Site.keeps_lookup tells.keeps member).of_runOn run, answer.learns⟩, answer⟩

/-- As long as a site is only asked, its control plane tells the same. -/
theorem ensureMembers_cases (tells : Tells list R told) {group : GroupId}
    {members : List InstanceRef} {r : Except CloudError Unit}
    (run : (ensureMembers list group members).runOn site = (r, site')) :
    Consulted R told site site' ∧ (r = .ok () → Roster.Confirms
      (Roster.Lists (told site.cloud) site.roster) group site.roster members site'.roster) := by
  have := tells.isPreorder
  rw [ensureMembers_eq_round] at run
  refine Roster.round_cases (R := Consulted R told) Site.roster
    (fun now => Roster.Lists (told now.cloud) now.roster) ?_ ?_ run
  · intro now later consulted
    rw [tells.same consulted.cloud, consulted.learns.lists]
  · intro now member answer later asked
    exact tells.lookup_cases asked

end Tells

end Site

end Autoscaler
