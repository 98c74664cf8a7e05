import Autoscaler.Proofs.Roster.History

/-!
# What happens to a roster at work

A site is asked to register groups, to rebuild its roster and to look up instances, in any order.
Each task makes its marks in the history of the roster: a rebuild makes one, whether it is asked
for, due in the background or caused by an unknown instance, and what is known already makes none.
So the roster holds what the history of all tasks tells.

Nothing is assumed about listings. The control plane is any state and the lister any action on
it, so each single listing may be answered with any members or any error.
-/

namespace Autoscaler

namespace Site

open Roster (Attempt History Mark Reflects)

variable {κ : Type}

/-! ## Rebuilds of a site -/

/-- A rebuild of the roster of a site, with the attempt that was made, its result and the site
that it leaves. A rebuild that fails asks for no group behind the one whose listing failed, and
leaves the roster as it was, but for the count. -/
inductive Rebuilds (list : Lister κ) (site : Site κ) :
    Attempt → Except CloudError Unit → Site κ → Prop where
  | succeeded {listings : Roster.Listings} {cloud : κ}
      (listed : (listAll list site.roster.groups).runOn site.cloud = (.ok listings, cloud)) :
      Rebuilds list site (Attempt.answered listings) (.ok ())
        ⟨cloud, site.roster.rebuilt listings⟩
  | failed {before after : List GroupId} {group : GroupId} {listings : Roster.Listings}
      {m cloud : κ} {error : CloudError} (split : site.roster.groups = before ++ group :: after)
      (listed : (listAll list before).runOn site.cloud = (.ok listings, m))
      (refused : (list group).runOn m = (.error error, cloud)) :
      Rebuilds list site (Attempt.answered listings ++ [(group, .error error)]) (.error error)
        ⟨cloud, site.roster.failed⟩

/-- What a site is asked to do with its roster. -/
inductive Task where
  | register (group : GroupId)
  | refresh
  /-- One tick of the refresher in the background. -/
  | tick
  | lookup (member : InstanceRef)
  | ensure (group : GroupId) (members : List InstanceRef)

def perform (list : Lister κ) : Task → CloudM (Site κ) Unit
  | .register group => modify fun site => { site with roster := site.roster.register group }
  | .refresh => Site.refresh list
  | .tick => refreshTimes list 1
  | .lookup member => do
      let _ ← lookup list member
      return ()
  | .ensure group members => ensureMembers list group members

/-- The site after tasks, one after the other, whether they succeed or not. -/
def performAll (list : Lister κ) (tasks : List Task) (site : Site κ) : Site κ :=
  tasks.foldl (fun site task => ((perform list task).runOn site).2) site

/-- What a task does to a site: which marks it makes in the history of the roster, and which
site it leaves. -/
inductive Happens (list : Lister κ) : Task → Site κ → History → Site κ → Prop where
  | registered (group : GroupId) (site : Site κ) :
      Happens list (.register group) site [.registered group]
        { site with roster := site.roster.register group }
  | refreshed {site site' : Site κ} {attempt : Attempt} {r : Except CloudError Unit}
      (rebuilds : Rebuilds list site attempt r site') :
      Happens list .refresh site [.attempted attempt] site'
  | ticked {site site' : Site κ} {attempt : Attempt} {r : Except CloudError Unit}
      (rebuilds : Rebuilds list site attempt r site') :
      Happens list .tick site [.attempted attempt] site'
  | known {site : Site κ} {member : InstanceRef} {group : GroupId}
      (owned : site.roster.owner? member = some group) :
      Happens list (.lookup member) site [] site
  | outside {site : Site κ} {member : InstanceRef} (unknown : site.roster.owner? member = none)
      (uncovered : site.roster.covers member = false) :
      Happens list (.lookup member) site [] site
  | missed {site site' : Site κ} {member : InstanceRef} {attempt : Attempt}
      {r : Except CloudError Unit} (unknown : site.roster.owner? member = none)
      (covered : site.roster.covers member) (rebuilds : Rebuilds list site attempt r site') :
      Happens list (.lookup member) site [.attempted attempt] site'
  | ensured (group : GroupId) (site : Site κ) : Happens list (.ensure group []) site [] site
  | stopped {site site' : Site κ} {group : GroupId} {member : InstanceRef} {marks : History}
      (members : List InstanceRef) (looked : Happens list (.lookup member) site marks site')
      (stranger : site'.roster.owner? member ≠ some group) :
      Happens list (.ensure group (member :: members)) site marks site'
  | confirmed {site m site' : Site κ} {group : GroupId} {member : InstanceRef}
      {members : List InstanceRef} {marks more : History}
      (looked : Happens list (.lookup member) site marks m)
      (owned : m.roster.owner? member = some group)
      (rest : Happens list (.ensure group members) m more site') :
      Happens list (.ensure group (member :: members)) site (marks ++ more) site'

/-- What tasks do to a site, one after the other. -/
inductive Passes (list : Lister κ) : List Task → Site κ → History → Site κ → Prop where
  | nil (site : Site κ) : Passes list [] site [] site
  | cons {site m site' : Site κ} {task : Task} {tasks : List Task} {marks more : History}
      (first : Happens list task site marks m) (rest : Passes list tasks m more site') :
      Passes list (task :: tasks) site (marks ++ more) site'

variable {list : Lister κ} {site site' : Site κ} {attempt : Attempt} {history marks : History}
  {task : Task} {tasks : List Task} {member : InstanceRef}

/-- Listing stops at the first group whose listing fails. -/
theorem listAll_error_cases {groups : List GroupId} {c c' : κ} {error : CloudError}
    (run : (listAll list groups).runOn c = (.error error, c')) :
    ∃ before group after listings m, groups = before ++ group :: after ∧
      (listAll list before).runOn c = (.ok listings, m) ∧
      (list group).runOn m = (.error error, c') := by
  induction groups generalizing c with
  | nil => cases run
  | cons group groups ih =>
      obtain ⟨members, m, first, rest⟩ | ⟨e, first, same⟩ := Action.bind_cases run
      · obtain ⟨_, _, _, ended⟩ | ⟨e, others, same⟩ := Action.bind_cases rest
        · cases ended
        · cases same
          obtain ⟨before, other, after, listings, m', rfl, listed, refused⟩ := ih others
          refine ⟨group :: before, other, after, (group, members) :: listings, m', rfl, ?_, refused⟩
          rw [listAll, Action.runOn_bind_ok first, Action.runOn_bind_ok listed, Action.runOn_pure]
      · cases same
        exact ⟨[], group, groups, [], c, rfl, rfl, first⟩

/-- Complete listings are those of all groups that were asked for. -/
theorem map_fst_listAll {groups : List GroupId} {c c' : κ} {listings : Roster.Listings}
    (run : (listAll list groups).runOn c = (.ok listings, c')) :
    listings.map Prod.fst = groups := by
  induction groups generalizing c listings with
  | nil =>
      cases run
      rfl
  | cons group groups ih =>
      obtain ⟨members, m, _, rest⟩ := Action.bind_ok_cases run
      obtain ⟨others, m', later, ended⟩ := Action.bind_ok_cases rest
      cases ended
      rw [List.map_cons, ih later]

theorem refresh_rebuilds {r : Except CloudError Unit}
    (run : (Site.refresh list).runOn site = (r, site')) :
    ∃ attempt, Rebuilds list site attempt r site' := by
  obtain ⟨listings, cloud, listed, rfl, rfl⟩ | ⟨e, cloud, listed, rfl, rfl⟩ := refresh_cases run
  · exact ⟨_, .succeeded listed⟩
  · obtain ⟨before, group, after, listings, m, split, first, refused⟩ := listAll_error_cases listed
    exact ⟨_, .failed split first refused⟩

namespace Rebuilds

variable {r : Except CloudError Unit}

theorem attempt_over (rebuilds : Rebuilds list site attempt r site') :
    Attempt.Over site.roster.groups attempt := by
  cases rebuilds with
  | succeeded listed =>
      rw [← map_fst_listAll listed]
      exact Attempt.over_answered _
  | failed split listed _ =>
      rw [split, ← map_fst_listAll listed]
      exact Attempt.over_failed _ _ _ _

theorem roster_eq (rebuilds : Rebuilds list site attempt r site') :
    site'.roster = site.roster.tried attempt := by
  cases rebuilds with
  | succeeded listed => rw [Roster.tried, Attempt.listings?_answered]
  | failed _ listed _ => rw [Roster.tried, Attempt.listings?_failed]

theorem reflects (rebuilds : Rebuilds list site attempt r site')
    (told : Reflects history site.roster) :
    Reflects (history ++ [.attempted attempt]) site'.roster := by
  rw [rebuilds.roster_eq]
  exact told.attempted rebuilds.attempt_over

end Rebuilds

/-! ## Tasks -/

/-- The answer to a lookup is what the roster knows afterwards. -/
theorem lookup_happens {r : Except CloudError (Option GroupId)}
    (run : (Site.lookup list member).runOn site = (r, site')) :
    (∃ marks, Happens list (.lookup member) site marks site') ∧
      r.toOption.join = site'.roster.owner? member := by
  rw [lookup, Action.runOn_bind_ok (Action.runOn_get _)] at run
  cases known : site.roster.owner? member with
  | some group =>
      simp only [known, Action.runOn_pure] at run
      cases run
      exact ⟨⟨_, .known known⟩, known.symm⟩
  | none =>
      simp only [known] at run
      split at run
      · next covered =>
        obtain ⟨_, m, refreshed, told⟩ | ⟨e, refreshed, rfl⟩ := Action.bind_cases run
        · obtain ⟨attempt, rebuilds⟩ := refresh_rebuilds refreshed
          rw [Action.runOn_bind_ok (Action.runOn_get _), Action.runOn_pure] at told
          cases told
          exact ⟨⟨_, .missed known covered rebuilds⟩, rfl⟩
        · obtain ⟨attempt, rebuilds⟩ := refresh_rebuilds refreshed
          refine ⟨⟨_, .missed known covered rebuilds⟩, ?_⟩
          cases rebuilds
          exact known.symm
      · next uncovered =>
        cases run
        exact ⟨⟨_, .outside known (by simpa using uncovered)⟩, known.symm⟩

theorem ensureMembers_happens {group : GroupId} {members : List InstanceRef}
    {r : Except CloudError Unit}
    (run : (ensureMembers list group members).runOn site = (r, site')) :
    ∃ marks, Happens list (.ensure group members) site marks site' := by
  induction members generalizing site with
  | nil =>
      cases run
      exact ⟨_, .ensured _ _⟩
  | cons member members ih =>
      obtain ⟨owner, m, looked, rest⟩ | ⟨e, looked, -⟩ := Action.bind_cases run
      · obtain ⟨⟨marks, happens⟩, answer⟩ := lookup_happens looked
        have answer : owner = m.roster.owner? member := answer
        cases owner with
        | none =>
            cases rest
            refine ⟨_, .stopped members happens ?_⟩
            rw [← answer]
            rintro ⟨⟩
        | some owner =>
            dsimp only at rest
            split at rest
            · next same =>
              subst same
              obtain ⟨more, others⟩ := ih rest
              exact ⟨_, .confirmed happens answer.symm others⟩
            · next other =>
              cases rest
              refine ⟨_, .stopped members happens ?_⟩
              rw [← answer]
              exact fun same => other (Option.some.inj same)
      · obtain ⟨⟨marks, happens⟩, answer⟩ := lookup_happens looked
        have answer : none = site'.roster.owner? member := answer
        refine ⟨_, .stopped members happens ?_⟩
        rw [← answer]
        rintro ⟨⟩

theorem perform_happens (list : Lister κ) (task : Task) (site : Site κ) :
    ∃ marks, Happens list task site marks ((perform list task).runOn site).2 := by
  rcases run : (perform list task).runOn site with ⟨r, site'⟩
  cases task with
  | register group =>
      cases run
      exact ⟨_, .registered group site⟩
  | refresh =>
      obtain ⟨attempt, rebuilds⟩ := refresh_rebuilds run
      exact ⟨_, .refreshed rebuilds⟩
  | tick =>
      rcases refreshed : (Site.refresh list).runOn site with ⟨result, m⟩
      obtain ⟨attempt, rebuilds⟩ := refresh_rebuilds refreshed
      have ticked : (perform list .tick).runOn site = (.ok (), m) := by
        rw [perform, refreshTimes, Action.runOn_bind, Action.runOn_attempt, refreshed]
        rfl
      rw [ticked] at run
      cases run
      exact ⟨_, .ticked rebuilds⟩
  | lookup member =>
      obtain ⟨owner, m, looked, ended⟩ | ⟨e, looked, -⟩ := Action.bind_cases run
      · cases ended
        exact (lookup_happens looked).1
      · exact (lookup_happens looked).1
  | ensure group members => exact ensureMembers_happens run

theorem Happens.reflects (happens : Happens list task site marks site')
    (told : Reflects history site.roster) : Reflects (history ++ marks) site'.roster := by
  induction happens generalizing history with
  | registered group site => exact told.register group
  | refreshed rebuilds => exact rebuilds.reflects told
  | ticked rebuilds => exact rebuilds.reflects told
  | known => rwa [List.append_nil]
  | outside => rwa [List.append_nil]
  | missed unknown covered rebuilds => exact rebuilds.reflects told
  | ensured => rwa [List.append_nil]
  | stopped members looked stranger ih => exact ih told
  | confirmed looked owned rest first others =>
      rw [← List.append_assoc]
      exact others (first told)

theorem Passes.reflects (passes : Passes list tasks site marks site')
    (told : Reflects history site.roster) : Reflects (history ++ marks) site'.roster := by
  induction passes generalizing history with
  | nil => rwa [List.append_nil]
  | cons first rest ih =>
      rw [← List.append_assoc]
      exact ih (first.reflects told)

theorem performAll_passes (list : Lister κ) (tasks : List Task) (site : Site κ) :
    ∃ history, Passes list tasks site history (performAll list tasks site) := by
  induction tasks generalizing site with
  | nil => exact ⟨_, .nil site⟩
  | cons task tasks ih =>
      obtain ⟨marks, first⟩ := perform_happens list task site
      obtain ⟨more, rest⟩ := ih _
      exact ⟨_, .cons first rest⟩

/-- Whatever tasks a new site has performed, and however each listing was answered, its roster
holds what has happened: registrations, and rebuilds of which one that fails leaves no trace but
its count. -/
theorem performAll_reflects (list : Lister κ) (cloud : κ) (tasks : List Task) :
    ∃ history, Passes list tasks ⟨cloud, {}⟩ history (performAll list tasks ⟨cloud, {}⟩) ∧
      Reflects history (performAll list tasks ⟨cloud, {}⟩).roster := by
  obtain ⟨history, passes⟩ := performAll_passes list tasks ⟨cloud, {}⟩
  exact ⟨history, passes, passes.reflects Reflects.initial⟩

end Site

end Autoscaler
