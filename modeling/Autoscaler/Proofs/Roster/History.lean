import Autoscaler.Proofs.Roster.Answers

/-!
# What a roster remembers

The history of a roster is made of registrations and of attempts to rebuild it, each with the
answers to its listings. All that a roster holds is determined by its history: its groups are
those that were registered, its owners are those of the last attempt in which every listing was
answered, and its counts are numbers of attempts. An attempt that fails leaves no other trace
than its count.
-/

namespace Autoscaler

namespace Roster

/-- An attempt to rebuild a roster: the groups whose listing was asked for, in order, each with
the answer. -/
abbrev Attempt : Type := List (GroupId × Except CloudError (List InstanceRef))

namespace Attempt

/-- The attempt in which each listing is answered. -/
def answered (listings : Listings) : Attempt :=
  listings.map fun (group, members) => (group, .ok members)

/-- The listings of an attempt in which each one was answered. -/
def listings? (attempt : Attempt) : Option Listings :=
  attempt.mapM fun (group, answer) => answer.toOption.map fun members => (group, members)

/-- The attempt asks for the listings of these groups in order, up to the first that fails. -/
inductive Over : List GroupId → Attempt → Prop where
  | done : Over [] []
  | listed (group : GroupId) (members : List InstanceRef) {groups : List GroupId}
      {attempt : Attempt} (rest : Over groups attempt) :
      Over (group :: groups) ((group, .ok members) :: attempt)
  | failed (group : GroupId) (error : CloudError) (groups : List GroupId) :
      Over (group :: groups) [(group, .error error)]

end Attempt

/-- What happens to a roster. -/
inductive Mark where
  | registered (group : GroupId)
  | attempted (attempt : Attempt)

namespace Mark

def registration? : Mark → Option GroupId
  | registered group => some group
  | attempted _ => none

def attempt? : Mark → Option Attempt
  | registered _ => none
  | attempted attempt => some attempt

end Mark

/-- All that has happened to a roster, the earliest first. -/
abbrev History : Type := List Mark

namespace History

/-- The groups that were registered, in the order of their first registrations. -/
def groups (history : History) : List GroupId :=
  (history.filterMap Mark.registration?).eraseDups

def attempts (history : History) : List Attempt := history.filterMap Mark.attempt?

/-- The listings of the last attempt in which every listing was answered. -/
def lastGood? (history : History) : Option Listings :=
  (history.attempts.filterMap Attempt.listings?).getLast?

end History

/-- The group of the last listing that shows the instance. -/
def lastLister? (listings : Listings) (member : InstanceRef) : Option GroupId :=
  ((listings.filter fun listing => member ∈ listing.2).getLast?).map Prod.fst

/-- The roster after an attempt to rebuild it. -/
def tried (roster : Roster) (attempt : Attempt) : Roster :=
  match attempt.listings? with
  | some listings => roster.rebuilt listings
  | none => roster.failed

/-- The roster holds what its history tells. -/
structure Reflects (history : History) (roster : Roster) : Prop where
  groups : roster.groups = history.groups
  distinct : roster.groups.Nodup
  /-- Every attempt was made over the groups that were registered by then. -/
  attempts : ∀ before attempt, before ++ [.attempted attempt] <+: history →
    Attempt.Over (History.groups before) attempt
  unbuilt : history.lastGood? = none → roster.owners = []
  owner : ∀ member, roster.owner? member =
    history.lastGood?.bind fun listings => lastLister? listings member
  registered : ∀ member group, roster.owner? member = some group → group ∈ roster.groups
  keys : (roster.owners.map Prod.fst).Nodup
  entries : roster.entries = roster.owners.length
  refreshes : roster.refreshes = history.attempts.countP fun attempt => attempt.listings?.isSome
  failures : roster.failures = history.attempts.countP fun attempt => attempt.listings?.isNone
  refreshed : roster.refreshed ↔ 0 < roster.refreshes

variable {history : History} {roster : Roster} {listings : Listings} {attempt : Attempt}
  {group : GroupId} {member : InstanceRef} {members : List InstanceRef}
  {owners : List (InstanceRef × GroupId)}

/-! ## Owners -/

/-- The owner of an instance in a list of owners. -/
def ownerIn? (owners : List (InstanceRef × GroupId)) (member : InstanceRef) : Option GroupId :=
  (owners.find? fun e => e.1 = member).map (·.2)

theorem ownerIn?_assign (owners : List (InstanceRef × GroupId)) (other : InstanceRef)
    (group : GroupId) :
    ownerIn? (assign owners other group) member =
      if member = other then some group else ownerIn? owners member := by
  rw [ownerIn?, assign, List.find?_cons]
  by_cases same : other = member
  · simp [same]
  · have kept : (fun e : InstanceRef × GroupId =>
        decide (decide (e.1 ≠ other) = true ∧ decide (e.1 = member) = true)) =
          fun e => decide (e.1 = member) := by
      funext e
      by_cases here : e.1 = member
      · simp [here, Ne.symm same]
      · simp [here]
    rw [List.find?_filter, kept, if_neg (Ne.symm same), ownerIn?]
    simp [same]

theorem ownerIn?_assignAll :
    ownerIn? (members.foldl (fun owners member => assign owners member group) owners) member =
      if member ∈ members then some group else ownerIn? owners member := by
  induction members generalizing owners with
  | nil => simp
  | cons other members ih =>
      rw [List.foldl_cons, ih, ownerIn?_assign]
      by_cases later : member ∈ members
      · simp [later]
      · by_cases here : member = other <;> simp [later, here]

theorem lastLister?_cons (listing : GroupId × List InstanceRef) (listings : Listings) :
    lastLister? (listing :: listings) member =
      (lastLister? listings member).or (if member ∈ listing.2 then some listing.1 else none) := by
  rw [lastLister?, lastLister?, List.filter_cons]
  split
  · next shown =>
    have shown : member ∈ listing.2 := by simpa using shown
    rw [List.getLast?_cons, if_pos shown]
    cases (listings.filter fun listing => decide (member ∈ listing.2)).getLast? <;> rfl
  · next hidden =>
    have hidden : member ∉ listing.2 := by simpa using hidden
    rw [if_neg hidden, Option.or_none]

/-- Later listings override earlier ones. -/
theorem ownerIn?_ownersOf (listings : Listings) :
    ownerIn? (ownersOf listings) member = lastLister? listings member := by
  suffices general : ∀ owners : List (InstanceRef × GroupId),
      ownerIn? (listings.foldl (fun owners (group, members) =>
        members.foldl (fun owners member => assign owners member group) owners) owners) member =
      (lastLister? listings member).or (ownerIn? owners member) by
    rw [ownersOf, general]
    simp [ownerIn?]
  induction listings with
  | nil => exact fun _ => rfl
  | cons listing listings ih =>
      intro owners
      rw [List.foldl_cons, ih, ownerIn?_assignAll, lastLister?_cons, Option.or_assoc]
      split <;> rfl

theorem owner?_rebuilt (roster : Roster) (listings : Listings) (member : InstanceRef) :
    (roster.rebuilt listings).owner? member = lastLister? listings member :=
  ownerIn?_ownersOf listings

theorem nodup_assign (distinct : (owners.map Prod.fst).Nodup) :
    ((assign owners member group).map Prod.fst).Nodup := by
  rw [assign, List.map_cons, List.nodup_cons]
  constructor
  · simp
  · exact distinct.sublist (List.filter_sublist.map _)

theorem nodup_ownersOf (listings : Listings) : ((ownersOf listings).map Prod.fst).Nodup := by
  have inner (group : GroupId) (members : List InstanceRef) :
      ∀ owners : List (InstanceRef × GroupId), (owners.map Prod.fst).Nodup →
        ((members.foldl (fun owners member => assign owners member group) owners).map
          Prod.fst).Nodup := by
    induction members with
    | nil => exact fun _ distinct => distinct
    | cons member members ih => exact fun _ distinct => ih _ (nodup_assign distinct)
  suffices general : ∀ owners : List (InstanceRef × GroupId), (owners.map Prod.fst).Nodup →
      ((listings.foldl (fun owners (group, members) =>
        members.foldl (fun owners member => assign owners member group) owners) owners).map
          Prod.fst).Nodup from general [] .nil
  induction listings with
  | nil => exact fun _ distinct => distinct
  | cons listing listings ih => exact fun _ distinct => ih _ (inner _ _ _ distinct)

theorem mem_groups_of_lastLister? (shown : lastLister? listings member = some group) :
    group ∈ listings.map Prod.fst := by
  obtain ⟨listing, last, rfl⟩ := Option.map_eq_some_iff.mp shown
  have showing := List.mem_filter.mp (List.mem_of_getLast? last)
  exact List.mem_map_of_mem showing.1

/-! ## Attempts -/

namespace Attempt

@[simp] theorem listings?_cons_ok (group : GroupId) (members : List InstanceRef)
    (attempt : Attempt) : listings? ((group, .ok members) :: attempt) =
      attempt.listings?.map fun listings => (group, members) :: listings := by
  rw [listings?, List.mapM_cons, ← listings?]
  cases attempt.listings? <;> rfl

theorem listings?_answered (listings : Listings) :
    (answered listings).listings? = some listings := by
  induction listings with
  | nil => rfl
  | cons listing listings ih =>
      rw [answered, List.map_cons, listings?_cons_ok, ← answered, ih]
      rfl

theorem listings?_failed (listings : Listings) (group : GroupId) (error : CloudError) :
    listings? (answered listings ++ [(group, .error error)]) = none := by
  induction listings with
  | nil => rfl
  | cons listing listings ih =>
      rw [answered, List.map_cons, List.cons_append, listings?_cons_ok, ← answered, ih]
      rfl

theorem over_answered (listings : Listings) : Over (listings.map Prod.fst) (answered listings) := by
  induction listings with
  | nil => exact .done
  | cons listing listings ih => exact .listed _ _ ih

theorem over_failed (listings : Listings) (group : GroupId) (error : CloudError)
    (after : List GroupId) : Over (listings.map Prod.fst ++ group :: after)
      (answered listings ++ [(group, .error error)]) := by
  induction listings with
  | nil => exact .failed _ _ _
  | cons listing listings ih => exact .listed _ _ ih

/-- The listings of an attempt in which each one was answered are those of all groups. -/
theorem Over.groups_eq {groups : List GroupId} (asked : Over groups attempt)
    (complete : attempt.listings? = some listings) : listings.map Prod.fst = groups := by
  induction asked generalizing listings with
  | done =>
      cases complete
      rfl
  | listed group members rest ih =>
      rw [listings?_cons_ok] at complete
      obtain ⟨others, later, rfl⟩ := Option.map_eq_some_iff.mp complete
      rw [List.map_cons, ih later]
  | failed => cases complete

end Attempt

/-! ## Histories -/

namespace History

@[simp] theorem groups_registered (history : History) (group : GroupId) :
    groups (history ++ [.registered group]) =
      if group ∈ history.groups then history.groups else history.groups ++ [group] := by
  have registrations : (history ++ [Mark.registered group]).filterMap Mark.registration? =
      history.filterMap Mark.registration? ++ [group] := List.filterMap_append
  rw [groups, registrations, List.eraseDups_append, groups]
  generalize history.filterMap Mark.registration? = groups
  by_cases known : group ∈ groups
  · simp [known, List.removeAll]
  · simp [known, List.removeAll, List.eraseDups_cons]

@[simp] theorem groups_attempted (history : History) (attempt : Attempt) :
    groups (history ++ [.attempted attempt]) = history.groups := by
  have registrations : (history ++ [Mark.attempted attempt]).filterMap Mark.registration? =
      history.filterMap Mark.registration? := by
    rw [List.filterMap_append]
    exact List.append_nil _
  rw [groups, registrations, groups]

@[simp] theorem attempts_registered (history : History) (group : GroupId) :
    attempts (history ++ [.registered group]) = history.attempts := by
  simp [attempts, Mark.attempt?]

@[simp] theorem attempts_attempted (history : History) (attempt : Attempt) :
    attempts (history ++ [.attempted attempt]) = history.attempts ++ [attempt] := by
  simp [attempts, Mark.attempt?]

@[simp] theorem lastGood?_registered (history : History) (group : GroupId) :
    lastGood? (history ++ [.registered group]) = history.lastGood? := by
  rw [lastGood?, attempts_registered, lastGood?]

@[simp] theorem lastGood?_attempted (history : History) (attempt : Attempt) :
    lastGood? (history ++ [.attempted attempt]) = attempt.listings?.or history.lastGood? := by
  rw [lastGood?, attempts_attempted, List.filterMap_append, List.getLast?_append, lastGood?]
  congr 1
  cases listed : attempt.listings? <;> simp [listed]

end History

theorem register_eq (roster : Roster) (group : GroupId) :
    roster.register group =
      { roster with
        groups := if group ∈ roster.groups then roster.groups else roster.groups ++ [group] } := by
  rw [Roster.register]
  split <;> rfl

namespace Reflects

theorem initial : Reflects [] {} where
  groups := rfl
  distinct := .nil
  attempts before attempt earlier := by simp at earlier
  unbuilt _ := rfl
  owner _ := rfl
  registered member group owned := by cases owned
  keys := .nil
  entries := rfl
  refreshes := rfl
  failures := rfl
  refreshed := by simp

variable (told : Reflects history roster)
include told

theorem register (group : GroupId) :
    Reflects (history ++ [.registered group]) (roster.register group) := by
  rw [register_eq]
  refine
    { groups := ?_, distinct := ?_, attempts := ?_
      unbuilt := ?_, owner := ?_, registered := ?_
      keys := told.keys
      entries := told.entries
      refreshes := ?_, failures := ?_
      refreshed := told.refreshed }
  · rw [History.groups_registered, told.groups]
  · dsimp only
    split
    · exact told.distinct
    · next new =>
      rw [List.nodup_append]
      refine ⟨told.distinct, by simp, ?_⟩
      rintro other known _ here rfl
      obtain rfl := List.mem_singleton.mp here
      exact new known
  · intro before attempt earlier
    obtain same | earlier := List.prefix_concat_iff.mp earlier
    · simp at same
    · exact told.attempts before attempt earlier
  · rw [History.lastGood?_registered]
    exact told.unbuilt
  · rw [History.lastGood?_registered]
    exact told.owner
  · intro member owner owned
    have known := told.registered member owner owned
    dsimp only
    split
    · exact known
    · exact List.mem_append_left _ known
  · rw [History.attempts_registered]
    exact told.refreshes
  · rw [History.attempts_registered]
    exact told.failures

theorem over_of_concat (asked : Attempt.Over roster.groups attempt) (before : History)
    (attempted : Attempt)
    (earlier : before ++ [.attempted attempted] <+: history ++ [.attempted attempt]) :
    Attempt.Over before.groups attempted := by
  obtain same | earlier := List.prefix_concat_iff.mp earlier
  · obtain ⟨rfl, last⟩ := List.append_inj' same rfl
    cases last
    rwa [← told.groups]
  · exact told.attempts before attempted earlier

/-- An attempt in which every listing is answered replaces what was owned. -/
theorem answered (asked : Attempt.Over roster.groups attempt)
    (complete : attempt.listings? = some listings) :
    Reflects (history ++ [.attempted attempt]) (roster.rebuilt listings) where
  groups := by
    rw [History.groups_attempted]
    exact told.groups
  distinct := told.distinct
  attempts := told.over_of_concat asked
  unbuilt := by
    rw [History.lastGood?_attempted, complete, Option.some_or]
    rintro ⟨⟩
  owner member := by
    rw [owner?_rebuilt, History.lastGood?_attempted, complete, Option.some_or, Option.bind_some]
  registered member group owned := by
    rw [owner?_rebuilt] at owned
    have listed := mem_groups_of_lastLister? owned
    rwa [asked.groups_eq complete] at listed
  keys := nodup_ownersOf listings
  entries := rfl
  refreshes := by
    rw [History.attempts_attempted, List.countP_append, ← told.refreshes]
    simp [rebuilt, complete]
  failures := by
    rw [History.attempts_attempted, List.countP_append, ← told.failures]
    simp [rebuilt, complete]
  refreshed := by simp [rebuilt]

/-- An attempt in which a listing fails leaves no other trace than its count. -/
theorem unanswered (asked : Attempt.Over roster.groups attempt)
    (incomplete : attempt.listings? = none) :
    Reflects (history ++ [.attempted attempt]) roster.failed where
  groups := by
    rw [History.groups_attempted]
    exact told.groups
  distinct := told.distinct
  attempts := told.over_of_concat asked
  unbuilt := by
    rw [History.lastGood?_attempted, incomplete, Option.none_or]
    exact told.unbuilt
  owner := by
    rw [History.lastGood?_attempted, incomplete, Option.none_or]
    exact told.owner
  registered := told.registered
  keys := told.keys
  entries := told.entries
  refreshes := by
    rw [History.attempts_attempted, List.countP_append, failed, told.refreshes]
    simp [incomplete]
  failures := by
    rw [History.attempts_attempted, List.countP_append, failed, told.failures]
    simp [incomplete]
  refreshed := told.refreshed

theorem attempted (asked : Attempt.Over roster.groups attempt) :
    Reflects (history ++ [.attempted attempt]) (roster.tried attempt) := by
  rw [tried]
  cases complete : attempt.listings? with
  | some listings => exact told.answered asked complete
  | none => exact told.unanswered asked complete

end Reflects

end Roster

end Autoscaler
