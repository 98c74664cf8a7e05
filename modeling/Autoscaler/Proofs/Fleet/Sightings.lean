import Autoscaler.Proofs.Fleet.Discovery
import Autoscaler.Proofs.Fleet.Separation
import Autoscaler.Proofs.Roster.History

/-!
# The groups that are seen among nodes

Where the listings of a backend show no instance outside the zones of its groups, and its roster
knows nothing that they do not show, every question about an owner is answered by the listings,
whether the roster is rebuilt for it or not. So the candidates that a provider finds are those of
its groups that own a node according to the listings. Each of them is found once, with the first
of its nodes, and they stand in the order of these nodes. Nodes of other clouds and nodes of groups
that the provider does not have make no difference. A node whose id cannot be read ends the search
with what is wrong with the id, unless an earlier one has done so.
-/

namespace Autoscaler

namespace Roster

variable {roster : Roster} {listings : Listings} {member : InstanceRef}

/-- All that the roster knows is shown by the listings, and all that they show lies in the zones
of its groups. -/
structure Accurate (roster : Roster) (listings : Listings) : Prop where
  known : ∀ member group, roster.owner? member = some group →
    lastLister? listings member = some group
  covered : ∀ member group, lastLister? listings member = some group → roster.covers member

namespace Accurate

/-- A roster without owners and one with the owners that are listed are accurate. -/
theorem of_owners (owners : roster.owners = [] ∨ roster.owners = ownersOf listings)
    (zones : ∀ listing ∈ listings, ∀ member ∈ listing.2, roster.covers member) :
    roster.Accurate listings where
  known member _ owned := by
    obtain empty | fresh := owners
    · rw [owner?, empty] at owned
      cases owned
    · rw [owner?, fresh] at owned
      exact (ownerIn?_ownersOf listings).symm.trans owned
  covered member _ shown := by
    obtain ⟨listing, last, -⟩ := Option.map_eq_some_iff.mp shown
    obtain ⟨inside, shows⟩ := List.mem_filter.mp (List.mem_of_getLast? last)
    exact zones listing inside member (by simpa using shows)

theorem rebuilt (accurate : roster.Accurate listings) :
    (roster.rebuilt listings).Accurate listings where
  known member _ owned := (owner?_rebuilt roster listings member).symm.trans owned
  covered := accurate.covered

theorem asked (accurate : roster.Accurate listings) (member : InstanceRef) :
    (roster.asked listings member).Accurate listings := by
  rw [Roster.asked]
  split
  · exact accurate.rebuilt
  · exact accurate

/-- After a question about an instance the roster knows what is listed. -/
theorem owner?_asked (accurate : roster.Accurate listings) (member : InstanceRef) :
    (roster.asked listings member).owner? member = lastLister? listings member := by
  rw [Roster.asked]
  split
  · exact owner?_rebuilt roster listings member
  · next settled =>
      cases known : roster.owner? member with
      | some group => exact (accurate.known member group known).symm
      | none =>
          cases shown : lastLister? listings member with
          | none => rfl
          | some group =>
              have covered := accurate.covered member group shown
              exact absurd (by simp [misses, known, covered]) settled

end Accurate

end Roster

/-- A backend that answers every question, whose roster is accurate. -/
structure Backend.Informed (b : Backend) (listings : Roster.Listings) (w : World) : Prop where
  opened : b.Open w
  lists : Roster.Lists (b.members? w) (b.roster w) listings
  accurate : (b.roster w).Accurate listings

namespace Backend

variable {b : Backend} {listings : Roster.Listings} {w w' : World} {member : InstanceRef}

/-- An informed backend tells the owner that is listed, and stays informed. -/
theorem owner?_informed (informed : b.Informed listings w) (member : InstanceRef) :
    ∃ w', (b.owner? member).runOn w = (.ok (Roster.lastLister? listings member), w') ∧
      b.Informed listings w' := by
  obtain ⟨owner, told⟩ := owner?_ok informed.opened informed.lists member
  have run : (b.owner? member).runOn w = (.ok owner, ((b.owner? member).runOn w).2) :=
    Prod.ext told rfl
  obtain ⟨consulted, left, rfl⟩ := owner?_asked informed.lists run
  refine ⟨_, ?_, informed.opened.observed consulted.observed, ?_, ?_⟩
  · rw [run, left, informed.accurate.owner?_asked]
  · rw [consulted.lists]
    exact informed.lists
  · rw [left]
    exact informed.accurate.asked member

end Backend

namespace Provider

variable {p : Provider} {listings : Roster.Listings} {w w' : World} {node : Node}
  {nodes before : List Node} {groups : List NodeGroup} {seen : List GroupId}

/-- The id of the node can be read, if it is of the provider's cloud. -/
def Readable (p : Provider) (node : Node) : Prop :=
  node.scheme? = some p.name → (p.backend.readProviderId node.providerId).isOk

/-- The registered group that owns a node of the provider's cloud, according to listings. -/
def listedOwner? (p : Provider) (listings : Roster.Listings) (node : Node) : Option GroupId :=
  (p.ref? node).bind (Roster.lastLister? listings)

/-! ## Specification -/

/-- What is seen among nodes: the groups, without those `seen` before, that own one of the nodes,
each once, with its first node, and in the order of these nodes. -/
structure Sightings (owner? : Node → Option GroupId) (groups : List NodeGroup)
    (seen : List GroupId) (nodes : List Node) (found : List Candidate) : Prop where
  groups : ∀ g, g ∈ found.map Candidate.group ↔
    g ∈ groups ∧ g.id ∉ seen ∧ ∃ node ∈ nodes, owner? node = some g.id
  once : (found.map Candidate.group).Nodup
  samples : ∀ c ∈ found, nodes.find? (fun node => owner? node = some c.group.id) = some c.sample
  order : found.Pairwise fun c c' =>
    nodes.findIdx (fun node => owner? node = some c.group.id) <
      nodes.findIdx (fun node => owner? node = some c'.group.id)

namespace Sightings

variable {owner? : Node → Option GroupId} {found : List Candidate} {g : NodeGroup}

theorem nil : Sightings owner? groups seen [] [] where
  groups g := by simp
  once := List.nodup_nil
  samples c inside := by cases inside
  order := .nil

/-- A node that no group owns which is still to be seen. -/
theorem skip (sightings : Sightings owner? groups seen nodes found)
    (useless : ∀ g ∈ groups, g.id ∉ seen → owner? node ≠ some g.id) :
    Sightings owner? groups seen (node :: nodes) found := by
  have other : ∀ c ∈ found, owner? node ≠ some c.group.id := by
    intro c inside
    obtain ⟨known, new, -⟩ := (sightings.groups c.group).mp (List.mem_map_of_mem inside)
    exact useless c.group known new
  constructor
  · intro g
    rw [sightings.groups, List.exists_mem_cons_iff]
    constructor
    · rintro ⟨known, new, owned⟩
      exact ⟨known, new, .inr owned⟩
    · rintro ⟨known, new, here | owned⟩
      · exact absurd here (useless g known new)
      · exact ⟨known, new, owned⟩
  · exact sightings.once
  · intro c inside
    rw [List.find?_cons_of_neg (by simpa using other c inside)]
    exact sightings.samples c inside
  · refine sightings.order.imp_of_mem ?_
    intro c c' inside inside' before
    rw [List.findIdx_cons, List.findIdx_cons]
    simpa [other c inside, other c' inside'] using before

/-- The first node of a group that was not seen before. -/
theorem sight (sightings : Sightings owner? groups (g.id :: seen) nodes found)
    (known : g ∈ groups) (new : g.id ∉ seen) (owned : owner? node = some g.id)
    (distinct : (groups.map NodeGroup.id).Nodup) :
    Sightings owner? groups seen (node :: nodes) (⟨g, node⟩ :: found) := by
  have other : ∀ c ∈ found, g.id ≠ c.group.id := by
    rintro c inside same
    obtain ⟨-, unseen, -⟩ := (sightings.groups c.group).mp (List.mem_map_of_mem inside)
    exact unseen (same ▸ List.mem_cons_self)
  constructor
  · intro h
    rw [List.map_cons, List.mem_cons, sightings.groups, List.mem_cons, not_or,
      List.exists_mem_cons_iff]
    constructor
    · rintro (rfl | ⟨known', ⟨-, new'⟩, later⟩)
      · exact ⟨known, new, .inl owned⟩
      · exact ⟨known', new', .inr later⟩
    · rintro ⟨known', new', here⟩
      by_cases same : h.id = g.id
      · exact .inl (List.inj_on_of_nodup_map distinct known' known same)
      · obtain here | later := here
        · rw [owned, Option.some.injEq] at here
          exact absurd here.symm same
        · exact .inr ⟨known', ⟨same, new'⟩, later⟩
  · rw [List.map_cons, List.nodup_cons]
    refine ⟨?_, sightings.once⟩
    intro again
    obtain ⟨c, inside, same⟩ := List.mem_map.mp again
    exact other c inside (congrArg NodeGroup.id same).symm
  · intro c inside
    obtain rfl | inside := List.mem_cons.mp inside
    · exact List.find?_cons_of_pos (by simpa using owned)
    · rw [List.find?_cons_of_neg (by simpa [owned] using other c inside)]
      exact sightings.samples c inside
  · rw [List.pairwise_cons]
    constructor
    · intro c inside
      rw [List.findIdx_cons, List.findIdx_cons]
      simp [owned, other c inside]
    · refine sightings.order.imp_of_mem ?_
      intro c c' inside inside' before
      rw [List.findIdx_cons, List.findIdx_cons]
      simpa [owned, other c inside, other c' inside'] using before

end Sightings

/-! ## A search without questions -/

/-- The candidates among nodes whose groups are known. -/
def firstSeen (groupOf? : Node → Option NodeGroup) (seen : List GroupId) :
    List Node → List Candidate
  | [] => []
  | node :: nodes =>
      match groupOf? node with
      | none => firstSeen groupOf? seen nodes
      | some g =>
          if g.id ∈ seen then firstSeen groupOf? seen nodes
          else ⟨g, node⟩ :: firstSeen groupOf? (g.id :: seen) nodes

/-- Nodes without a group make no difference. -/
theorem firstSeen_filter {groupOf? : Node → Option NodeGroup} {keep : Node → Bool}
    (keeps : ∀ node g, groupOf? node = some g → keep node) (seen : List GroupId)
    (nodes : List Node) :
    firstSeen groupOf? seen (nodes.filter keep) = firstSeen groupOf? seen nodes := by
  induction nodes generalizing seen with
  | nil => rfl
  | cons node nodes ih =>
      rw [List.filter_cons, firstSeen]
      cases known : groupOf? node with
      | none =>
          split
          · rw [firstSeen, known]
            exact ih seen
          · exact ih seen
      | some g =>
          rw [if_pos (keeps node g known), firstSeen, known]
          dsimp only
          rw [ih, ih]

theorem firstSeen_sightings {groupOf? : Node → Option NodeGroup} {owner? : Node → Option GroupId}
    (distinct : (groups.map NodeGroup.id).Nodup)
    (owns : ∀ node g, groupOf? node = some g ↔ g ∈ groups ∧ owner? node = some g.id)
    (seen : List GroupId) (nodes : List Node) :
    Sightings owner? groups seen nodes (firstSeen groupOf? seen nodes) := by
  induction nodes generalizing seen with
  | nil => exact .nil
  | cons node nodes ih =>
      rw [firstSeen]
      cases known : groupOf? node with
      | none =>
          refine (ih seen).skip ?_
          intro g inside _ owned
          cases known.symm.trans ((owns node g).mpr ⟨inside, owned⟩)
      | some g =>
          obtain ⟨inside, owned⟩ := (owns node g).mp known
          dsimp only
          split
          · next before =>
              refine (ih seen).skip ?_
              rintro h - new owned'
              rw [owned, Option.some.injEq] at owned'
              exact new (owned' ▸ before)
          · next new => exact (ih (g.id :: seen)).sight inside new owned distinct

/-! ## Searching -/

/-- The group of a node, according to listings. -/
def listedGroup? (p : Provider) (listings : Roster.Listings) (node : Node) : Option NodeGroup :=
  (p.listedOwner? listings node).bind p.group?

/-- Different groups are found under their identifiers. -/
theorem group?_eq_some_iff (distinct : (p.groups.map NodeGroup.id).Nodup) {id : GroupId}
    {g : NodeGroup} : p.group? id = some g ↔ g ∈ p.groups ∧ g.id = id :=
  find?_key_iff fun _ inside _ inside' same =>
    List.inj_on_of_nodup_map distinct inside inside' same

theorem listedGroup?_eq_some_iff (distinct : (p.groups.map NodeGroup.id).Nodup) (g : NodeGroup) :
    p.listedGroup? listings node = some g ↔
      g ∈ p.groups ∧ p.listedOwner? listings node = some g.id := by
  rw [listedGroup?, Option.bind_eq_some_iff]
  constructor
  · rintro ⟨id, owned, found⟩
    obtain ⟨inside, rfl⟩ := (group?_eq_some_iff distinct).mp found
    exact ⟨inside, owned⟩
  · rintro ⟨inside, owned⟩
    exact ⟨g.id, owned, (group?_eq_some_iff distinct).mpr ⟨inside, rfl⟩⟩

theorem member?_of_readable (readable : p.Readable node) :
    p.member? node = .ok (p.ref? node) := by
  by_cases native : node.scheme? = some p.name
  · have read := readable native
    rw [ref?, member?, if_pos native]
    cases known : p.backend.readProviderId node.providerId with
    | error e =>
        rw [known] at read
        cases read
    | ok member => rfl
  · rw [ref?, member?, if_neg native]
    rfl

/-- A node is in the group that is listed for it. -/
theorem groupOf?_informed (informed : p.backend.Informed listings w)
    (readable : p.Readable node) :
    ∃ w', (p.groupOf? node).runOn w = (.ok (p.listedGroup? listings node), w') ∧
      p.backend.Informed listings w' := by
  rw [groupOf?_eq, member?_of_readable readable,
    Action.runOn_bind_ok (Action.runOn_ofExcept _ _), listedGroup?, listedOwner?]
  cases p.ref? node with
  | none => exact ⟨w, rfl, informed⟩
  | some member =>
      obtain ⟨w', asked, informed'⟩ := Backend.owner?_informed informed member
      refine ⟨w', ?_, informed'⟩
      show Action.runOn (_ >>= _) w = _
      rw [Action.runOn_bind_ok asked, Action.runOn_pure]
      rfl

/-- A search goes over nodes whose ids can be read as if their groups were known, and then on. -/
theorem candidatesBeyond_append (informed : p.backend.Informed listings w)
    (readable : ∀ node ∈ before, p.Readable node) (seen : List GroupId) (nodes : List Node) :
    ∃ seen' w', p.backend.Informed listings w' ∧
      ((p.candidatesBeyond seen (before ++ nodes)).runOn w).1 =
        ((p.candidatesBeyond seen' nodes).runOn w').1.map
          (firstSeen (p.listedGroup? listings) seen before ++ ·) := by
  induction before generalizing seen w with
  | nil =>
      refine ⟨seen, w, informed, ?_⟩
      show _ = Except.map id _
      rw [Except.map_id]
      rfl
  | cons node before ih =>
      obtain ⟨here, others⟩ := List.forall_mem_cons.mp readable
      obtain ⟨m, asked, informed'⟩ := groupOf?_informed informed here
      rw [List.cons_append, candidatesBeyond, Action.runOn_bind_ok asked, firstSeen]
      cases p.listedGroup? listings node with
      | none => exact ih informed' others seen
      | some g =>
          dsimp only
          split
          · exact ih informed' others seen
          · obtain ⟨seen', w', informed'', same⟩ := ih informed' others (g.id :: seen)
            refine ⟨seen', w', informed'', ?_⟩
            rw [Action.runOn_bind]
            rcases onward : (p.candidatesBeyond (g.id :: seen) (before ++ nodes)).runOn m
              with ⟨r, m'⟩
            rw [onward] at same
            cases ended : ((p.candidatesBeyond seen' nodes).runOn w').1 with
            | error e =>
                rw [ended] at same
                cases same
                rfl
            | ok found =>
                rw [ended] at same
                cases same
                rfl

theorem candidates_firstSeen (informed : p.backend.Informed listings w)
    (readable : ∀ node ∈ nodes, p.Readable node) :
    ((p.candidates nodes).runOn w).1 = .ok (firstSeen (p.listedGroup? listings) [] nodes) := by
  obtain ⟨seen', w', -, same⟩ := candidatesBeyond_append informed readable [] []
  rw [List.append_nil] at same
  rw [candidates, same, candidatesBeyond, Action.runOn_pure]
  show Except.ok (_ ++ []) = _
  rw [List.append_nil]

theorem candidates_unreadable (informed : p.backend.Informed listings w)
    (readable : ∀ node ∈ before, p.Readable node) (native : node.scheme? = some p.name)
    {error : FormatError} (unread : p.backend.readProviderId node.providerId = .error error)
    (after : List Node) :
    ((p.candidates (before ++ node :: after)).runOn w).1 = .error (.format error) := by
  obtain ⟨seen', w', -, same⟩ := candidatesBeyond_append informed readable [] (node :: after)
  have failed : (p.groupOf? node).runOn w' = (.error (.format error), w') := by
    rw [groupOf?, if_pos native, unread]
    rfl
  rw [candidates, same, candidatesBeyond, Action.runOn_bind_error failed]
  rfl

/-- Where nothing is listed outside the zones of the groups, and the roster is empty or was just
rebuilt, the candidates of a provider are its groups that own a node according to the listings,
each once, with its first node, in the order of these nodes; all other nodes could as well be left
out. If the id of a node cannot be read, the search ends with what is wrong with the first such
id. -/
theorem candidates_sightings {b : Backend} {specs : List String} {w₀ w₁ : World}
    (built : (build b specs).runOn w₀ = (.ok p, w₁)) (opened : b.Open w)
    (lists : Roster.Lists (b.members? w) (b.roster w) listings)
    (zones : ∀ listing ∈ listings, ∀ member ∈ listing.2,
      ∃ group ∈ (b.roster w).groups, group.zone = member.zone)
    (cache : (b.roster w).owners = [] ∨ (b.roster w).owners = Roster.ownersOf listings)
    (nodes : List Node) :
    ((∀ node ∈ nodes, p.Readable node) →
        ∃ found, ((p.candidates nodes).runOn w).1 = .ok found ∧
          Sightings (p.listedOwner? listings) p.groups [] nodes found ∧
          ∀ keep : Node → Bool,
            (∀ node, ∀ g ∈ p.groups, p.listedOwner? listings node = some g.id → keep node) →
            ((p.candidates (nodes.filter keep)).runOn w).1 = .ok found) ∧
      ∀ before node after error, nodes = before ++ node :: after →
        (∀ earlier ∈ before, p.Readable earlier) → node.scheme? = some p.name →
        p.backend.readProviderId node.providerId = .error error →
        ((p.candidates nodes).runOn w).1 = .error (.format error) := by
  obtain ⟨rfl, configured⟩ := build_configured built
  have informed : p.backend.Informed listings w := by
    refine ⟨opened, lists, .of_owners cache ?_⟩
    intro listing inside member shown
    simpa [Roster.covers] using zones listing inside member shown
  constructor
  · intro readable
    refine ⟨_, candidates_firstSeen informed readable, ?_, ?_⟩
    · exact firstSeen_sightings configured.ids
        (fun node g => listedGroup?_eq_some_iff configured.ids g) [] nodes
    · intro keep keeps
      have readable' : ∀ node ∈ nodes.filter keep, p.Readable node := fun node inside =>
        readable node (List.mem_filter.mp inside).1
      rw [candidates_firstSeen informed readable', firstSeen_filter]
      intro node g known
      obtain ⟨inside, owned⟩ := (listedGroup?_eq_some_iff configured.ids g).mp known
      exact keeps node g inside owned
  · rintro before node after error rfl readable native unread
    exact candidates_unreadable informed readable native unread after

end Provider

/-!
## Nodes of strangers

Three auto scaling groups of one zone, one of which is registered but not configured, and a roster
that has yet to be built.
-/

namespace Strangers

def backend : Backend := .aws 0 0

def specs : List String := ["1:5:z/b", "1:5:z/a"]

def group (name : String) : NodeGroup := ⟨backend, ⟨"z", name⟩, .small 1 5⟩

def provider : Provider := ⟨backend, [group "b", group "a"]⟩

def cloud : Aws.Cloud where
  groups :=
    { entries := [("a", { desired := 2, instances := [⟨"i", "z"⟩, ⟨"j", "z"⟩] }),
        ("b", { desired := 1, instances := [⟨"k", "z"⟩] }),
        ("c", { desired := 1, instances := [⟨"l", "z"⟩] })]
      nodup := by decide }

def start : World where
  aws := ⟨[cloud]⟩
  rosters := ⟨[({} : Roster).register ⟨"z", "c"⟩]⟩

/-- The world after the provider is built. -/
def world : World := ((Provider.build backend specs).runOn start).2

def listings : Roster.Listings :=
  [(⟨"z", "c"⟩, [⟨"z", "l"⟩]), (⟨"z", "b"⟩, [⟨"z", "k"⟩]),
    (⟨"z", "a"⟩, [⟨"z", "i"⟩, ⟨"z", "j"⟩])]

def node (providerId : String) : Node := ⟨providerId, providerId, {}, .empty⟩

/-- Nodes of another cloud, of no group and of an unconfigured one, and after these the nodes of
both groups. -/
def nodes : List Node :=
  [node "gce://p/z/i", node "aws://z/stray", node "aws://z/l", node "aws://z/j", node "aws://z/k",
    node "aws://z/i"]

theorem built : (Provider.build backend specs).runOn start = (.ok provider, world) :=
  Prod.ext (by decide +kernel) (by rw [world])

theorem lists : Roster.Lists (backend.members? world) (backend.roster world) listings := by
  rw [Roster.Lists]
  decide +kernel

end Strangers

open Strangers in
theorem Provider.candidates_sightings_strangers :
    Provider.Sightings (provider.listedOwner? listings) provider.groups [] nodes
        [⟨group "a", node "aws://z/j"⟩, ⟨group "b", node "aws://z/k"⟩] ∧
      ((provider.candidates (nodes ++ [node "aws://z"])).runOn world).1 =
        .error (.format (.providerId "aws://<zone>/<name>" "aws://z")) := by
  have readable : ∀ node ∈ nodes, provider.Readable node := by
    simp only [Provider.Readable]
    decide +kernel
  have search := Provider.candidates_sightings built ⟨rfl, fun _ _ => rfl⟩ lists
    (by decide +kernel) (.inl (by decide +kernel))
  constructor
  · obtain ⟨found, run, sightings, -⟩ := (search nodes).1 readable
    have seen : ((provider.candidates nodes).runOn world).1 =
        .ok [⟨group "a", node "aws://z/j"⟩, ⟨group "b", node "aws://z/k"⟩] := by
      decide +kernel
    cases run.symm.trans seen
    exact sightings
  · exact (search _).2 nodes (node "aws://z") [] _ rfl readable (by decide +kernel)
      (by decide +kernel)

end Autoscaler
