import Autoscaler.Proofs.Fleet.Steady

/-!
# Discovery and the order of nodes

A provider that looks for candidates asks about one node after the other. The first node that its
roster does not know, although it lies in the zone of a registered group, makes it rebuild the
roster, and all nodes from there on are judged by what the listings show. Nodes before that one
are judged by what the roster has known before: it may not know an instance that lives outside
the zones of the groups, and it may know a group that no longer lists the instance. So the groups
that are found can depend on the order of the nodes, and exactly when they do is said here.
-/

namespace Autoscaler

/-- How the items of a list are resolved one after the other: by what is known before up to the
first item that forces a rebuild, and by what is listed from that item on. -/
structure Discovery (α β : Type) where
  known : α → Option β
  listed : α → Option β
  forces : α → Bool
  unknown : ∀ a, forces a → known a = none

namespace Discovery

variable {α β : Type} {d : Discovery α β} {items items' : List α} {b : β}

/-- Going through the items, one of them is resolved so. -/
def Finds (d : Discovery α β) : List α → β → Prop
  | [], _ => False
  | a :: items, b =>
      if d.forces a then ∃ a' ∈ a :: items, d.listed a' = some b
      else d.known a = some b ∨ d.Finds items b

/-- Some item is resolved so wherever it stands. -/
def Anchors (d : Discovery α β) (items : List α) (b : β) : Prop :=
  ∃ a ∈ items, d.listed a = some b ∧ (d.forces a ∨ d.known a = some b)

/-- If an item forces a rebuild, then all that items can be resolved to is found in every
order. -/
def Orderless (d : Discovery α β) (items : List α) : Prop :=
  (∃ a ∈ items, d.forces a) →
    ∀ a ∈ items, ∀ b, d.known a = some b ∨ d.listed a = some b → d.Anchors items b

theorem Anchors.perm (same : items.Perm items') (anchors : d.Anchors items b) :
    d.Anchors items' b := by
  obtain ⟨a, inside, resolved⟩ := anchors
  exact ⟨a, same.mem_iff.mp inside, resolved⟩

theorem Anchors.finds (anchors : d.Anchors items b) : d.Finds items b := by
  induction items with
  | nil =>
      obtain ⟨a, inside, -⟩ := anchors
      cases inside
  | cons a items ih =>
      obtain ⟨a', inside, listed, settled⟩ := anchors
      rw [Finds]
      split
      · exact ⟨a', inside, listed⟩
      · next quiet =>
          obtain rfl | later := List.mem_cons.mp inside
          · exact .inl (settled.resolve_left quiet)
          · exact .inr (ih ⟨a', later, listed, settled⟩)

theorem Finds.resolved (finds : d.Finds items b) :
    ∃ a ∈ items, d.known a = some b ∨ d.listed a = some b := by
  induction items with
  | nil => exact finds.elim
  | cons a items ih =>
      rw [Finds] at finds
      split at finds
      · obtain ⟨a', inside, listed⟩ := finds
        exact ⟨a', inside, .inr listed⟩
      · obtain known | later := finds
        · exact ⟨a, List.mem_cons_self, .inl known⟩
        · obtain ⟨a', inside, resolved⟩ := ih later
          exact ⟨a', List.mem_cons_of_mem _ inside, resolved⟩

/-- Items that force nothing are resolved as they are known. -/
theorem finds_append (quiet : ∀ a ∈ items, d.forces a = false) :
    d.Finds (items ++ items') b ↔ (∃ a ∈ items, d.known a = some b) ∨ d.Finds items' b := by
  induction items with
  | nil => simp
  | cons a items ih =>
      obtain ⟨here, others⟩ := List.forall_mem_cons.mp quiet
      rw [List.cons_append, Finds, if_neg (by simp [here]), ih others]
      simp [or_assoc]

theorem finds_of_quiet (quiet : ∀ a ∈ items, d.forces a = false) :
    d.Finds items b ↔ ∃ a ∈ items, d.known a = some b := by
  rw [← List.append_nil items, finds_append quiet]
  simp [Finds]

/-- Items that force a rebuild, with others before and behind them. -/
theorem finds_around {forcing : List α} (quiet : ∀ a ∈ items, d.forces a = false)
    (moves : ∀ a ∈ forcing, d.forces a) (some_moves : forcing ≠ []) :
    d.Finds (items ++ (forcing ++ items')) b ↔
      (∃ a ∈ items, d.known a = some b) ∨ ∃ a ∈ forcing ++ items', d.listed a = some b := by
  obtain ⟨a, others, rfl⟩ := List.exists_cons_of_ne_nil some_moves
  rw [finds_append quiet, List.cons_append, Finds, if_pos (moves a List.mem_cons_self)]

theorem Orderless.perm (orderless : d.Orderless items) (same : items.Perm items') :
    d.Finds items' b ↔ d.Finds items b := by
  by_cases forced : ∃ a ∈ items, d.forces a
  · have anchored {items'' : List α} (same' : items.Perm items'') (finds : d.Finds items'' b) :
        d.Anchors items b := by
      obtain ⟨a, inside, resolved⟩ := finds.resolved
      exact orderless forced a (same'.mem_iff.mpr inside) b resolved
    exact ⟨fun finds => (anchored same finds).finds,
      fun finds => ((anchored (.refl _) finds).perm same).finds⟩
  · have quiet : ∀ a ∈ items, d.forces a = false := by simpa using forced
    have quiet' : ∀ a ∈ items', d.forces a = false := fun a inside =>
      quiet a (same.mem_iff.mpr inside)
    simp only [finds_of_quiet quiet, finds_of_quiet quiet', same.mem_iff]

/-- Where nothing else is listed than what is known, that is found. -/
theorem finds_of_settled (settled : ∀ a, d.known a = d.listed a) :
    d.Finds items b ↔ ∃ a ∈ items, d.listed a = some b := by
  induction items with
  | nil => simp [Finds]
  | cons a items ih =>
      rw [Finds]
      split
      · exact .rfl
      · rw [ih, settled, List.exists_mem_cons_iff]

/-- What is found is the same in every order exactly if the list is orderless. Three orders tell
that: the items that force a rebuild stand last, or first, or only those items stand before them
that are listed as what is looked for. -/
theorem finds_perm_iff (d : Discovery α β) (items : List α) :
    (∀ items', items.Perm items' → ∀ b, d.Finds items' b ↔ d.Finds items b) ↔
      d.Orderless items := by
  classical
  refine ⟨?_, fun orderless items' same b => orderless.perm same⟩
  rintro always forced a inside b resolved
  let forcing := items.filter d.forces
  let quiet := items.filter fun a => !d.forces a
  have moves : ∀ a, a ∈ forcing ↔ a ∈ items ∧ d.forces a := fun _ => List.mem_filter
  have still : ∀ a, a ∈ quiet ↔ a ∈ items ∧ d.forces a = false := by simp [quiet]
  have some_moves : forcing ≠ [] := by
    obtain ⟨a₀, inside₀, forces₀⟩ := forced
    exact List.ne_nil_of_mem ((moves a₀).mpr ⟨inside₀, forces₀⟩)
  have parted : items.Perm (forcing ++ quiet) := (List.filter_append_perm _ _).symm
  have order (before behind : List α) (parts : quiet.Perm (before ++ behind)) :
      d.Finds items b ↔
        (∃ a ∈ before, d.known a = some b) ∨ ∃ a ∈ forcing ++ behind, d.listed a = some b := by
    have same : items.Perm (before ++ (forcing ++ behind)) :=
      (parted.trans (parts.append_left _)).trans (List.perm_append_comm_assoc _ _ _)
    rw [← always _ same b, finds_around _ (fun a inside => ((moves a).mp inside).2) some_moves]
    intro a inside
    exact ((still a).mp (parts.mem_iff.mpr (List.mem_append_left _ inside))).2
  have found : d.Finds items b := by
    obtain known | listed := resolved
    · have silent : d.forces a = false := by
        by_contra forces
        rw [d.unknown a (by simpa using forces)] at known
        cases known
      exact (order quiet [] (by simp)).mpr (.inl ⟨a, (still a).mpr ⟨inside, silent⟩, known⟩)
    · exact (order [] quiet (.refl _)).mpr (.inr ⟨a, parted.mem_iff.mp inside, listed⟩)
  obtain ⟨a', before, known⟩ | ⟨a', behind, listed⟩ :=
    (order _ _ (List.filter_append_perm (d.listed · = some b) quiet).symm).mp found
  · obtain ⟨silent, listed⟩ := List.mem_filter.mp before
    exact ⟨a', ((still a').mp silent).1, by simpa using listed, .inr known⟩
  · obtain forces | other := List.mem_append.mp behind
    · obtain ⟨inside', forces⟩ := (moves a').mp forces
      exact ⟨a', inside', listed, .inl forces⟩
    · have unlisted := (List.mem_filter.mp other).2
      simp [listed] at unlisted

end Discovery

namespace Roster

variable {told : GroupId → Option (List InstanceRef)} {roster after : Roster}
  {listings : Listings} {member : InstanceRef}

/-- Whether a question about an instance makes a rebuild necessary. -/
def misses (roster : Roster) (member : InstanceRef) : Bool :=
  (roster.owner? member).isNone && roster.covers member

/-- The roster after a question about an instance, if rebuilds read these listings. -/
def asked (roster : Roster) (listings : Listings) (member : InstanceRef) : Roster :=
  if roster.misses member then roster.rebuilt listings else roster

/-- An answer is what the roster knows that it leaves. -/
theorem Answer.asked (lists : Lists told roster listings) {owner : Option GroupId}
    (answer : Answer (Lists told roster) roster member (.ok owner) after) :
    after = roster.asked listings member ∧ owner = after.owner? member := by
  cases answer with
  | known group owned => simp [Roster.asked, misses, owned]
  | outside unknown uncovered => simp [Roster.asked, misses, unknown, uncovered]
  | rebuilt unknown covered listings' complete owner found =>
      cases lists.steady complete
      simp [Roster.asked, misses, unknown, covered, found]

theorem asked_groups (roster : Roster) (listings : Listings) (member : InstanceRef) :
    (roster.asked listings member).groups = roster.groups := by
  rw [asked]
  split <;> rfl

end Roster

namespace Backend

variable {b : Backend} {w w' : World} {listings : Roster.Listings} {member : InstanceRef}

/-- No later call to the control plane fails. -/
def Open : Backend → World → Prop
  | aws cloud _, w => (w.aws.get cloud).Healthy
  | gce _ _ cloud _, w => (w.gce.get cloud).Healthy

theorem Open.observed (opened : b.Open w) (seen : World.Observed w w') : b.Open w' := by
  cases b with
  | aws cloud roster => exact (seen.aws cloud).healthy opened
  | gce project polling cloud roster => exact (seen.gce cloud).healthy opened

/-- Where all groups on the roster have listings, every question about an owner is answered. -/
theorem owner?_ok (opened : b.Open w) (lists : Roster.Lists (b.members? w) (b.roster w) listings)
    (member : InstanceRef) : ∃ owner, ((b.owner? member).runOn w).1 = .ok owner := by
  cases b with
  | aws cloud roster =>
      have healthy : (w.awsSite cloud roster).cloud.Healthy := opened
      exact Aws.Cloud.serves_listMembers.lookup_ok healthy lists member
  | gce project polling cloud roster =>
      have healthy : (w.gceSite cloud roster).cloud.Healthy := opened
      exact (Gce.Cloud.serves_listMembers project).lookup_ok healthy lists member

theorem owner?_asked (lists : Roster.Lists (b.members? w) (b.roster w) listings)
    {owner : Option GroupId} (run : (b.owner? member).runOn w = (.ok owner, w')) :
    b.Consulted w w' ∧ b.roster w' = (b.roster w).asked listings member ∧
      owner = (b.roster w').owner? member := by
  obtain ⟨consulted, answer⟩ := owner?_cases run
  exact ⟨consulted, answer.asked lists⟩

end Backend

namespace Provider

variable {p : Provider} {node : Node} {nodes : List Node} {w w' : World}
  {listings : Roster.Listings}

/-- The instance that a node of the provider's cloud is; none for nodes of other clouds. -/
def member? (p : Provider) (node : Node) : Except CloudError (Option InstanceRef) :=
  if node.scheme? = some p.name then
    ((p.backend.readProviderId node.providerId).mapError .format).map some
  else .ok none

/-- The group of a node is that of the owner of its instance. -/
theorem groupOf?_eq (p : Provider) (node : Node) :
    p.groupOf? node = Action.ofExcept (p.member? node) >>= fun
      | none => return none
      | some member => return (← p.backend.owner? member).bind p.group? := by
  rw [groupOf?, member?]
  split
  · cases p.backend.readProviderId node.providerId <;> rfl
  · rfl

/-- The same, if the id of the node can be read. -/
def ref? (p : Provider) (node : Node) : Option InstanceRef := (p.member? node).toOption.join

/-- The group of a node as a roster knows it. -/
def named (p : Provider) (roster : Roster) (node : Node) : Option NodeGroup :=
  (p.ref? node).bind fun member => (roster.owner? member).bind p.group?

theorem ref?_of_member? {member : Option InstanceRef} (read : p.member? node = .ok member) :
    p.ref? node = member := by
  rw [ref?, read]
  rfl

theorem named_of_misses {roster : Roster} (misses : (p.ref? node).any roster.misses) :
    p.named roster node = none := by
  cases read : p.ref? node with
  | none => simp [named, read]
  | some member =>
      rw [read, Option.any_some, Roster.misses, Bool.and_eq_true, Option.isNone_iff_eq_none]
        at misses
      simp [named, read, misses.1]

/-- How nodes are resolved: from a roster, and from the same after a rebuild. -/
def discovery (p : Provider) (roster : Roster) (listings : Roster.Listings) :
    Discovery Node NodeGroup where
  known := p.named roster
  listed := p.named (roster.rebuilt listings)
  forces node := (p.ref? node).any roster.misses
  unknown _ := named_of_misses

/-- The roster after a question about a node. -/
def askedAbout (p : Provider) (roster : Roster) (listings : Roster.Listings) (node : Node) :
    Roster :=
  (p.ref? node).elim roster (roster.asked listings)

theorem askedAbout_eq (p : Provider) (roster : Roster) (listings : Roster.Listings) (node : Node) :
    p.askedAbout roster listings node =
      if (p.discovery roster listings).forces node then roster.rebuilt listings else roster := by
  change _ = if (p.ref? node).any roster.misses then _ else _
  rw [askedAbout]
  cases p.ref? node <;> rfl

/-- A group that a node is in is what the provider has under its identifier. -/
theorem group?_of_named {roster : Roster} {g : NodeGroup} (named : p.named roster node = some g) :
    p.group? g.id = some g := by
  obtain ⟨member, -, owned⟩ := Option.bind_eq_some_iff.mp named
  obtain ⟨id, -, found⟩ := Option.bind_eq_some_iff.mp owned
  have same : g.id = id := by simpa using List.find?_some found
  rwa [same]

theorem group?_of_finds {roster : Roster} {g : NodeGroup}
    (finds : (p.discovery roster listings).Finds nodes g) : p.group? g.id = some g := by
  obtain ⟨node, -, known | listed⟩ := finds.resolved
  · exact group?_of_named known
  · exact group?_of_named listed

/-- One node is judged by the roster that the question about it leaves. -/
theorem groupOf?_named
    (lists : Roster.Lists (p.backend.members? w) (p.backend.roster w) listings)
    {g : Option NodeGroup} (run : (p.groupOf? node).runOn w = (.ok g, w')) :
    p.backend.Consulted w w' ∧ g = p.named (p.backend.roster w') node ∧
      p.backend.roster w' = p.askedAbout (p.backend.roster w) listings node := by
  rw [groupOf?_eq] at run
  obtain ⟨member, m, read, asked⟩ := Action.bind_ok_cases run
  rw [Action.runOn_ofExcept, Prod.mk.injEq] at read
  obtain ⟨read, rfl⟩ := read
  rw [named, askedAbout, ref?_of_member? read]
  cases member with
  | none =>
      cases asked
      exact ⟨refl_of p.backend.Consulted w, rfl, rfl⟩
  | some member =>
      obtain ⟨owner, m, looked, told⟩ := Action.bind_ok_cases asked
      obtain ⟨consulted, left, rfl⟩ := Backend.owner?_asked lists looked
      cases told
      exact ⟨consulted, rfl, left⟩

/-- What is found among nodes is what the first of them is in, once it was asked about, and what
is found among the others from there on. -/
theorem finds_cons (p : Provider) (roster : Roster) (listings : Roster.Listings) (node : Node)
    (nodes : List Node) (g : NodeGroup) :
    (p.discovery roster listings).Finds (node :: nodes) g ↔
      p.named (p.askedAbout roster listings node) node = some g ∨
        (p.discovery (p.askedAbout roster listings node) listings).Finds nodes g := by
  rw [askedAbout_eq, Discovery.Finds]
  split
  · -- After one rebuild another one teaches the roster nothing.
    rw [Discovery.finds_of_settled fun _ => rfl, List.exists_mem_cons_iff]
    exact .rfl
  · exact .rfl

theorem groupOf?_ok (opened : p.backend.Open w)
    (lists : Roster.Lists (p.backend.members? w) (p.backend.roster w) listings)
    (readable : (p.member? node).isOk) :
    ∃ group w', (p.groupOf? node).runOn w = (.ok group, w') := by
  rw [groupOf?_eq]
  cases read : p.member? node with
  | error e =>
      rw [read] at readable
      cases readable
  | ok member =>
      rw [Action.runOn_bind_ok (Action.runOn_ofExcept _ _)]
      cases member with
      | none => exact ⟨_, _, rfl⟩
      | some member =>
          obtain ⟨owner, told⟩ := Backend.owner?_ok opened lists member
          rcases looked : (p.backend.owner? member).runOn w with ⟨r, m⟩
          rw [looked] at told
          subst told
          exact ⟨_, _, by rw [Action.runOn_bind_ok looked, Action.runOn_pure]⟩

theorem readable_of_groupOf? {group : Option NodeGroup}
    (run : (p.groupOf? node).runOn w = (.ok group, w')) : (p.member? node).isOk := by
  rw [groupOf?_eq] at run
  obtain ⟨member, m, read, -⟩ := Action.bind_ok_cases run
  rw [Action.runOn_ofExcept, Prod.mk.injEq] at read
  rw [read.1]
  rfl

/-! ## Candidates -/

/-- The groups among nodes that were not seen before are those that are found among them. -/
theorem candidatesBeyond_finds
    (lists : Roster.Lists (p.backend.members? w) (p.backend.roster w) listings)
    {seen : List GroupId} {found : List Candidate}
    (run : (p.candidatesBeyond seen nodes).runOn w = (.ok found, w')) (g : NodeGroup) :
    g ∈ found.map Candidate.group ↔
      g.id ∉ seen ∧ (p.discovery (p.backend.roster w) listings).Finds nodes g := by
  induction nodes generalizing seen found w with
  | nil =>
      cases run
      simp [Discovery.Finds]
  | cons node nodes ih =>
      obtain ⟨group, m, asked, rest⟩ := Action.bind_ok_cases run
      obtain ⟨consulted, judged, left⟩ := groupOf?_named lists asked
      rw [finds_cons, ← left, ← judged]
      replace lists : Roster.Lists (p.backend.members? m) (p.backend.roster m) listings := by
        rwa [consulted.lists]
      cases group with
      | none =>
          rw [ih lists rest]
          simp
      | some group =>
          have own := group?_of_named judged.symm
          dsimp only at rest
          split at rest
          · next before =>
              rw [ih lists rest, Option.some.injEq]
              constructor
              · exact fun ⟨fresh, finds⟩ => ⟨fresh, .inr finds⟩
              · rintro ⟨fresh, rfl | finds⟩
                · exact absurd before fresh
                · exact ⟨fresh, finds⟩
          · next fresh =>
              obtain ⟨others, m', more, told⟩ := Action.bind_ok_cases rest
              cases told
              rw [List.map_cons, List.mem_cons, ih lists more, List.mem_cons, not_or,
                Option.some.injEq]
              constructor
              · rintro (rfl | ⟨⟨-, fresh'⟩, finds⟩)
                · exact ⟨fresh, .inl rfl⟩
                · exact ⟨fresh', .inr finds⟩
              · rintro ⟨fresh', rfl | finds⟩
                · exact .inl rfl
                · by_cases same : g.id = group.id
                  · have here := group?_of_finds finds
                    rw [same, own] at here
                    exact .inl (Option.some.inj here).symm
                  · exact .inr ⟨⟨same, fresh'⟩, finds⟩

/-- Looking for candidates succeeds if the ids of all nodes can be read. -/
theorem candidatesBeyond_ok (opened : p.backend.Open w)
    (lists : Roster.Lists (p.backend.members? w) (p.backend.roster w) listings)
    (readable : ∀ node ∈ nodes, (p.member? node).isOk) (seen : List GroupId) :
    ∃ found w', (p.candidatesBeyond seen nodes).runOn w = (.ok found, w') := by
  induction nodes generalizing seen w with
  | nil => exact ⟨_, _, rfl⟩
  | cons node nodes ih =>
      obtain ⟨here, others⟩ := List.forall_mem_cons.mp readable
      obtain ⟨group, m, asked⟩ := groupOf?_ok opened lists here
      obtain ⟨consulted, -, -⟩ := groupOf?_named lists asked
      replace lists : Roster.Lists (p.backend.members? m) (p.backend.roster m) listings := by
        rwa [consulted.lists]
      have later := ih (opened.observed consulted.observed) lists others
      rw [candidatesBeyond, Action.runOn_bind_ok asked]
      cases group with
      | none => exact later seen
      | some group =>
          dsimp only
          split
          · exact later seen
          · obtain ⟨found, m', more⟩ := later (group.id :: seen)
            exact ⟨_, _, by rw [Action.runOn_bind_ok more, Action.runOn_pure]⟩

theorem readable_of_candidatesBeyond {seen : List GroupId} {found : List Candidate}
    (run : (p.candidatesBeyond seen nodes).runOn w = (.ok found, w')) :
    ∀ node ∈ nodes, (p.member? node).isOk := by
  induction nodes generalizing seen found w with
  | nil => simp
  | cons node nodes ih =>
      obtain ⟨group, m, asked, rest⟩ := Action.bind_ok_cases run
      refine List.forall_mem_cons.mpr ⟨readable_of_groupOf? asked, ?_⟩
      cases group with
      | none => exact ih rest
      | some group =>
          dsimp only at rest
          split at rest
          · exact ih rest
          · obtain ⟨others, m', more, told⟩ := Action.bind_ok_cases rest
            cases told
            exact ih more

/-- Where discovery succeeds in one order of the nodes and no listing can fail, it succeeds in
every order. It finds the same groups in every order exactly if the nodes are orderless: if one of
them makes the backend rebuild its roster, then every group that the roster or the listings have
for a node is also the listed group of a node that forces a rebuild, or of one for which roster
and listings agree. -/
theorem candidates_perm (opened : p.backend.Open w)
    (lists : Roster.Lists (p.backend.members? w) (p.backend.roster w) listings)
    {found : List Candidate} (run : (p.candidates nodes).runOn w = (.ok found, w')) :
    (∀ nodes', nodes.Perm nodes' → ∃ found' m, (p.candidates nodes').runOn w = (.ok found', m)) ∧
      ((∀ nodes' found' m, nodes.Perm nodes' → (p.candidates nodes').runOn w = (.ok found', m) →
          ∀ g, g ∈ found'.map Candidate.group ↔ g ∈ found.map Candidate.group) ↔
        (p.discovery (p.backend.roster w) listings).Orderless nodes) := by
  have finds {nodes' : List Node} {found' : List Candidate} {m : World}
      (run : (p.candidates nodes').runOn w = (.ok found', m)) (g : NodeGroup) :
      g ∈ found'.map Candidate.group ↔
        (p.discovery (p.backend.roster w) listings).Finds nodes' g := by
    simpa using candidatesBeyond_finds lists run g
  have succeeds (nodes' : List Node) (same : nodes.Perm nodes') :
      ∃ found' m, (p.candidates nodes').runOn w = (.ok found', m) := by
    have readable := readable_of_candidatesBeyond run
    exact candidatesBeyond_ok opened lists
      (fun node inside => readable node (same.mem_iff.mpr inside)) []
  refine ⟨succeeds, ?_⟩
  rw [← Discovery.finds_perm_iff]
  constructor
  · intro always nodes' same g
    obtain ⟨found', m, run'⟩ := succeeds nodes' same
    rw [← finds run', ← finds run]
    exact always nodes' found' m same run' g
  · intro always nodes' found' m same run' g
    rw [finds run', finds run]
    exact always nodes' same g

/-- Where the roster knows nothing but what is listed, and all that is listed lies in the zones of
the groups, the order of nodes does not matter. -/
theorem orderless_of_zones {roster : Roster}
    (right : ∀ member group, roster.owner? member = some group →
      (roster.rebuilt listings).owner? member = some group)
    (zones : ∀ member group, (roster.rebuilt listings).owner? member = some group →
      roster.covers member) (nodes : List Node) :
    (p.discovery roster listings).Orderless nodes := by
  rintro - node inside g resolved
  have agrees (known : p.named roster node = some g) :
      p.named (roster.rebuilt listings) node = some g := by
    obtain ⟨member, read, owned⟩ := Option.bind_eq_some_iff.mp known
    obtain ⟨id, owned, found⟩ := Option.bind_eq_some_iff.mp owned
    simp [named, read, right member id owned, found]
  obtain known | listed := resolved
  · exact ⟨node, inside, agrees known, .inr known⟩
  · refine ⟨node, inside, listed, ?_⟩
    obtain ⟨member, read, owned⟩ := Option.bind_eq_some_iff.mp listed
    obtain ⟨id, owned, found⟩ := Option.bind_eq_some_iff.mp owned
    cases known : roster.owner? member with
    | none =>
        refine .inl ?_
        simp [discovery, read, Roster.misses, known, zones member id owned]
    | some id' =>
        refine .inr ?_
        have same := right member id' known
        rw [owned] at same
        cases same
        simp [discovery, named, read, known, found]

end Provider

/-!
## An instance outside its zone

Two auto scaling groups of one zone, one of which has an instance in another zone, and a roster
that has yet to be built.
-/

namespace Abroad

def group (name : String) : NodeGroup := ⟨.aws 0 0, ⟨"z", name⟩, .small 1 5⟩

def provider : Provider := ⟨.aws 0 0, [group "a", group "b"]⟩

def cloud : Aws.Cloud where
  groups :=
    { entries := [("a", { desired := 1, instances := [⟨"i", "z"⟩] }),
        ("b", { desired := 1, instances := [⟨"j", "y"⟩] })]
      nodup := by decide }

def world : World where
  aws := ⟨[cloud]⟩
  rosters := ⟨[(({} : Roster).register ⟨"z", "a"⟩).register ⟨"z", "b"⟩]⟩

def listings : Roster.Listings :=
  [(⟨"z", "a"⟩, [⟨"z", "i"⟩]), (⟨"z", "b"⟩, [⟨"y", "j"⟩])]

def native : Node := ⟨"i", "aws://z/i", {}, .empty⟩

def foreign : Node := ⟨"j", "aws://y/j", {}, .empty⟩

/-- The world after a search among nodes. -/
def after (nodes : List Node) : World := ((provider.candidates nodes).runOn world).2

theorem opened : provider.backend.Open world := ⟨rfl, fun _ _ => rfl⟩

theorem lists : Roster.Lists (provider.backend.members? world) (provider.backend.roster world)
    listings := by
  rw [Roster.Lists]
  decide +kernel

theorem found_native_last : (provider.candidates [foreign, native]).runOn world =
    (.ok [⟨group "a", native⟩], after [foreign, native]) :=
  Prod.ext (by decide +kernel) (by rw [after])

theorem found_native_first : (provider.candidates [native, foreign]).runOn world =
    (.ok [⟨group "a", native⟩, ⟨group "b", foreign⟩], after [native, foreign]) :=
  Prod.ext (by decide +kernel) (by rw [after])

end Abroad

open Abroad in
theorem Provider.candidates_perm_abroad :
    ¬ (provider.discovery (provider.backend.roster world) listings).Orderless [foreign, native] := by
  intro orderless
  obtain ⟨-, exactly⟩ := Provider.candidates_perm opened lists found_native_last
  have same := exactly.mpr orderless _ _ _ (.swap _ _ _) found_native_first (group "b")
  exact absurd (same.mp (by decide)) (by decide)

/-- Two orders of the same nodes can lead to different groups. -/
theorem Provider.candidates_order_matters :
    ¬ ∀ (p : Provider) (w m m' : World) (listings : Roster.Listings) (nodes nodes' : List Node)
        (found found' : List Candidate), p.backend.Open w →
      Roster.Lists (p.backend.members? w) (p.backend.roster w) listings → nodes.Perm nodes' →
      (p.candidates nodes).runOn w = (.ok found, m) →
      (p.candidates nodes').runOn w = (.ok found', m') →
      ∀ g, g ∈ found'.map Candidate.group ↔ g ∈ found.map Candidate.group := by
  intro claim
  have same := claim _ _ _ _ _ _ _ _ _ Abroad.opened Abroad.lists (.swap _ _ _)
    Abroad.found_native_last Abroad.found_native_first (Abroad.group "b")
  exact absurd (same.mp (by decide)) (by decide)

end Autoscaler
