import Autoscaler.Proofs.Fleet.Counterparts

/-!
# Which texts name groups

On an auto scaling cloud a group is named by its zone and its name with a slash between them. On a
cloud of managed instance groups it is named by the path of its url, alone or behind one of two
service addresses, and only groups of the own project are. No other text names a group, and two
texts name the same one if and only if they are the same but for the service address. So a group
can be written into a specification by its url, and what is built from the specification is the
group with its bounds and the same url.
-/

namespace Autoscaler

/-- Zone and name can stand between slashes. -/
structure GroupId.Plain (id : GroupId) : Prop where
  zone : Text.Plain id.zone
  name : Text.Plain id.name

theorem Aws.readGroupId_eq_ok_iff {identifier : String} {id : GroupId} :
    readGroupId identifier = .ok id ↔ id.Plain ∧ identifier = id.zone ++ "/" ++ id.name := by
  have written : identifier = id.zone ++ "/" ++ id.name ↔
      identifier.toList = id.zone.toList ++ '/' :: id.name.toList := by
    simp [← String.toList_inj]
  rw [written, readGroupId]
  constructor
  · intro read
    split at read
    · next zone name found =>
      cases read
      obtain ⟨⟨plain, plain'⟩, pieces⟩ := Text.slashPair?_eq_some_iff.mp found
      exact ⟨⟨plain, plain'⟩, pieces⟩
    · cases read
  · rintro ⟨plain, pieces⟩
    rw [Text.slashPair?_eq_some_iff.mpr ⟨⟨plain.zone, plain.name⟩, pieces⟩]

namespace Backend

/-- What may stand in front of the path of a group. -/
def leads : Backend → List String
  | aws .. => [""]
  | gce .. => Gce.leads

/-- The path of a group. -/
def path : Backend → GroupId → String
  | aws .., id => id.zone ++ "/" ++ id.name
  | gce project .., id =>
      "projects/" ++ project ++ "/zones/" ++ id.zone ++ "/instanceGroups/" ++ id.name

/-- The text names this group to the backend. -/
structure Denotes (b : Backend) (identifier : String) (id : GroupId) : Prop where
  project : b.Plain
  plain : id.Plain
  text : ∃ lead ∈ b.leads, identifier = lead ++ b.path id

/-- The texts are the same but for what stands in front of the path. -/
def SamePath (b : Backend) (identifier identifier' : String) : Prop :=
  ∃ path, ∃ lead ∈ b.leads, ∃ lead' ∈ b.leads, identifier = lead ++ path ∧
    identifier' = lead' ++ path

variable {b : Backend} {identifier identifier' rest : String} {id id' : GroupId}

theorem path_toList_gce (project : String) (polling : Gce.Polling) (cloud roster : Nat)
    (id : GroupId) : ((gce project polling cloud roster).path id).toList =
      Text.join '/' (Gce.segments "instanceGroups" project id.zone id.name) := by
  simp [path, Gce.segments, Text.join]

/-! ## Texts that are read -/

/-- Exactly the texts that name a group are read. -/
theorem readGroupId_eq_ok_iff : b.readGroupId identifier = .ok id ↔ b.Denotes identifier id := by
  cases b with
  | aws cloud roster =>
      rw [readGroupId, Aws.readGroupId_eq_ok_iff]
      constructor
      · rintro ⟨plain, rfl⟩
        exact ⟨trivial, plain, "", List.mem_cons_self, by simp [path]⟩
      · rintro ⟨-, plain, lead, inside, rfl⟩
        obtain rfl := List.mem_singleton.mp inside
        exact ⟨plain, by simp [path]⟩
  | gce project polling cloud roster =>
      rw [readGroupId, Gce.readGroupId_eq_ok_iff, Gce.resource?_eq_some_iff (by decide)]
      constructor
      · rintro ⟨⟨plain, zone, name⟩, lead, inside, written⟩
        refine ⟨plain, ⟨zone, name⟩, lead, inside, ?_⟩
        rw [← String.toList_inj, String.toList_append, path_toList_gce, written]
      · rintro ⟨plain, ⟨zone, name⟩, lead, inside, rfl⟩
        refine ⟨⟨plain, zone, name⟩, lead, inside, ?_⟩
        rw [String.toList_append, path_toList_gce]

/-- What stands behind something that may stand in front names the same group. -/
theorem Denotes.of_lead {lead : String} (denotes : b.Denotes (lead ++ rest) id)
    (inside : lead ∈ b.leads) : b.Denotes rest id := by
  obtain ⟨project, plain, lead', inside', same⟩ := denotes
  cases b with
  | aws cloud roster =>
      obtain rfl := List.mem_singleton.mp inside
      obtain rfl := List.mem_singleton.mp inside'
      exact ⟨project, plain, "", List.mem_cons_self, by simpa using same⟩
  | gce project polling cloud roster =>
      obtain rfl | service := List.mem_cons.mp inside
      · exact ⟨project, plain, lead', inside', by simpa using same⟩
      · -- Two service addresses in a row are no lead, so `rest` has none.
        refine ⟨project, plain, "", List.mem_cons_self, ?_⟩
        have dropped := congrArg (Gce.dropService ·.toList) same
        rw [String.toList_append, String.toList_append, path_toList_gce,
          Gce.dropService_service service, Gce.dropService_lead inside', ← path_toList_gce,
          String.toList_inj] at dropped
        rw [dropped, String.empty_append]

theorem Denotes.unique (denotes : b.Denotes identifier id) (denotes' : b.Denotes identifier id') :
    id = id' := by
  rw [← readGroupId_eq_ok_iff] at denotes denotes'
  exact Except.ok.inj (denotes.symm.trans denotes')

/-- Two texts name the same group if and only if they have the same path. -/
theorem Denotes.same_iff (denotes : b.Denotes identifier id)
    (denotes' : b.Denotes identifier' id') : id = id' ↔ b.SamePath identifier identifier' := by
  constructor
  · rintro rfl
    obtain ⟨-, -, lead, inside, written⟩ := denotes
    obtain ⟨-, -, lead', inside', written'⟩ := denotes'
    exact ⟨_, lead, inside, lead', inside', written, written'⟩
  · rintro ⟨path, lead, inside, lead', inside', rfl, rfl⟩
    exact (denotes.of_lead inside).unique (denotes'.of_lead inside')

/-! ## Urls in specifications -/

/-- The url of a group names it. -/
theorem denotes_groupUrl (plain : b.Plain) (plain' : id.Plain) : b.Denotes (b.groupUrl id) id := by
  cases b with
  | aws cloud roster =>
      refine ⟨plain, plain', "", List.mem_cons_self, ?_⟩
      simp [path, groupUrl, Aws.groupUrl, GroupId.text]
  | gce project polling cloud roster =>
      have service : "https://www.googleapis.com/compute/v1/" ∈ Gce.leads := by simp [Gce.leads]
      refine ⟨plain, plain', _, service, ?_⟩
      simp [path, groupUrl, Gce.groupUrl, Gce.urlBase, ← String.toList_inj, toString]

theorem readGroupId_groupUrl (plain : b.Plain) (plain' : id.Plain) :
    b.readGroupId (b.groupUrl id) = .ok id :=
  readGroupId_eq_ok_iff.mpr (denotes_groupUrl plain plain')

theorem groupUrl_ne_empty (b : Backend) (id : GroupId) : b.groupUrl id ≠ "" := by
  cases b with
  | aws cloud roster => simp [groupUrl, Aws.groupUrl, GroupId.text]
  | gce project polling cloud roster =>
      simp [groupUrl, Gce.groupUrl, Gce.urlBase, toString]

/-- A group that is specified by its url is built with its bounds and has the same url. The texts
that name groups to the backend are those of the grammar, and two of them name one group if and
only if they have the same path. The url of an instance is read as the instance. -/
theorem groupTexts_roundTrip (b : Backend) :
    (∀ (bounds : SizeBounds) (id : GroupId), b.Plain → id.Plain →
        ∃ spec, GroupSpec.parse (GroupSpec.text ⟨bounds, b.groupUrl id⟩) = .ok spec ∧
          NodeGroup.ofSpec b spec = .ok ⟨b, id, bounds⟩ ∧
          NodeGroup.url ⟨b, id, bounds⟩ = b.groupUrl id) ∧
      (∀ identifier id, b.readGroupId identifier = .ok id ↔ b.Denotes identifier id) ∧
      (∀ identifier identifier' id id', b.readGroupId identifier = .ok id →
        b.readGroupId identifier' = .ok id' → (id = id' ↔ b.SamePath identifier identifier')) ∧
      ∀ project zone name, Text.Plain project → Text.Plain zone → Text.Plain name →
        Gce.readInstanceUrl (Gce.instanceUrl project zone name) = .ok ⟨zone, name⟩ := by
  refine ⟨?_, fun _ _ => readGroupId_eq_ok_iff, ?_, ?_⟩
  · intro bounds id plain plain'
    refine ⟨_, GroupSpec.parse_text _ (b.groupUrl_ne_empty id), ?_, rfl⟩
    rw [NodeGroup.ofSpec, readGroupId_groupUrl plain plain']
  · intro identifier identifier' id id' read read'
    exact (readGroupId_eq_ok_iff.mp read).same_iff (readGroupId_eq_ok_iff.mp read')
  · intro project zone name plain plain_zone plain_name
    exact Gce.readInstanceUrl_instanceUrl plain plain_zone plain_name

end Backend

end Autoscaler
