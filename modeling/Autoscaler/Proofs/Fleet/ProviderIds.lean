import Autoscaler.Proofs.Fleet.Counterparts

/-!
# Which texts are provider ids

A provider id is a scheme and, behind it, zone and name of an instance; on a cloud with projects
the project stands between them. Zone and name hold no slash and are not empty. Nothing else is
read, and a project with a slash in it has no ids at all, since the project ends at the first slash.

So an id belongs to one cloud and one instance. Nodes of other clouds are told by what stands before
the first `://` of the id. Every id that is read has the name of its cloud there, and so this filter
loses no node: what passes it without being an id ends the search with the reader's error.
-/

namespace Autoscaler

/-- Zone and name can stand between slashes. -/
structure InstanceRef.Plain (member : InstanceRef) : Prop where
  zone : Text.Plain member.zone
  name : Text.Plain member.name

namespace InstanceRef

variable {scheme id : String} {member member' : InstanceRef}

theorem text_toList (member : InstanceRef) :
    member.text.toList = member.zone.toList ++ '/' :: member.name.toList := by
  simp [text]

theorem slashPair?_text_iff {cs : List Char} :
    Text.slashPair? cs = some (member.zone, member.name) ↔
      member.Plain ∧ cs = member.text.toList := by
  rw [Text.slashPair?_eq_some_iff, text_toList]
  constructor
  · rintro ⟨⟨zone, name⟩, written⟩
    exact ⟨⟨zone, name⟩, written⟩
  · rintro ⟨⟨zone, name⟩, written⟩
    exact ⟨⟨zone, name⟩, written⟩

/-- Different instances are written differently. -/
theorem Plain.eq_of_text (plain : member.Plain) (plain' : member'.Plain)
    (same : member.text = member'.text) : member = member' := by
  have read := slashPair?_text_iff.mpr ⟨plain, rfl⟩
  have read' := slashPair?_text_iff.mpr ⟨plain', rfl⟩
  rw [same, read', Option.some.injEq, Prod.mk.injEq] at read
  obtain ⟨zone, name⟩ := member
  rw [mk.injEq]
  exact ⟨read.1.symm, read.2.symm⟩

/-- Zone and name make the instance. -/
theorem exists_slashPair?_iff {cs : List Char} :
    (∃ zone name, Text.slashPair? cs = some (zone, name) ∧ InstanceRef.mk zone name = member) ↔
      member.Plain ∧ cs = member.text.toList := by
  rw [← slashPair?_text_iff]
  constructor
  · rintro ⟨zone, name, read, rfl⟩
    exact read
  · exact fun read => ⟨member.zone, member.name, read, rfl⟩

theorem ofProviderId_eq_ok_iff :
    ofProviderId scheme id = .ok member ↔ member.Plain ∧ id = scheme ++ "://" ++ member.text := by
  have found : ofProviderId? scheme id.toList = some member ↔
      member.Plain ∧ id = scheme ++ "://" ++ member.text := by
    simp only [ofProviderId?, Option.bind_eq_bind, Option.bind_eq_some_iff,
      Text.after?_eq_some_iff, Prod.exists, Option.some.injEq, exists_slashPair?_iff]
    constructor
    · rintro ⟨_, written, _, rfl, plain, rfl⟩
      exact ⟨plain, String.toList_injective (by simp [written])⟩
    · rintro ⟨plain, rfl⟩
      exact ⟨_, by simp, _, rfl, plain, rfl⟩
  rw [← found, ofProviderId]
  cases ofProviderId? scheme id.toList <;> simp

end InstanceRef

theorem Gce.readProviderId_eq_ok_iff {project id : String} {member : InstanceRef} :
    readProviderId project id = .ok member ↔
      '/' ∉ project.toList ∧ member.Plain ∧ id = "gce://" ++ (project ++ ("/" ++ member.text)) := by
  have found : ofProviderId? project id.toList = some member ↔ '/' ∉ project.toList ∧
      member.Plain ∧ id = "gce://" ++ (project ++ ("/" ++ member.text)) := by
    simp only [ofProviderId?, Option.bind_eq_bind, Option.bind_eq_some_iff,
      Text.after?_eq_some_iff, Text.cut?_eq_some_iff, Prod.exists, Option.ite_none_right_eq_some,
      Option.some.injEq, InstanceRef.exists_slashPair?_iff]
    constructor
    · rintro ⟨_, written, _, _, ⟨rfl, clear⟩, rfl, plain, rfl⟩
      refine ⟨by simpa using clear, plain, String.toList_injective ?_⟩
      simp [written]
    · rintro ⟨clear, plain, rfl⟩
      exact ⟨_, by simp, project.toList, member.text.toList, ⟨rfl, clear⟩, String.ofList_toList,
        plain, rfl⟩
  rw [← found, readProviderId]
  cases ofProviderId? project id.toList <;> simp

namespace Backend

/-- The project, if there is one, holds no slash. -/
def Undivided : Backend → Prop
  | aws .. => True
  | gce project .. => '/' ∉ project.toList

/-- The id of an instance, as the cloud of the backend writes it. -/
structure Identifies (b : Backend) (id : String) (member : InstanceRef) : Prop where
  project : b.Undivided
  plain : member.Plain
  text : id = b.idOf member.text

/-- What a reader says of a text that is no id; it shows how one is written. -/
def idError (b : Backend) (id : String) : FormatError := .providerId (b.idOf "<zone>/<name>") id

variable {b b' : Backend} {id id' : String} {member member' : InstanceRef}

theorem readProviderId_eq_ok_iff : b.readProviderId id = .ok member ↔ b.Identifies id member := by
  cases b with
  | aws cloud roster =>
      rw [readProviderId, Aws.readProviderId, InstanceRef.ofProviderId_eq_ok_iff]
      constructor
      · rintro ⟨plain, text⟩
        exact ⟨trivial, plain, text⟩
      · rintro ⟨-, plain, text⟩
        exact ⟨plain, text⟩
  | gce project polling cloud roster =>
      rw [readProviderId, Gce.readProviderId_eq_ok_iff]
      constructor
      · rintro ⟨undivided, plain, text⟩
        exact ⟨undivided, plain, text⟩
      · rintro ⟨undivided, plain, text⟩
        exact ⟨undivided, plain, text⟩

theorem eq_idError {e : FormatError} (unread : b.readProviderId id = .error e) :
    e = b.idError id := by
  cases b with
  | aws cloud roster =>
      rw [readProviderId, Aws.readProviderId, InstanceRef.ofProviderId] at unread
      split at unread
      · cases unread
      · cases unread
        rfl
  | gce project polling cloud roster =>
      have expected : s!"gce://{project}/<zone>/<name>" =
          (gce project polling cloud roster).idOf "<zone>/<name>" := by
        simp [idOf, ← String.toList_inj, toString]
      rw [readProviderId, Gce.readProviderId, expected] at unread
      split at unread
      · cases unread
      · cases unread
        rfl

theorem readProviderId_of_unread (unread : ∀ member, ¬ b.Identifies id member) :
    b.readProviderId id = .error (b.idError id) := by
  cases read : b.readProviderId id with
  | ok member => exact absurd (readProviderId_eq_ok_iff.mp read) (unread member)
  | error e => rw [eq_idError read]

/-- An id belongs to one cloud and one instance. -/
theorem Identifies.unique (identifies : b.Identifies id member)
    (identifies' : b'.Identifies id member') : b.name = b'.name ∧ member = member' := by
  obtain ⟨project, plain, rfl⟩ := identifies
  obtain ⟨project', plain', same⟩ := identifies'
  rw [← String.toList_inj] at same
  cases b with
  | aws cloud roster =>
      cases b' with
      | aws cloud' roster' =>
          have written : member.text = member'.text := by
            simpa [idOf, String.toList_inj] using same
          exact ⟨rfl, plain.eq_of_text plain' written⟩
      | gce => simp [idOf] at same
  | gce name polling cloud roster =>
      cases b' with
      | aws => simp [idOf] at same
      | gce name' polling' cloud' roster' =>
          have cut := congrArg (Text.cut? '/') (show name.toList ++ '/' :: member.text.toList =
            name'.toList ++ '/' :: member'.text.toList by simpa [idOf] using same)
          rw [Text.cut?_append project, Text.cut?_append project', Option.some.injEq,
            Prod.mk.injEq, String.toList_inj, String.toList_inj] at cut
          exact ⟨rfl, plain.eq_of_text plain' cut.2⟩

theorem Identifies.scheme?_eq {node : Node} (identifies : b.Identifies node.providerId member) :
    node.scheme? = some b.name :=
  scheme?_idOf identifies.text

end Backend

namespace Provider

variable {p : Provider} {node : Node} {member : InstanceRef}

/-- The search asks for the owner of a node whose id can be read. -/
theorem groupOf?_identified (identifies : p.backend.Identifies node.providerId member) :
    p.groupOf? node = p.backend.owner? member >>= fun owner => return owner.bind p.group? := by
  have native : node.scheme? = some p.name := identifies.scheme?_eq
  rw [groupOf?_eq, member?, if_pos native, Backend.readProviderId_eq_ok_iff.mpr identifies]
  rfl

/-- The search ends at a node of the provider's cloud whose id cannot be read. -/
theorem groupOf?_malformed (native : node.scheme? = some p.name)
    (unread : ∀ member, ¬ p.backend.Identifies node.providerId member) (w : World) :
    (p.groupOf? node).runOn w = (.error (.format (p.backend.idError node.providerId)), w) := by
  rw [groupOf?_eq, member?, if_pos native, Backend.readProviderId_of_unread unread]
  rfl

end Provider

/-- Exactly the texts that the grammar has are read as ids of a scheme, and as ids of a backend's
cloud. An id is read by the backends of one cloud only, as one instance, and no other id is read as
that instance by the same backend. The scheme of an id that is read is the name of the cloud, and so
a search asks for the owner of such a node; a node of the same scheme with any other id ends the
search with the reader's error. -/
theorem providerIds_exact :
    (∀ (scheme id : String) (member : InstanceRef),
        InstanceRef.ofProviderId scheme id = .ok member ↔
          member.Plain ∧ id = scheme ++ "://" ++ member.text) ∧
      (∀ (b : Backend) (id : String) (member : InstanceRef),
        b.readProviderId id = .ok member ↔ b.Identifies id member) ∧
      (∀ (b b' : Backend) (id : String) (member member' : InstanceRef),
        b.readProviderId id = .ok member → b'.readProviderId id = .ok member' →
          b.name = b'.name ∧ member = member') ∧
      (∀ (b : Backend) (id id' : String) (member : InstanceRef),
        b.readProviderId id = .ok member → b.readProviderId id' = .ok member → id = id') ∧
      (∀ (p : Provider) (node : Node) (member : InstanceRef),
        p.backend.readProviderId node.providerId = .ok member →
          node.scheme? = some p.name ∧
            p.groupOf? node =
              p.backend.owner? member >>= fun owner => return owner.bind p.group?) ∧
      ∀ (p : Provider) (node : Node), node.scheme? = some p.name →
        (∀ member, ¬ p.backend.Identifies node.providerId member) → ∀ w,
          (p.groupOf? node).runOn w =
            (.error (.format (p.backend.idError node.providerId)), w) := by
  refine ⟨fun _ _ _ => InstanceRef.ofProviderId_eq_ok_iff,
    fun _ _ _ => Backend.readProviderId_eq_ok_iff, ?_, ?_, ?_, ?_⟩
  · intro b b' id member member' read read'
    exact (Backend.readProviderId_eq_ok_iff.mp read).unique
      (Backend.readProviderId_eq_ok_iff.mp read')
  · intro b id id' member read read'
    rw [(Backend.readProviderId_eq_ok_iff.mp read).text,
      (Backend.readProviderId_eq_ok_iff.mp read').text]
  · intro p node member read
    have identifies := Backend.readProviderId_eq_ok_iff.mp read
    exact ⟨identifies.scheme?_eq, Provider.groupOf?_identified identifies⟩
  · intro p node native unread w
    exact Provider.groupOf?_malformed native unread w

end Autoscaler
