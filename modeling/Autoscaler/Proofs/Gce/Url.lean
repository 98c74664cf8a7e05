import Autoscaler.Gce.Url
import Autoscaler.Proofs.Text.Pieces

/-!
# Which urls are read

A url of a group or an instance is read if and only if it has the segments of one, alone or behind
a service address, and project, zone and name can stand between slashes. So urls are read back as
what they were made of, and so are provider ids.
-/

namespace Autoscaler.Gce

open Autoscaler.Text (Plain)

variable {project zone name : String}

/-- The segments of the url of a resource. -/
def segments (kind project zone name : String) : List (List Char) :=
  ["projects".toList, project.toList, "zones".toList, zone.toList, kind.toList, name.toList]

theorem instanceUrl_toList (project zone name : String) :
    (instanceUrl project zone name).toList =
      urlBase.toList ++ '/' :: Text.join '/' (segments "instances" project zone name) := by
  simp [instanceUrl, segments, Text.join, toString]

/-- What may stand in front of the segments of a url. -/
def leads : List String :=
  ["", "https://www.googleapis.com/compute/v1/", "https://content.googleapis.com/compute/v1/"]

variable {lead kind : String} {cs url : List Char}

/-- The first service address is dropped, whatever stands behind it. -/
theorem dropService_service {service : String} (inside : service ∈ services) (cs : List Char) :
    dropService (service.toList ++ cs) = cs := by
  simp only [services, List.mem_cons, List.not_mem_nil, or_false] at inside
  obtain rfl | rfl := inside <;> rfl

theorem dropService_urlBase (cs : List Char) : dropService (urlBase.toList ++ '/' :: cs) = cs := by
  have first : "https://www.googleapis.com/compute/v1/".toList = urlBase.toList ++ ['/'] := by
    decide
  have dropped := dropService_service List.mem_cons_self cs
  rwa [first, List.append_assoc, List.singleton_append] at dropped

theorem exists_lead (cs : List Char) : ∃ lead ∈ leads, cs = lead.toList ++ dropService cs := by
  cases found : services.findSome? fun service => Text.after? service.toList cs with
  | none =>
      refine ⟨"", List.mem_cons_self, ?_⟩
      rw [dropService, found]
      rfl
  | some rest =>
      obtain ⟨service, inside, read⟩ := List.exists_of_findSome?_eq_some found
      refine ⟨service, List.mem_cons_of_mem _ inside, ?_⟩
      rw [dropService, found]
      exact Text.eq_append_of_after? read

/-- Segments begin with no service address, so that only what stands in front is dropped. -/
theorem dropService_lead (inside : lead ∈ leads) :
    dropService (lead.toList ++ Text.join '/' (segments kind project zone name)) =
      Text.join '/' (segments kind project zone name) := by
  obtain rfl | inside := List.mem_cons.mp inside
  · rfl
  · exact dropService_service inside _

section Plain

variable (plain_project : Plain project) (plain_zone : Plain zone) (plain_name : Plain name)

include plain_project plain_zone plain_name

theorem resource?_segments (plain_kind : '/' ∉ kind.toList)
    (dropped : dropService url = Text.join '/' (segments kind project zone name)) :
    resource? kind url = some ⟨project, zone, name⟩ := by
  have clear : ∀ piece ∈ segments kind project zone name, '/' ∉ piece := by
    simp only [segments, List.mem_cons, List.not_mem_nil, or_false]
    rintro piece (rfl | rfl | rfl | rfl | rfl | rfl)
    · decide
    · exact plain_project.clear
    · decide
    · exact plain_zone.clear
    · exact plain_kind
    · exact plain_name.clear
  have split : Text.split '/' (Text.join '/' (segments kind project zone name)) =
      segments kind project zone name := Text.split_join (List.cons_ne_nil _ _) clear
  rw [resource?, dropped, split, segments]
  simp [plain_project.toList_ne_nil, plain_zone.toList_ne_nil, plain_name.toList_ne_nil]

theorem readInstanceUrl_instanceUrl :
    readInstanceUrl (instanceUrl project zone name) = .ok ⟨zone, name⟩ := by
  rw [readInstanceUrl, instanceUrl_toList,
    resource?_segments plain_project plain_zone plain_name (by decide) (dropService_urlBase _)]

end Plain

/-! ## Urls that can be read -/

/-- A list with three gaps that are not empty fills each of them with one item. -/
theorem singletons_of_append_eq {α : Type} {as bs cs : List α} {x y a b c x' y' : α}
    (some_a : as ≠ []) (some_b : bs ≠ []) (some_c : cs ≠ [])
    (same : as ++ x :: (bs ++ y :: cs) = [a, x', b, y', c]) : as = [a] ∧ bs = [b] ∧ cs = [c] := by
  have length := congrArg List.length same
  simp only [List.length_append, List.length_cons, List.length_nil] at length
  have length_a := List.length_pos_iff.mpr some_a
  have length_b := List.length_pos_iff.mpr some_b
  have length_c := List.length_pos_iff.mpr some_c
  obtain ⟨a', rfl⟩ := List.length_eq_one_iff.mp (show as.length = 1 by omega)
  obtain ⟨b', rfl⟩ := List.length_eq_one_iff.mp (show bs.length = 1 by omega)
  obtain ⟨c', rfl⟩ := List.length_eq_one_iff.mp (show cs.length = 1 by omega)
  simp only [List.cons_append, List.nil_append, List.cons.injEq, and_true] at same
  obtain ⟨rfl, -, rfl, -, rfl⟩ := same
  exact ⟨rfl, rfl, rfl⟩

/-- Whatever project, zone and name are, the segments between them can be told. -/
theorem split_segments (kind : String) (clear : '/' ∉ kind.toList) (project zone name : String) :
    Text.split '/' (Text.join '/' (segments kind project zone name)) =
      "projects".toList :: (Text.split '/' project.toList ++
        "zones".toList :: (Text.split '/' zone.toList ++
          kind.toList :: Text.split '/' name.toList)) := by
  simp only [segments, Text.join, Text.split_append_sep]
  rw [Text.split_of_not_mem (show '/' ∉ "projects".toList by decide),
    Text.split_of_not_mem (show '/' ∉ "zones".toList by decide), Text.split_of_not_mem clear]
  rfl

/-- A url that can be read has the segments of what is read from it. -/
theorem split_of_resource? {key : GroupKey} (read : resource? kind url = some key) :
    Text.split '/' (dropService url) = segments kind key.project key.zone key.name ∧
      Plain key.project ∧ Plain key.zone ∧ Plain key.name := by
  rw [resource?] at read
  split at read
  · next a written b zone c name pieces =>
    split at read
    · next accepted =>
      obtain ⟨rfl, rfl, rfl, some_project, some_zone, some_name⟩ := accepted
      cases read
      obtain ⟨-, clear, -⟩ := Text.split_eq_iff.mp pieces
      refine ⟨by simp [pieces, segments], ?_, ?_, ?_⟩
      · exact Text.plain_ofList some_project (clear _ (by simp))
      · exact Text.plain_ofList some_zone (clear _ (by simp))
      · exact Text.plain_ofList some_name (clear _ (by simp))
    · cases read
  · cases read

/-- A url is that of a resource if it has the segments, alone or behind a service address. -/
theorem resource?_eq_some_iff (plain_kind : '/' ∉ kind.toList) :
    resource? kind url = some ⟨project, zone, name⟩ ↔
      (Plain project ∧ Plain zone ∧ Plain name) ∧
        ∃ lead ∈ leads, url = lead.toList ++ Text.join '/' (segments kind project zone name) := by
  constructor
  · intro read
    obtain ⟨pieces, plain⟩ := split_of_resource? read
    obtain ⟨lead, inside, written⟩ := exists_lead url
    obtain ⟨-, -, joined⟩ := Text.split_eq_iff.mp pieces
    exact ⟨plain, lead, inside, by rw [← joined, ← written]⟩
  · rintro ⟨⟨plain_project, plain_zone, plain_name⟩, lead, inside, rfl⟩
    exact resource?_segments plain_project plain_zone plain_name plain_kind
      (dropService_lead inside)

/-- Only urls of groups of the project are read. -/
theorem readGroupId_eq_ok_iff {identifier : String} {id : GroupId} :
    readGroupId project identifier = .ok id ↔
      resource? "instanceGroups" identifier.toList = some ⟨project, id.zone, id.name⟩ := by
  rw [readGroupId]
  constructor
  · intro read
    split at read
    · cases read
    · next key found =>
      split at read
      · next own =>
        cases read
        rw [found, ← own]
      · cases read
  · intro found
    rw [found]
    exact if_pos rfl

theorem resource?_of_readInstanceUrl {url : String} {member : InstanceRef}
    (read : readInstanceUrl url = .ok member) :
    ∃ written, resource? "instances" url.toList = some ⟨written, member.zone, member.name⟩ := by
  rw [readInstanceUrl] at read
  split at read
  · cases read
  · next key found =>
    cases read
    exact ⟨key.project, found⟩

theorem readInstanceUrl_plain {url : String} {member : InstanceRef}
    (read : readInstanceUrl url = .ok member) : Plain member.zone ∧ Plain member.name := by
  obtain ⟨written, found⟩ := resource?_of_readInstanceUrl read
  exact (split_of_resource? found).2.2

/-- A url of an instance is read back as nothing else. -/
theorem eq_of_readInstanceUrl {member : InstanceRef}
    (read : readInstanceUrl (instanceUrl project zone name) = .ok member) :
    member = ⟨zone, name⟩ := by
  obtain ⟨written, found⟩ := resource?_of_readInstanceUrl read
  obtain ⟨pieces, -⟩ := split_of_resource? found
  rw [instanceUrl_toList, dropService_urlBase, split_segments _ (by decide), segments] at pieces
  obtain ⟨-, same_zone, same_name⟩ := singletons_of_append_eq (Text.split_ne_nil _ _)
    (Text.split_ne_nil _ _) (Text.split_ne_nil _ _) (List.cons.inj pieces).2
  obtain ⟨zone', name'⟩ := member
  rw [InstanceRef.mk.injEq, ← String.toList_inj, ← String.toList_inj]
  exact ⟨Text.eq_of_split_eq_singleton same_zone, Text.eq_of_split_eq_singleton same_name⟩

/-- No other instance of the project has the url of an instance that can be read. -/
theorem eq_of_instanceUrl_eq {zone' name' : String} (plain : Plain zone') (plain' : Plain name')
    (same : instanceUrl project zone name = instanceUrl project zone' name') :
    zone = zone' ∧ name = name' := by
  have written := congrArg String.toList same
  rw [instanceUrl_toList, instanceUrl_toList, List.append_cancel_left_eq,
    List.cons.injEq] at written
  have pieces := congrArg (Text.split '/') written.2
  rw [split_segments _ (by decide), split_segments _ (by decide), Text.split_of_not_mem plain.clear,
    Text.split_of_not_mem plain'.clear, List.cons.injEq, List.append_cancel_left_eq] at pieces
  -- The project is the same text on both sides, so any one piece can stand for it.
  obtain ⟨-, same_zone, same_name⟩ := singletons_of_append_eq (List.cons_ne_nil [] [])
    (Text.split_ne_nil _ _) (Text.split_ne_nil _ _) (congrArg (List.cons []) pieces.2)
  rw [← String.toList_inj, ← String.toList_inj]
  exact ⟨(Text.eq_of_split_eq_singleton same_zone).symm,
    (Text.eq_of_split_eq_singleton same_name).symm⟩

/-- Behind scheme and project, an instance is written as on other clouds. -/
theorem ofProviderId?_project (plain_project : Plain project) (rest : List Char) :
    ofProviderId? project ("gce://".toList ++ (project.toList ++ '/' :: rest)) =
      (Text.slashPair? rest).map fun (zone, name) => ⟨zone, name⟩ := by
  simp only [ofProviderId?, Text.after?_append, Text.cut?_append plain_project.clear,
    Option.bind_eq_bind, Option.bind_some, String.ofList_toList, ↓reduceIte]
  cases Text.slashPair? rest <;> rfl

end Autoscaler.Gce
