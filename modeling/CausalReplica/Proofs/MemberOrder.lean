import CausalReplica.Proofs.Canonical
import CausalReplica.Proofs.Parts
import CausalReplica.Proofs.Supersession

/-!
# The order of the members

The members of a conflict stand in the order in which they came to a node, which differs from node
to node. Resolving goes through them in this order more than once: it takes the last one of the
latest, asks the first live one for its collection, and merges one vector after the other. None of
this shows in the result.

Members that are equal in rank differ in their vectors only, which give way to the merge. What goes
to a script is in canonical order, in which an antichain has one sequence only. Everything else
speaks of all members or of some member.
-/

namespace CausalReplica

variable {a b : Conflict}

namespace Conflict

/-! ## What is read off the members -/

theorem hasTombstone_eq_of_perm (h : a.members.Perm b.members) :
    a.hasTombstone = b.hasTombstone := h.any_eq

theorem hasMixedCollections_eq_of_perm (h : a.members.Perm b.members) :
    a.hasMixedCollections = b.hasMixedCollections := by
  rw [Bool.eq_iff_iff, hasMixedCollections_iff, hasMixedCollections_iff]
  simp only [h.mem_iff]

theorem collection?_eq_of_perm (ha : a.isAntichain = true) (h : a.members.Perm b.members) :
    a.collection? = b.collection? := by
  rw [collection?, collection?, canonical_eq_of_perm ha h]

theorem mergedVector_eq_of_perm (h : a.members.Perm b.members) :
    a.mergedVector = b.mergedVector := Version.merged_congr fun _ ↦ h.mem_iff

/-- Of two greatest times neither is below the other. -/
theorem latestTime?_eq_of_perm (h : a.members.Perm b.members) : a.latestTime? = b.latestTime? := by
  by_cases hne : a.members = []
  · have hnil : b.members = [] := (hne ▸ h).nil_eq.symm
    rw [latestTime?, latestTime?, hne, hnil]
  obtain ⟨m, hm, ha, hlem⟩ := exists_latestTime? hne
  obtain ⟨n, hn, hb, hlen⟩ := exists_latestTime? (List.ne_nil_of_mem (h.mem_iff.1 hm))
  rw [ha, hb, UInt64.le_antisymm (hlen m (h.mem_iff.1 hm)) (hlem n (h.mem_iff.2 hn))]

theorem scriptRequest_eq_of_perm (hid : a.id = b.id) (ha : a.isAntichain = true)
    (h : a.members.Perm b.members) (script collection : String) :
    a.scriptRequest script collection = b.scriptRequest script collection := by
  rw [scriptRequest, scriptRequest, hid, canonical_eq_of_perm ha h, hasTombstone_eq_of_perm h]

end Conflict

/-! ## Resolving -/

/-- Conflicts of the same members are resolved to the same version, since all winners among them are
one version but for their vectors. -/
theorem Policy.Elects.eq_of_perm {p : Policy} {resolve : Conflict → Option Version}
    (helects : p.Elects resolve) (hid : a.id = b.id) (hmember : ∀ m ∈ a.members, m.id = a.id)
    (h : a.members.Perm b.members) : resolve a = resolve b := by
  by_cases hne : a.members = []
  · obtain ⟨id, members⟩ := a
    obtain ⟨id', members'⟩ := b
    obtain rfl : id = id' := hid
    obtain rfl : members = [] := hne
    obtain rfl : members' = [] := h.nil_eq.symm
    rfl
  have hmember' : ∀ m ∈ b.members, m.id = b.id := fun m hm ↦
    (hmember m (h.mem_iff.2 hm)).trans hid
  obtain ⟨v, hv, hresolves⟩ := helects.exists_resolves hne
  rw [hv, helects.resolve_eq_of_perm hmember' hresolves h]

theorem Resolution.plan_eq_of_perm (p : Policy) (hid : a.id = b.id)
    (hmember : ∀ m ∈ a.members, m.id = a.id) (ha : a.isAntichain = true)
    (h : a.members.Perm b.members) : plan p a = plan p b := by
  cases p with
  | none => rfl
  | latest => rw [plan, plan, Policy.elects_latest.eq_of_perm hid hmember h]
  | tombstone => rw [plan, plan, Policy.elects_tombstone.eq_of_perm hid hmember h]
  | scripts byCollection =>
    simp only [plan, Conflict.hasMixedCollections_eq_of_perm h,
      Conflict.collection?_eq_of_perm ha h, Conflict.scriptRequest_eq_of_perm hid ha h]

theorem Resolution.ofResult_eq_of_perm (hid : a.id = b.id) (h : a.members.Perm b.members)
    (request : Script.Request) (result : Script.Result) :
    ofResult a request result = ofResult b request result := by
  simp only [ofResult, hid, Conflict.mergedVector_eq_of_perm h, Conflict.latestTime?_eq_of_perm h]

/-- The order of the members does not matter to the resolution of a conflict. Under any policy
either the same request goes to a script or none goes to any, and as long as the scripts answer
equal requests alike, whatever they answer, the resolutions are equal. -/
theorem resolution_ignores_order (r : Resolver) (call : Script.Request → Script.Run)
    (hid : a.id = b.id) (hmember : ∀ m ∈ a.members, m.id = a.id) (ha : a.isAntichain = true)
    (h : a.members.Perm b.members) :
    (∀ request, Resolution.plan r.policy a = .ask request ↔
      Resolution.plan r.policy b = .ask request) ∧
    r.resolve call a = r.resolve call b := by
  have hplan := Resolution.plan_eq_of_perm r.policy hid hmember ha h
  refine ⟨fun request ↦ by rw [hplan], ?_⟩
  rw [Resolver.resolve, Resolver.resolve, hplan]
  cases Resolution.plan r.policy b with
  | settled resolution => rfl
  | ask request => exact Resolution.ofResult_eq_of_perm hid h request _

/-- A document that two nodes change and a third one deletes from another collection. The members
are in canonical order. -/
def changedAndMoved : Conflict :=
  ⟨"doc", [.document "doc" "notes" [1] (.authored ⟨1⟩) 4, .deleted "doc" "trash" (.authored ⟨2⟩) 4,
    .document "doc" "notes" [2] (.authored ⟨3⟩) 4]⟩

/-- A script that appends the documents to one another. -/
def appending : Script.Request → Script.Run := fun request ↦
  ⟨⟨0⟩, .ok (.document request.documents.flatten)⟩

/-- The script is asked for the live documents in one order, on which its answer depends. -/
theorem resolution_ignores_order_changedAndMoved :
    let r : Resolver := ⟨.scripts (.ofList [("notes", "append")]), ⟨1⟩⟩
    let again : Conflict := ⟨"doc", changedAndMoved.members.reverse⟩
    Resolution.plan r.policy changedAndMoved = .ask ⟨"append", "doc", "notes", [[1], [2]], true⟩ ∧
    Resolution.plan r.policy again = .ask ⟨"append", "doc", "notes", [[1], [2]], true⟩ ∧
    r.resolve appending changedAndMoved = r.resolve appending again := by
  intro r again
  obtain ⟨hrequest, hresolve⟩ := resolution_ignores_order r appending (a := changedAndMoved)
    (b := again) rfl (by decide) (by decide) (by decide)
  have hcanonical : changedAndMoved.canonical = changedAndMoved.members :=
    List.mergeSort_of_pairwise (by decide)
  have hplan : Resolution.plan r.policy changedAndMoved =
      .ask ⟨"append", "doc", "notes", [[1], [2]], true⟩ := by
    simp only [r, Resolution.plan, Conflict.collection?, Conflict.scriptRequest, hcanonical]
    rfl
  exact ⟨hplan, (hrequest _).1 hplan, hresolve⟩

end CausalReplica
