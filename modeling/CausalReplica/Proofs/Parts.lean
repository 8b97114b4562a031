import CausalReplica.Proofs.Antichain
import CausalReplica.Proofs.Rank

/-!
# Resolving in parts

A conflict may be resolved all at once, or some of its members may be resolved before the others
join them, and the results resolved then. Where a script decides this can make any difference. Where
the policy decides it makes none, as long as the results that meet are concurrent again: otherwise
there would be no conflict of them.

What versions are resolved to is a winner among them with the merge of all their vectors. A winner
keeps its rank when it is given another vector, so a winner among the results of some parts is, but
for its vector, a winner among all versions of these parts; and the merge of merges is the merge of
all. Winners of one document that are equal in rank differ in their vectors only, so it does not
matter which of them was taken on the way.
-/

namespace CausalReplica

theorem Version.merged_flatMap {parts : List (List Version × Version)}
    (h : ∀ part ∈ parts, part.2.vector = merged part.1) :
    merged (parts.flatMap (·.1)) = merged (parts.map (·.2)) := by
  refine eq_of_forall_ge_iff fun x ↦ ?_
  rw [merged_le_iff, merged_le_iff, List.forall_mem_map]
  constructor
  · intro hx part hpart
    rw [h part hpart, merged_le_iff]
    exact fun v hv ↦ hx v (List.mem_flatMap.2 ⟨part, hpart, hv⟩)
  · intro hx v hv
    obtain ⟨part, hpart, hv⟩ := List.mem_flatMap.1 hv
    exact (le_merged hv).trans (h part hpart ▸ hx part hpart)

namespace Policy

variable {p : Policy} {resolve : Conflict → Option Version} {vs ws : List Version} {u v w : Version}

/-! ## What versions are resolved to -/

/-- The version is a winner of the list, but for its vector, which is the merge of all. -/
def Resolves (p : Policy) (vs : List Version) (w : Version) : Prop :=
  ∃ m, p.Wins vs m ∧ w = m.withVector (Version.merged vs)

theorem resolves_singleton (p : Policy) (v : Version) : p.Resolves [v] v := by
  refine ⟨v, wins_singleton p v, ?_⟩
  rw [Version.merged_singleton]
  rfl

theorem Resolves.ne_nil (h : p.Resolves vs w) : vs ≠ [] := by
  obtain ⟨m, hm, -⟩ := h
  exact List.ne_nil_of_mem hm.mem

theorem Resolves.id_eq (h : p.Resolves vs w) {id : String} (hid : ∀ m ∈ vs, m.id = id) :
    w.id = id := by
  obtain ⟨m, hm, rfl⟩ := h
  exact hid m hm.mem

theorem Resolves.congr (h : p.Resolves vs w) (hsame : ∀ v, v ∈ ws ↔ v ∈ vs) :
    p.Resolves ws w := by
  obtain ⟨m, hm, rfl⟩ := h
  exact ⟨m, hm.congr hsame, by rw [Version.merged_congr hsame]⟩

theorem Resolves.unique (hv : p.Resolves vs v) (hw : p.Resolves vs w) {id : String}
    (hid : ∀ m ∈ vs, m.id = id) : v = w := by
  obtain ⟨m, hm, rfl⟩ := hv
  obtain ⟨n, hn, rfl⟩ := hw
  exact hm.withVector_eq hn ((hid m hm.mem).trans (hid n hn.mem).symm) _

/-- What the results of parts are resolved to is what all versions are resolved to. The winner among
the results comes from the winner of its part, which outranks the winners of the other parts. -/
theorem Resolves.flatMap {parts : List (List Version × Version)}
    (h : p.Resolves (parts.map (·.2)) w) (hparts : ∀ part ∈ parts, p.Resolves part.1 part.2) :
    p.Resolves (parts.flatMap (·.1)) w := by
  obtain ⟨x, hx, rfl⟩ := h
  obtain ⟨part, hpart, rfl⟩ := List.mem_map.1 hx.mem
  obtain ⟨m, hm, hwinner⟩ := hparts part hpart
  refine ⟨m, ⟨List.mem_flatMap.2 ⟨part, hpart, hm.mem⟩, fun v hv ↦ ?_⟩, ?_⟩
  · obtain ⟨other, hother, hv⟩ := List.mem_flatMap.1 hv
    obtain ⟨n, hn, hresult⟩ := hparts other hother
    have hrank := hx.isLE other.2 (List.mem_map_of_mem hother)
    rw [hwinner, hresult, rankOrder_withVector_left, rankOrder_withVector_right] at hrank
    exact Std.TransCmp.isLE_trans (hn.isLE v hv) hrank
  · have hvector : ∀ part ∈ parts, part.2.vector = Version.merged part.1 := by
      intro other hother
      obtain ⟨n, -, hresult⟩ := hparts other hother
      rw [hresult]
      rfl
    rw [Version.merged_flatMap hvector, hwinner]
    rfl

theorem Resolves.append (hv : p.Resolves vs v) (hw : p.Resolves ws w) (h : p.Resolves [v, w] u) :
    p.Resolves (vs ++ ws) u := by
  have hparts : p.Resolves ([(vs, v), (ws, w)].flatMap (·.1)) u :=
    h.flatMap (List.forall_mem_cons.2 ⟨hv, List.forall_mem_singleton.2 hw⟩)
  simpa using hparts

theorem Elects.exists_resolves (h : p.Elects resolve) {c : Conflict} (hc : c.members ≠ []) :
    ∃ w, resolve c = some w ∧ p.Resolves c.members w := by
  obtain ⟨m, hm, hresolve⟩ := h c hc
  exact ⟨_, hresolve, m, hm, rfl⟩

theorem Elects.resolves (h : p.Elects resolve) {c : Conflict} (hc : c.members ≠ [])
    (hw : resolve c = some w) : p.Resolves c.members w := by
  obtain ⟨v, hv, hresolves⟩ := h.exists_resolves hc
  obtain rfl := Option.some.inj (hv.symm.trans hw)
  exact hresolves

theorem Elects.resolve_eq_of_perm (h : p.Elects resolve) {c : Conflict}
    (hid : ∀ m ∈ c.members, m.id = c.id) (hw : p.Resolves vs w) (hperm : vs.Perm c.members) :
    resolve c = some w := by
  have hwhole : p.Resolves c.members w := hw.congr fun _ ↦ hperm.symm.mem_iff
  obtain ⟨v, hv, hresolves⟩ := h.exists_resolves hwhole.ne_nil
  rw [hv, hresolves.unique hwhole hid]

end Policy

/-! ## Part by part -/

namespace Conflict

variable {resolve : Conflict → Option Version} {vs ws : List Version} {a b w : Version}

/-- The ways to resolve a conflict without a script. -/
def resolvers : List (Conflict → Option Version) := [resolveToLatest?, resolveToTombstone?]

theorem exists_elects (h : resolve ∈ resolvers) : ∃ p : Policy, p.Elects resolve := by
  rcases List.mem_pair.1 h with rfl | rfl
  · exact ⟨.latest, Policy.elects_latest⟩
  · exact ⟨.tombstone, Policy.elects_tombstone⟩

/-- Versions are resolved in parts, nested in any way: a single version is left as it is, and the
versions that some parts were resolved to are resolved as a conflict that was built of them. -/
inductive InParts (resolve : Conflict → Option Version) : List Version → Version → Prop
  | version (v : Version) : InParts resolve [v] v
  | group {parts : List (List Version × Version)} (nonempty : parts ≠ [])
    (each : ∀ part ∈ parts, InParts resolve part.1 part.2) {c : Conflict} (built : c.Built)
    (members : c.members = parts.map (·.2)) {w : Version} (resolved : resolve c = some w) :
    InParts resolve (parts.flatMap (·.1)) w

namespace InParts

theorem pair (ha : InParts resolve vs a) (hb : InParts resolve ws b) {c : Conflict}
    (hpair : Conflict.pair a b = .ok c) (hw : resolve c = some w) :
    InParts resolve (vs ++ ws) w := by
  obtain ⟨-, rfl⟩ := pair_eq_ok_iff.1 hpair
  have hgroup : InParts resolve ([(vs, a), (ws, b)].flatMap (·.1)) w :=
    .group (by simp) (List.forall_mem_cons.2 ⟨ha, List.forall_mem_singleton.2 hb⟩)
      (.inl ⟨a, b, hpair⟩) rfl hw
  simpa using hgroup

theorem exists_group {p : Policy} (helects : p.Elects resolve)
    {parts : List (List Version × Version)} (hne : parts ≠ [])
    (heach : ∀ part ∈ parts, InParts resolve part.1 part.2)
    (hconcurrent : Version.pairwiseConcurrent (parts.map (·.2)) = true) :
    ∃ w, InParts resolve (parts.flatMap (·.1)) w := by
  obtain ⟨w, hw, -⟩ := helects.exists_resolves (c := ⟨"", parts.map (·.2)⟩) (by simpa using hne)
  have hbuilt : Conflict.Built ⟨"", parts.map (·.2)⟩ :=
    .inr ⟨"", _, ofMembers_eq_ok_iff.2 ⟨hconcurrent, rfl⟩⟩
  exact ⟨w, .group hne heach hbuilt rfl hw⟩

/-- The induction goes over the nesting: what the parts are resolved to are winners of the parts,
and so is what these are resolved to in turn. -/
theorem resolves {p : Policy} (helects : p.Elects resolve) (h : InParts resolve vs w) :
    p.Resolves vs w := by
  induction h with
  | version v => exact p.resolves_singleton v
  | group nonempty each built members resolved ih =>
    have hc := helects.resolves (by simpa [members] using nonempty) resolved
    rw [members] at hc
    exact hc.flatMap ih

end InParts

/-- Where no script is asked, resolving versions of a document in parts comes to the same as
resolving them at once, in every field. This holds for two parts that are resolved to concurrent
versions, which then make up a pair. It holds as well for parts of parts, in any order and nested in
any way; and as long as what the parts are resolved to is concurrent, there is always a result. -/
theorem resolving_in_parts_agrees (hresolve : resolve ∈ resolvers) {c : Conflict}
    (hid : ∀ m ∈ c.members, m.id = c.id) :
    (∀ as bs : List Version, as ≠ [] → bs ≠ [] → (as ++ bs).Perm c.members →
      ∃ a b w, resolve ⟨c.id, as⟩ = some a ∧ resolve ⟨c.id, bs⟩ = some b ∧ resolve c = some w ∧
        (a.relate b = .concurrent →
          ∃ d, Conflict.pair a b = .ok d ∧ d.id = c.id ∧ resolve d = some w)) ∧
    (∀ vs w, InParts resolve vs w → vs.Perm c.members → resolve c = some w) ∧
    (∀ parts : List (List Version × Version), parts ≠ [] →
      (∀ part ∈ parts, InParts resolve part.1 part.2) →
      Version.pairwiseConcurrent (parts.map (·.2)) = true →
      ∃ w, InParts resolve (parts.flatMap (·.1)) w) := by
  obtain ⟨p, helects⟩ := exists_elects hresolve
  refine ⟨fun as bs has hbs hperm ↦ ?_, fun vs w hw ↦ ?_, fun parts ↦ ?_⟩
  · obtain ⟨a, ha, hresolvesa⟩ := helects.exists_resolves (c := ⟨c.id, as⟩) has
    obtain ⟨b, hb, hresolvesb⟩ := helects.exists_resolves (c := ⟨c.id, bs⟩) hbs
    obtain ⟨w, hw, hresolvesw⟩ := helects.exists_resolves (c := ⟨c.id, [a, b]⟩) (by simp)
    have hwhole : resolve c = some w :=
      helects.resolve_eq_of_perm hid (hresolvesa.append hresolvesb hresolvesw) hperm
    have hida : a.id = c.id :=
      hresolvesa.id_eq fun m hm ↦ hid m (hperm.mem_iff.1 (List.mem_append_left bs hm))
    refine ⟨a, b, w, ha, hb, hwhole, fun hconcurrent ↦ ⟨⟨c.id, [a, b]⟩, ?_, rfl, hw⟩⟩
    exact pair_eq_ok_iff.2 ⟨hconcurrent, by rw [hida]⟩
  · exact helects.resolve_eq_of_perm hid (hw.resolves helects)
  · exact InParts.exists_group helects

/-- A document that three nodes change at the same time, the first of them in its fifth change. -/
def changedAtOnce : Conflict :=
  ⟨"doc", [.document "doc" "notes" [1] (VersionVector.empty.set ⟨1⟩ 5 (by decide)) 7,
    .document "doc" "notes" [3] (.authored ⟨3⟩) 7, .document "doc" "notes" [2] (.authored ⟨2⟩) 7]⟩

/-- The last version and the first one are resolved to what the last one says, and the result gives
way to the version in the middle. This one wins among all of them too. -/
theorem resolving_in_parts_agrees_changedAtOnce :
    let inner := changedAtOnce.members[2].withVector
      ((VersionVector.authored ⟨2⟩).set ⟨1⟩ 5 (by decide))
    let outer := changedAtOnce.restamped changedAtOnce.members[1]
    InParts resolveToLatest? [changedAtOnce.members[2], changedAtOnce.members[0]] inner ∧
    InParts resolveToLatest?
      [changedAtOnce.members[2], changedAtOnce.members[0], changedAtOnce.members[1]] outer ∧
    changedAtOnce.resolveToLatest? = some outer := by
  intro inner outer
  have hinner : InParts resolveToLatest? [changedAtOnce.members[2], changedAtOnce.members[0]]
      inner :=
    (InParts.version changedAtOnce.members[2]).pair (.version changedAtOnce.members[0])
      (c := ⟨"doc", [changedAtOnce.members[2], changedAtOnce.members[0]]⟩) (by decide) (by decide)
  have houter : InParts resolveToLatest?
      [changedAtOnce.members[2], changedAtOnce.members[0], changedAtOnce.members[1]] outer :=
    hinner.pair (.version changedAtOnce.members[1])
      (c := ⟨"doc", [inner, changedAtOnce.members[1]]⟩) (by decide) (by decide)
  have hresolve : resolveToLatest? ∈ resolvers := List.mem_cons_self
  obtain ⟨-, hagree, -⟩ := resolving_in_parts_agrees hresolve (c := changedAtOnce) (by decide)
  exact ⟨hinner, houter, hagree _ _ houter (by decide)⟩

end Conflict

end CausalReplica
