import CausalReplica.Proofs.Rank

/-!
# Resolved versions take the place of what they resolve

A conflict is resolved by a winner among its members, or by what a script has made of it. The winner
keeps its time, and a script's version has the greatest time of all members. Under the latest order
the winner has the greatest time too. Where tombstones go first it is the latest tombstone, if there
is any.

In every case the version carries the merge of the members' vectors. No member covers another one,
so the merge is above each of them, and it is the least vector that covers them all.
-/

namespace CausalReplica

/-! ## Times -/

namespace Version

variable {a b : Version}

theorem modified_le_of_latestOrder (h : (latestOrder a b).isLE) : a.modified ≤ b.modified := by
  by_contra hlt
  have hswap : latestOrder a b = (latestOrder b a).swap := Std.OrientedCmp.eq_swap
  rw [hswap, latestOrder_lt_of_modified_lt (UInt64.not_le.1 hlt)] at h
  exact absurd h Bool.false_ne_true

theorem tombstone_of_tombstoneOrder (h : (tombstoneOrder a b).isLE) (ha : a.tombstone = true) :
    b.tombstone = true := by
  cases hb : b.tombstone with
  | true => rfl
  | false =>
    rw [tombstoneOrder_eq_then, ha, hb] at h
    exact absurd h Bool.false_ne_true

theorem modified_le_of_tombstoneOrder (h : (tombstoneOrder a b).isLE) (ha : a.tombstone = true) :
    a.modified ≤ b.modified := by
  have hb := tombstone_of_tombstoneOrder h ha
  rw [tombstoneOrder_eq_then, ha, hb] at h
  exact modified_le_of_latestOrder h

end Version

namespace Conflict

variable {c : Conflict}

theorem latestTime?_cons_cons (id : String) (a b : Version) (vs : List Version) :
    latestTime? ⟨id, a :: b :: vs⟩ =
      latestTime? ⟨id, (if a.modified < b.modified then b else a) :: vs⟩ := by
  simp only [latestTime?, List.map_cons, List.foldl_cons]
  split <;> rfl

/-- The greatest time is that of a member, and no member is later. The induction takes the first two
members for the later of them. -/
theorem latestTime?_cons (id : String) (a : Version) (vs : List Version) :
    ∃ m ∈ a :: vs, latestTime? ⟨id, a :: vs⟩ = some m.modified ∧
      ∀ v ∈ a :: vs, v.modified ≤ m.modified := by
  induction vs generalizing a with
  | nil =>
    refine ⟨a, List.mem_cons_self, rfl, fun v hv ↦ ?_⟩
    rw [List.mem_singleton.1 hv]
    exact UInt64.le_refl _
  | cons b vs ih =>
    rw [latestTime?_cons_cons]
    by_cases hab : a.modified < b.modified
    · rw [if_pos hab]
      obtain ⟨m, hm, htime, hle⟩ := ih b
      refine ⟨m, List.mem_cons_of_mem _ hm, htime, List.forall_mem_cons.2 ⟨?_, hle⟩⟩
      exact UInt64.le_trans (UInt64.le_of_lt hab) (hle b List.mem_cons_self)
    · rw [if_neg hab]
      obtain ⟨m, hm, htime, hle⟩ := ih a
      obtain ⟨hfirst, hrest⟩ := List.forall_mem_cons.1 hle
      refine ⟨m, ?_, htime, List.forall_mem_cons.2 ⟨hfirst, List.forall_mem_cons.2 ⟨?_, hrest⟩⟩⟩
      · rcases List.mem_cons.1 hm with rfl | hm
        · exact List.mem_cons_self
        · exact List.mem_cons_of_mem _ (List.mem_cons_of_mem _ hm)
      · exact UInt64.le_trans (UInt64.not_lt.1 hab) hfirst

theorem exists_latestTime? (h : c.members ≠ []) : ∃ m ∈ c.members,
    c.latestTime? = some m.modified ∧ ∀ v ∈ c.members, v.modified ≤ m.modified := by
  obtain ⟨id, members⟩ := c
  cases members with
  | nil => exact absurd rfl h
  | cons a vs => exact latestTime?_cons id a vs

end Conflict

/-! ## What a conflict is resolved by -/

/-- The version that a resolver finds under a policy: a winner among the members, or a version by a
script with the greatest time. -/
inductive Resolution.Found (c : Conflict) : Policy → Version → Prop
  | elected {p : Policy} (m : Version) (wins : p.Wins c.members m) (decides : p.decides = true) :
    Found c p (c.restamped m)
  | scripted {byCollection : Dict String String} {w : Version}
    (time : w.modified = c.latestTime?.getD 0) : Found c (.scripts byCollection) w

theorem Resolution.modified_of_ofResult {c : Conflict} {request : Script.Request}
    {result : Script.Result} {w : Version} (h : ofResult c request result = .resolved w) :
    w.modified = c.latestTime?.getD 0 := by
  match result with
  | .ok (.document _) => exact Resolution.resolved.inj h ▸ rfl
  | .ok .tombstone => exact Resolution.resolved.inj h ▸ rfl
  | .ok .noResult => simp [ofResult] at h
  | .error (.timedOut ..) => simp [ofResult] at h
  | .error (.failed ..) => simp [ofResult] at h
  | .error (.unavailable ..) => simp [ofResult] at h

theorem Resolver.found_of_resolve {r : Resolver} {call : Script.Request → Script.Run}
    {c : Conflict} (hc : c.members ≠ []) {w : Version} (h : r.resolve call c = .resolved w) :
    Resolution.Found c r.policy w := by
  rw [resolve] at h
  cases hp : r.policy with
  | none => simp [hp, Resolution.plan] at h
  | latest =>
    obtain ⟨m, hm, hplan⟩ := Policy.exists_plan (p := .latest) rfl hc
    rw [hp, hplan] at h
    exact Resolution.resolved.inj h ▸ .elected m hm rfl
  | tombstone =>
    obtain ⟨m, hm, hplan⟩ := Policy.exists_plan (p := .tombstone) rfl hc
    rw [hp, hplan] at h
    exact Resolution.resolved.inj h ▸ .elected m hm rfl
  | scripts byCollection =>
    rw [hp] at h
    cases hplan : Resolution.plan (.scripts byCollection) c with
    | settled resolution =>
      obtain ⟨reason, rfl⟩ := Resolution.exists_unresolved_of_plan hplan
      simp [hplan] at h
    | ask request =>
      simp only [hplan] at h
      exact .scripted (Resolution.modified_of_ofResult h)

/-! ## Superseding -/

/-- A resolved version takes the place of a conflict, whatever the policy is and whatever a script
answers. It is a version of the document that passes its check. It dominates every member, and
whatever covers all members covers it. Its time is that of a member, and no member is later unless
tombstones go first. In that case it is a tombstone if some member is one, and then the latest of
them. -/
theorem resolved_version_supersedes (r : Resolver) (call : Script.Request → Script.Run)
    {c : Conflict} (hc : c.Sound) {w : Version} (h : r.resolve call c = .resolved w) :
    w.check = .ok () ∧ w.id = c.id ∧ (∀ m ∈ c.members, w.relate m = .dominates) ∧
    (∀ x : VersionVector, (∀ m ∈ c.members, x.covers m.vector = true) →
      x.covers w.vector = true) ∧
    (∃ m ∈ c.members, w.modified = m.modified) ∧
    (r.policy = .latest ∨ r.policy.usesScripts = true →
      ∀ m ∈ c.members, m.modified ≤ w.modified) ∧
    (r.policy = .tombstone →
      (w.tombstone = true ↔ ∃ m ∈ c.members, m.tombstone = true) ∧
      (w.tombstone = true →
        (∃ m ∈ c.members, m.tombstone = true ∧ w.modified = m.modified) ∧
        ∀ m ∈ c.members, m.tombstone = true → m.modified ≤ w.modified)) := by
  obtain ⟨member, hmember⟩ := hc.exists_member
  have hne : c.members ≠ [] := List.ne_nil_of_mem hmember
  have hfits := hc.fits_resolve r call
  rw [h] at hfits
  obtain ⟨hid, hcheck, hvector⟩ : w.id = c.id ∧ w.check = .ok () ∧ w.vector = c.mergedVector := by
    cases hfits with
    | resolved _ id check vector => exact ⟨id, check, vector⟩
  refine ⟨hcheck, hid, fun m hm ↦ ?_, fun x hx ↦ ?_, ?_⟩
  · rw [Version.relate_eq_dominates_iff, hvector]
    exact hc.lt_mergedVector hm
  · rw [VersionVector.covers_iff, hvector, Conflict.mergedVector_le_iff]
    exact fun m hm ↦ VersionVector.covers_iff.1 (hx m hm)
  have hfound := r.found_of_resolve hne h
  generalize r.policy = p at hfound ⊢
  cases hfound with
  | elected m wins decides =>
    refine ⟨⟨m, wins.mem, rfl⟩, ?_, ?_⟩
    · rintro (rfl | hscripts) v hv
      · exact Version.modified_le_of_latestOrder (wins.isLE v hv)
      · rw [Policy.usesScripts_of_decides decides] at hscripts
        exact absurd hscripts Bool.false_ne_true
    · rintro rfl
      have hgone : ∀ v ∈ c.members, v.tombstone = true → m.tombstone = true := fun v hv ↦
        Version.tombstone_of_tombstoneOrder (wins.isLE v hv)
      refine ⟨⟨fun hm ↦ ⟨m, wins.mem, hm⟩, fun ⟨v, hv, hgo⟩ ↦ hgone v hv hgo⟩, fun hm ↦
        ⟨⟨m, wins.mem, hm, rfl⟩, fun v hv hgo ↦ ?_⟩⟩
      exact Version.modified_le_of_tombstoneOrder (wins.isLE v hv) hgo
  | scripted time =>
    obtain ⟨m, hm, hlatest, hle⟩ := Conflict.exists_latestTime? hne
    rw [hlatest, Option.getD_some] at time
    refine ⟨⟨m, hm, time⟩, fun _ v hv ↦ ?_, fun h ↦ by simp at h⟩
    rw [time]
    exact hle v hv

/-- A document that two nodes delete while a third one changes it, the change last. -/
def deletedTwice : Conflict :=
  ⟨"doc", [.document "doc" "notes" [1] (.authored ⟨1⟩) 9, .deleted "doc" "notes" (.authored ⟨2⟩) 3,
    .deleted "doc" "notes" (.authored ⟨3⟩) 5]⟩

/-- The later one of the two deletions takes the place of all three versions. -/
theorem resolved_version_supersedes_deletedTwice :
    let w : Version := .withVector (.deleted "doc" "notes" (.authored ⟨3⟩) 5)
      (.mergeAll [.authored ⟨1⟩, .authored ⟨2⟩, .authored ⟨3⟩])
    deletedTwice.Sound ∧
    (Resolver.mk .tombstone ⟨0⟩).resolve (fun _ ↦ ⟨⟨0⟩, .ok .noResult⟩) deletedTwice =
      .resolved w ∧
    (∀ m ∈ deletedTwice.members, w.relate m = .dominates) ∧
    ∀ m ∈ deletedTwice.members, m.tombstone = true → m.modified ≤ w.modified := by
  intro w
  have hsound : deletedTwice.Sound := ⟨by decide, by decide, by decide⟩
  have hresolve : (Resolver.mk .tombstone ⟨0⟩).resolve (fun _ ↦ ⟨⟨0⟩, .ok .noResult⟩) deletedTwice =
      .resolved w := rfl
  obtain ⟨-, -, hdominates, -, -, -, hgone⟩ := resolved_version_supersedes _ _ hsound hresolve
  exact ⟨hsound, hresolve, hdominates, ((hgone rfl).2 rfl).2⟩

end CausalReplica
