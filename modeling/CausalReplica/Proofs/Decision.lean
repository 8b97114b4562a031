import CausalReplica.Proofs.Processing

/-!
# What decides a verdict

The verdict on a version depends on how it stands to each version that is known of its document, and
on nothing else. There are four cases: some known version is equal to it; none is equal, but some
dominates it; it dominates all of them; or none covers it, and some is concurrent with it. They
exclude each other, so each verdict can be read backwards as well.
-/

namespace CausalReplica

/-- The document of which something is known. -/
def Known.document : Known → Option String
  | .clean stored => stored.map (·.id)
  | .conflicted c => some c.id

namespace Verdict

variable {known : Known} {v : Version}

/-! ## The four cases -/

/-- A verdict, and how the version stands to the known ones where it is given. -/
inductive Decides (known : Known) (v : Version) : Verdict → Prop
  | applied (equal : ∃ w ∈ known.versions, v.relate w = .equal) :
    Decides known v (.reject .alreadyApplied)
  | dominated (different : ∀ w ∈ known.versions, v.relate w ≠ .equal)
    (below : ∃ w ∈ known.versions, v.relate w = .dominated) :
    Decides known v (.reject .dominated)
  | accepted (above : ∀ w ∈ known.versions, v.relate w = .dominates) : Decides known v (.accept v)
  | conflicting (c : Conflict) (document : known.document = some c.id)
    (members : c.members = v.remaining known.versions ++ [v])
    (new : ∀ w ∈ known.versions, v.relate w = .dominates ∨ v.relate w = .concurrent)
    (beside : ∃ w ∈ known.versions, v.relate w = .concurrent) : Decides known v (.conflict c)

/-- No two of the cases meet, and a conflict is determined by what is known. -/
theorem Decides.unique {a b : Verdict} (ha : Decides known v a) (hb : Decides known v b) :
    a = b := by
  cases ha with
  | applied equal =>
    cases hb with
    | applied => rfl
    | _ => grind
  | dominated different below =>
    cases hb with
    | dominated => rfl
    | _ => grind
  | accepted above =>
    cases hb with
    | accepted => rfl
    | _ => grind
  | conflicting c document members =>
    cases hb with
    | conflicting d document' members' =>
      have hid : c.id = d.id := Option.some.inj (document.symm.trans document')
      have hmembers : c.members = d.members := members.trans members'.symm
      exact congrArg conflict (Conflict.mk.injEq .. ▸ ⟨hid, hmembers⟩)
    | _ => grind

theorem againstStored_decides (existing v : Version) :
    Decides (.clean (some existing)) v (againstStored existing v) := by
  rw [againstStored]
  cases h : v.relate existing with
  | equal => exact .applied ⟨existing, List.mem_singleton_self _, h⟩
  | dominates => exact .accepted fun w hw ↦ List.mem_singleton.1 hw ▸ h
  | dominated =>
    refine .dominated (fun w hw ↦ ?_) ⟨existing, List.mem_singleton_self _, h⟩
    rw [List.mem_singleton.1 hw, h]
    exact Causality.noConfusion
  | concurrent =>
    refine .conflicting _ rfl ?_ (fun w hw ↦ .inr (List.mem_singleton.1 hw ▸ h))
      ⟨existing, List.mem_singleton_self _, h⟩
    simp [Version.remaining, Known.versions, h]

/-- A version that no member covers is inserted. It is alone then if it dominates all members, and
otherwise it joins those that it is concurrent with. -/
theorem amongConflict_decides (c : Conflict) (v : Version) :
    Decides (.conflicted c) v (amongConflict c v) := by
  rw [amongConflict, rejection?]
  by_cases hequal : ∃ m ∈ c.members, v.relate m = .equal
  · rw [if_pos (by simpa using hequal)]
    exact .applied hequal
  by_cases hbelow : ∃ m ∈ c.members, v.relate m = .dominated
  · rw [if_neg (by simpa using hequal), if_pos (by simpa using hbelow)]
    exact .dominated (fun m hm h ↦ hequal ⟨m, hm, h⟩) hbelow
  rw [if_neg (by simpa using hequal), if_neg (by simpa using hbelow)]
  have hnot : ∀ m ∈ c.members, ¬v.vector ≤ m.vector := by
    intro m hm hle
    rcases Version.relate_covered_iff.2 hle with h | h
    · exact hbelow ⟨m, hm, h⟩
    · exact hequal ⟨m, hm, h⟩
  have hnew : ∀ m ∈ c.members, v.relate m = .dominates ∨ v.relate m = .concurrent := fun m hm ↦
    Version.relate_new_iff.2 (hnot m hm)
  rw [Conflict.insert_of_not_covered hnot]
  dsimp only
  split <;> rename_i hsize
  · refine .conflicting _ rfl rfl hnew ?_
    rw [Conflict.size, List.length_append, List.length_singleton, Nat.lt_add_left_iff_pos] at hsize
    obtain ⟨m, hm⟩ := List.exists_mem_of_length_pos hsize
    obtain ⟨hmem, hkept⟩ := List.mem_filter.1 hm
    exact ⟨m, hmem, (hnew m hmem).resolve_left (bne_iff_ne.1 hkept)⟩
  · refine .accepted fun m hm ↦ ?_
    by_contra h
    have hkept : m ∈ c.kept v := List.mem_filter.2 ⟨hm, bne_iff_ne.2 h⟩
    have hpos := List.length_pos_of_mem hkept
    rw [Conflict.size, List.length_append, List.length_singleton] at hsize
    omega

theorem judge_decides (v : Version) (known : Known) : Decides known v (judge v known) := by
  match known with
  | .clean none => exact .accepted fun w hw ↦ absurd hw List.not_mem_nil
  | .clean (some existing) => exact againstStored_decides existing v
  | .conflicted c => exact amongConflict_decides c v

theorem judge_eq_iff {verdict : Verdict} : judge v known = verdict ↔ Decides known v verdict := by
  constructor
  · rintro rfl
    exact judge_decides v known
  · exact (judge_decides v known).unique

/-! ## Reading verdicts backwards -/

theorem decides_conflict_iff {c : Conflict} : Decides known v (.conflict c) ↔
    (∀ w ∈ known.versions, v.relate w ≠ .equal ∧ v.relate w ≠ .dominated) ∧
    (∃ w ∈ known.versions, v.relate w ≠ .dominates) ∧
    known.document = some c.id ∧ c.members = v.remaining known.versions ++ [v] := by
  constructor
  · intro h
    cases h with
    | conflicting _ document members new beside =>
      refine ⟨fun w hw ↦ ?_, ?_, document, members⟩
      · rcases new w hw with h | h <;> simp [h]
      · obtain ⟨w, hw, h⟩ := beside
        exact ⟨w, hw, by simp [h]⟩
  · rintro ⟨hnew, ⟨w, hw, hbeside⟩, document, members⟩
    have new : ∀ u ∈ known.versions, v.relate u = .dominates ∨ v.relate u = .concurrent := by
      intro u hu
      refine Version.relate_new_iff.2 fun hle ↦ ?_
      rcases Version.relate_covered_iff.2 hle with h | h
      · exact (hnew u hu).2 h
      · exact (hnew u hu).1 h
    exact .conflicting c document members new ⟨w, hw, (new w hw).resolve_left hbeside⟩

/-- Whoever is concurrent with the version stays beside it, and no other pair is new. -/
theorem Decides.sound_of_pairwise {c : Conflict} (h : Decides known v (.conflict c))
    (hconcurrent : known.versions.Pairwise fun u w ↦ u.relate w = .concurrent) :
    2 ≤ c.size ∧ c.members.Pairwise fun u w ↦ u.relate w = .concurrent := by
  cases h with
  | conflicting _ document members new beside =>
    constructor
    · obtain ⟨w, hw, hbeside⟩ := beside
      have hmem : w ∈ v.remaining known.versions :=
        List.mem_filter.2 ⟨hw, by simp [hbeside]⟩
      have hpos := List.length_pos_of_mem hmem
      rw [Conflict.size, members, List.length_append, List.length_singleton]
      omega
    · rw [members]
      exact Conflict.pairwise_kept_append (c := ⟨c.id, known.versions⟩)
        (Conflict.isAntichain_iff.2 hconcurrent) fun w hw ↦ Version.relate_new_iff.1 (new w hw)

/-- A verdict is reached at no fault, and it tells how the version stands to what is known. The
version has been applied already if some known version is equal to it, and it is dominated if none
is equal but some dominates it. It is accepted as it is if it dominates all known versions. In every
other case it is in conflict with the known versions that it does not dominate, which keep their
order before it. If no two known versions are ordered, none are in that conflict, and it has at
least two members. -/
theorem verdict_follows_relations (v : Version) (known : Known) :
    attempt v known = .ok (judge v known) ∧
    (judge v known = .reject .alreadyApplied ↔ ∃ w ∈ known.versions, v.relate w = .equal) ∧
    (judge v known = .reject .dominated ↔
      (∀ w ∈ known.versions, v.relate w ≠ .equal) ∧
        ∃ w ∈ known.versions, w.relate v = .dominates) ∧
    (∀ u, judge v known = .accept u ↔
      u = v ∧ ∀ w ∈ known.versions, v.relate w = .dominates) ∧
    (∀ c, judge v known = .conflict c ↔
      (∀ w ∈ known.versions, v.relate w ≠ .equal ∧ w.relate v ≠ .dominates) ∧
      (∃ w ∈ known.versions, v.relate w ≠ .dominates) ∧
      known.document = some c.id ∧ c.members = v.remaining known.versions ++ [v]) ∧
    (known.versions.Pairwise (fun u w ↦ u.relate w = .concurrent) →
      ∀ c, judge v known = .conflict c →
        2 ≤ c.size ∧ c.members.Pairwise fun u w ↦ u.relate w = .concurrent) := by
  have hbelow : ∀ w : Version, w.relate v = .dominates ↔ v.relate w = .dominated := fun w ↦
    Version.relate_eq_dominates_iff.trans VersionVector.relate_eq_dominated_iff.symm
  simp only [ne_eq, hbelow, judge_eq_iff]
  refine ⟨attempt_eq_judge v known, ?_, ?_, fun u ↦ ?_, fun c ↦ ?_, fun hconcurrent c h ↦ ?_⟩
  · constructor
    · intro h
      cases h with
      | applied equal => exact equal
    · exact .applied
  · constructor
    · intro h
      cases h with
      | dominated different below => exact ⟨different, below⟩
    · rintro ⟨different, below⟩
      exact .dominated different below
  · constructor
    · intro h
      cases h with
      | accepted above => exact ⟨rfl, above⟩
    · rintro ⟨rfl, above⟩
      exact .accepted above
  · exact decides_conflict_iff
  · exact h.sound_of_pairwise hconcurrent

/-- The first writes of three nodes. -/
def starts : List Version :=
  [1, 2, 3].map fun n ↦ .document "d" "Users" [n] (.authored (.ofByte n)) 1

/-- A write of a fourth node on top of the first one. -/
def successor : Version :=
  .document "d" "Users" [4] (.merge (.authored (.ofByte 1)) (.authored (.ofByte 4))) 2

/-- The write that was built upon leaves the conflict, and the other two stay. -/
theorem verdict_follows_relations_successor :
    starts.Pairwise (fun u w ↦ u.relate w = .concurrent) ∧
    judge successor (.conflicted ⟨"d", starts⟩) =
      .conflict ⟨"d", [starts[1], starts[2], successor]⟩ ∧
    [starts[1], starts[2], successor].Pairwise fun u w ↦ u.relate w = .concurrent := by
  have hstarts : starts.Pairwise fun u w ↦ u.relate w = .concurrent := by decide
  obtain ⟨-, -, -, -, hconflict, hpairwise⟩ :=
    verdict_follows_relations successor (.conflicted ⟨"d", starts⟩)
  have hjudge : judge successor (.conflicted ⟨"d", starts⟩) =
      .conflict ⟨"d", [starts[1], starts[2], successor]⟩ :=
    (hconflict _).2 ⟨by decide, by decide, rfl, by decide⟩
  obtain ⟨-, hmembers⟩ := hpairwise hstarts _ hjudge
  exact ⟨hstarts, hjudge, hmembers⟩

end Verdict

end CausalReplica
