import CausalReplica.Dict.Basic

/-!
# Two dictionaries side by side

Walking two dictionaries in lockstep gives one row per key that either side has, in key order. Joins
and comparisons of dictionaries are folds over these rows.
-/

namespace CausalReplica.Dict

variable {κ α β : Type} [Ord κ]

/-- What both sides hold under one key; at least one of them holds something. -/
structure Row (κ α β : Type) where
  key : κ
  left : Option α
  right : Option β
  deriving DecidableEq, Repr

/-- The rows of a left list that starts with `l`, given the rows of its rest against any list. -/
def alignCons (l : κ × α) (alignRest : List (κ × β) → List (Row κ α β)) :
    List (κ × β) → List (Row κ α β)
  | [] => ⟨l.1, some l.2, none⟩ :: alignRest []
  | r :: rs =>
    match compare l.1 r.1 with
    | .lt => ⟨l.1, some l.2, none⟩ :: alignRest (r :: rs)
    | .eq => ⟨l.1, some l.2, some r.2⟩ :: alignRest rs
    | .gt => ⟨r.1, none, some r.2⟩ :: alignCons l alignRest rs

/-- The rows of two ordered lists of keyed values. -/
def alignEntries : List (κ × α) → List (κ × β) → List (Row κ α β)
  | [] => fun rs ↦ rs.map fun r ↦ ⟨r.1, none, some r.2⟩
  | l :: ls => alignCons l (alignEntries ls)

/-- The rows of two dictionaries. -/
def align (a : Dict κ α) (b : Dict κ β) : List (Row κ α β) := alignEntries a.entries b.entries

theorem key_of_mem_alignEntries {ls : List (κ × α)} {rs : List (κ × β)} {x : Row κ α β}
    (h : x ∈ alignEntries ls rs) : x.key ∈ ls.map (·.1) ∨ x.key ∈ rs.map (·.1) := by
  induction ls generalizing rs with
  | nil =>
    obtain ⟨r, hr, rfl⟩ := List.mem_map.1 h
    exact Or.inr (List.mem_map_of_mem hr)
  | cons l ls ih =>
    have skip : ∀ {ys : List κ}, x.key ∈ ls.map (·.1) ∨ x.key ∈ ys →
        x.key ∈ (l :: ls).map (·.1) ∨ x.key ∈ ys :=
      fun h ↦ h.imp_left (List.mem_cons_of_mem _)
    induction rs with
    | nil =>
      rcases List.mem_cons.1 h with rfl | h
      · simp
      · exact skip (ih h)
    | cons r rs ihr =>
      simp only [alignEntries, alignCons] at h
      split at h <;> rcases List.mem_cons.1 h with rfl | h
      · simp
      · exact skip (ih h)
      · simp
      · exact (skip (ih h)).imp_right (List.mem_cons_of_mem _)
      · simp
      · exact (ihr h).imp_right (List.mem_cons_of_mem _)

theorem pairwise_alignEntries [Std.TransOrd κ] {ls : List (κ × α)} {rs : List (κ × β)}
    (hl : ls.Pairwise fun a b ↦ compare a.1 b.1 = .lt)
    (hr : rs.Pairwise fun a b ↦ compare a.1 b.1 = .lt) :
    (alignEntries ls rs).Pairwise fun a b ↦ compare a.key b.key = .lt := by
  have below : ∀ {γ : Type} {k : κ} {es : List (κ × γ)}, (∀ e ∈ es, compare k e.1 = .lt) →
      ∀ x ∈ es.map (·.1), compare k x = .lt := by
    intro γ k es h x hx
    obtain ⟨e, he, rfl⟩ := List.mem_map.1 hx
    exact h e he
  induction ls generalizing rs with
  | nil => exact List.pairwise_map.2 hr
  | cons l ls ih =>
    obtain ⟨hl0, hls⟩ := List.pairwise_cons.1 hl
    induction rs with
    | nil =>
      refine List.pairwise_cons.2 ⟨fun x hx ↦ ?_, ih hls .nil⟩
      exact (key_of_mem_alignEntries hx).elim (below hl0 _) (by simp)
    | cons r rs ihr =>
      obtain ⟨hr0, hrs⟩ := List.pairwise_cons.1 hr
      simp only [alignEntries, alignCons]
      split <;> rename_i hk
      · refine List.pairwise_cons.2 ⟨fun x hx ↦ ?_, ih hls hr⟩
        refine (key_of_mem_alignEntries hx).elim (below hl0 _) (below (fun e he ↦ ?_) _)
        rcases List.mem_cons.1 he with rfl | he
        · exact hk
        · exact Std.TransCmp.lt_trans hk (hr0 e he)
      · refine List.pairwise_cons.2 ⟨fun x hx ↦ ?_, ih hls hrs⟩
        refine (key_of_mem_alignEntries hx).elim (below hl0 _) (below (fun e he ↦ ?_) _)
        exact Std.TransCmp.lt_of_eq_of_lt hk (hr0 e he)
      · refine List.pairwise_cons.2 ⟨fun x hx ↦ ?_, ihr hrs⟩
        have hk : compare r.1 l.1 = .lt := Std.OrientedCmp.lt_of_gt hk
        have hx : x ∈ alignEntries (l :: ls) rs := hx
        refine (key_of_mem_alignEntries hx).elim (below (fun e he ↦ ?_) _) (below hr0 _)
        rcases List.mem_cons.1 he with rfl | he
        · exact hk
        · exact Std.TransCmp.lt_trans hk (hl0 e he)

/-- Both sides of a row through one function that sees what each holds. -/
def join [Std.TransOrd κ] (f : Option α → Option α → α) (a b : Dict κ α) : Dict κ α :=
  ⟨(align a b).map fun row ↦ (row.key, f row.left row.right),
    List.pairwise_map.2 (pairwise_alignEntries a.sorted b.sorted)⟩

end CausalReplica.Dict
