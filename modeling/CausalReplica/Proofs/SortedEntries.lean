import CausalReplica.Dict.Search
import CausalReplica.Proofs.Dict

/-!
# Bisecting and sorting entries

In an ordered list a key has smaller keys before it and greater keys behind it, and so has the
position at which a missing key would have to stand. A search ends at such a place: what lies before
its range stays smaller and what lies behind it stays greater, whichever half is given up. Look-ups
and insertions can be read off that place, so bisection does the work of `lookup` and `insertEntry`.

Nor do the entries of a dictionary have to be put in one by one. Entries that are collected in any
order stand as in the dictionary once they are sorted by their keys.
-/

namespace CausalReplica.Dict

variable {κ α : Type} [Ord κ]

/-- The place at which a search for `k` has to end. -/
inductive Separates (k : κ) (es : List (κ × α)) : Place es.length → Prop
  | found (i : Fin es.length) (key : (es.get i).1 = k)
    (less : ∀ e ∈ es.take i, compare e.1 k = .lt) : Separates k es (.found i)
  | missing (i : Fin (es.length + 1)) (less : ∀ e ∈ es.take i, compare e.1 k = .lt)
    (greater : ∀ e ∈ es.drop i, compare k e.1 = .lt) : Separates k es (.missing i)

/-! ## Where a search ends -/

theorem lt_get {es : List (κ × α)} (hs : es.Pairwise fun a b ↦ compare a.1 b.1 = .lt)
    (i : Fin es.length) : (∀ e ∈ es.take i, compare e.1 (es.get i).1 = .lt) ∧
      ∀ e ∈ es.drop (i + 1), compare (es.get i).1 e.1 = .lt := by
  have hsplit : es.take i ++ es.get i :: es.drop (i + 1) = es := by
    rw [List.get_eq_getElem, List.getElem_cons_drop, List.take_append_drop]
  rw [← hsplit, List.pairwise_append, List.pairwise_cons] at hs
  obtain ⟨-, ⟨hafter, -⟩, hbefore⟩ := hs
  exact ⟨fun e he ↦ hbefore e he _ List.mem_cons_self, hafter⟩

section Search

variable [Std.TransOrd κ] [Std.LawfulEqOrd κ] {k : κ} {es : List (κ × α)}

/-- All keys before the range are smaller and all keys behind it are greater; each step of the
search keeps this. -/
theorem bisect_separates (hs : es.Pairwise fun a b ↦ compare a.1 b.1 = .lt) {low : ℕ}
    {high : Fin (es.length + 1)} (hle : low ≤ high) (hless : ∀ e ∈ es.take low, compare e.1 k = .lt)
    (hgreater : ∀ e ∈ es.drop high, compare k e.1 = .lt) :
    Separates k es (bisect k es low high) := by
  fun_induction bisect k es low high with
  | case1 low high h middle hk ih =>
    obtain ⟨hbefore, -⟩ := lt_get hs middle
    have hmiddle : middle.val + 1 ≤ high := by
      have hval : middle.val = low + (high - low) / 2 := rfl
      omega
    refine ih hmiddle (fun e he ↦ ?_) hgreater
    rw [← List.take_append_getElem middle.isLt, List.mem_append, List.mem_singleton] at he
    rcases he with he | rfl
    · exact Std.TransCmp.lt_trans (hbefore e he) hk
    · exact hk
  | case2 low high h middle hk =>
    have hkey : (es.get middle).1 = k := Std.compare_eq_iff_eq.1 hk
    obtain ⟨hbefore, -⟩ := lt_get hs middle
    exact .found middle hkey fun e he ↦ hkey ▸ hbefore e he
  | case3 low high h middle hk ih =>
    have hk : compare k (es.get middle).1 = .lt := Std.OrientedCmp.lt_of_gt hk
    obtain ⟨-, hafter⟩ := lt_get hs middle
    refine ih (Nat.le_add_right _ _) hless fun e he ↦ ?_
    rw [Fin.val_castSucc, ← List.getElem_cons_drop middle.isLt] at he
    exact lt_of_lt_head hk hafter e he
  | case4 low high h =>
    obtain rfl : low = high := Nat.le_antisymm hle (Nat.not_lt.1 h)
    exact .missing high hless hgreater

theorem search_separates (k : κ) (hs : es.Pairwise fun a b ↦ compare a.1 b.1 = .lt) :
    Separates k es (search k es) := by
  refine bisect_separates hs (Nat.zero_le _) (fun e he ↦ ?_) fun e he ↦ ?_
  · simp at he
  · simp at he

theorem searched?_eq_lookup (k : κ) (hs : es.Pairwise fun a b ↦ compare a.1 b.1 = .lt) :
    searched? k es = lookup k es := by
  rw [searched?]
  have hplace := search_separates k hs
  generalize search k es = place at hplace ⊢
  cases hplace with
  | found i key less => exact (lookup_of_mem hs (key ▸ List.get_mem es i)).symm
  | missing i less greater =>
    refine (lookup_eq_none fun e he ↦ ?_).symm
    rw [← List.take_append_drop i es, List.mem_append] at he
    rcases he with he | he
    · rw [Std.OrientedCmp.gt_of_lt (less e he)]
      simp
    · rw [greater e he]
      simp

end Search

/-! ## Changing a list at a place

Both inductions take the smaller keys before the place away one by one. -/

section Change

variable [Std.TransOrd κ] {k : κ} {es : List (κ × α)} {i : ℕ}

theorem set_eq_insertEntry [Std.LawfulEqOrd κ] (h : i < es.length) (key : es[i].1 = k)
    (less : ∀ e ∈ es.take i, compare e.1 k = .lt) (a : α) :
    es.set i (k, a) = insertEntry k a es := by
  induction i generalizing es with
  | zero =>
    obtain ⟨e, rest, rfl⟩ := List.exists_cons_of_length_pos h
    have hself : compare k e.1 = .eq := Std.compare_eq_iff_eq.2 key.symm
    simp only [List.set_cons_zero, insertEntry, hself]
  | succ i ih =>
    obtain ⟨e, rest, rfl⟩ := List.exists_cons_of_length_pos (Nat.zero_lt_of_lt h)
    rw [List.take_succ_cons, List.forall_mem_cons] at less
    have hgt : compare k e.1 = .gt := Std.OrientedCmp.gt_of_lt less.1
    simp only [List.set_cons_succ, insertEntry, hgt,
      ih (Nat.lt_of_succ_lt_succ h) key less.2]

theorem insertIdx_eq_insertEntry (h : i ≤ es.length)
    (less : ∀ e ∈ es.take i, compare e.1 k = .lt) (greater : ∀ e ∈ es.drop i, compare k e.1 = .lt)
    (a : α) : es.insertIdx i (k, a) = insertEntry k a es := by
  induction i generalizing es with
  | zero =>
    cases es with
    | nil => rfl
    | cons e rest =>
      have hlt : compare k e.1 = .lt := greater e List.mem_cons_self
      simp only [List.insertIdx_zero, insertEntry, hlt]
  | succ i ih =>
    obtain ⟨e, rest, rfl⟩ := List.exists_cons_of_length_pos (Nat.zero_lt_of_lt h)
    rw [List.take_succ_cons, List.forall_mem_cons] at less
    have hgt : compare k e.1 = .gt := Std.OrientedCmp.gt_of_lt less.1
    simp only [List.insertIdx_succ_cons, insertEntry, hgt,
      ih (Nat.le_of_succ_le_succ h) less.2 greater]

end Change

theorem insertEntry_eq_search [Std.TransOrd κ] [Std.LawfulEqOrd κ] (k : κ) (a : α)
    {es : List (κ × α)} (hs : es.Pairwise fun a b ↦ compare a.1 b.1 = .lt) :
    insertEntry k a es = match search k es with
      | .found i => es.set i (k, a)
      | .missing i => es.insertIdx i (k, a) := by
  have hplace := search_separates k hs
  generalize search k es = place at hplace ⊢
  cases hplace with
  | found i key less => exact (set_eq_insertEntry i.isLt key less a).symm
  | missing i less greater =>
    exact (insertIdx_eq_insertEntry (Nat.le_of_lt_succ i.isLt) less greater a).symm

/-! ## Sorting what was collected -/

theorem perm_insertEntry {k : κ} {es : List (κ × α)} (h : ∀ e ∈ es, compare k e.1 ≠ .eq) (a : α) :
    (insertEntry k a es).Perm ((k, a) :: es) := by
  induction es with
  | nil => exact .rfl
  | cons e rest ih =>
    rw [List.forall_mem_cons] at h
    rw [insertEntry]
    split <;> rename_i hk
    · exact .rfl
    · exact absurd hk h.1
    · exact ((ih h.2).cons e).trans (.swap _ _ _)

/-- Sorted by their keys, the entries of a dictionary stand in its order, however they stood
before. -/
theorem mergeSort_of_perm [Std.TransOrd κ] [Std.LawfulEqOrd κ] {d : Dict κ α} {es : List (κ × α)}
    (h : es.Perm d.entries) : (es.mergeSort fun x y ↦ (compare x.1 y.1).isLE) = d.entries := by
  let le (x y : κ × α) : Bool := (compare x.1 y.1).isLE
  have le_of_lt : ∀ {x y : κ × α}, compare x.1 y.1 = .lt → le x y = true := fun hlt ↦
    congrArg Ordering.isLE hlt
  have htotal : ∀ x y, (le x y || le y x) = true := by
    intro x y
    by_cases hxy : le x y = true
    · rw [hxy, Bool.true_or]
    · rw [le_of_lt (Std.OrientedCmp.lt_of_not_isLE hxy), Bool.or_true]
  have hperm : (es.mergeSort le).Perm d.entries := (List.mergeSort_perm es le).trans h
  have hsorted : (es.mergeSort le).Pairwise fun x y ↦ le x y = true :=
    List.pairwise_mergeSort (fun _ _ _ ↦ Std.TransCmp.isLE_trans) htotal es
  -- No two entries have the same key, so only one order of them is sorted.
  refine hperm.eq_of_pairwise (fun x y hx hy hxy hyx ↦ ?_) hsorted (d.sorted.imp le_of_lt)
  have hkey : x.1 = y.1 := Std.compare_eq_iff_eq.1 (Std.OrientedCmp.isLE_antisymm hxy hyx)
  have hvalue : d.find? y.1 = some x.2 := hkey ▸ mem_entries_iff.1 (hperm.mem_iff.1 hx)
  rw [mem_entries_iff.1 hy] at hvalue
  exact Prod.ext hkey (Option.some.inj hvalue).symm

end CausalReplica.Dict
