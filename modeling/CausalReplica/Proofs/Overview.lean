import CausalReplica.History
import CausalReplica.Proofs.Dict
import Mathlib.Algebra.BigOperators.Group.Finset.Basic
import Mathlib.Algebra.GroupWithZero.Nat
import Mathlib.Data.List.Sort
import Mathlib.Data.String.Basic

/-!
# What the overview shows

The overview joins two dictionaries whose keys need not agree: a collection may have open conflicts
and no last attempt, or the other way round. Its total is not taken from its rows but from the list
of conflicts. Still every conflict counts in exactly one row, since the names of the rows are those
of either side, each of them once.

Both sides come about by one step for each conflict or attempt. What a step does to a look-up gives,
by induction, the look-up after all of them; the rows only put look-ups side by side.
-/

namespace CausalReplica.History

variable {h : History} {name : String} {conflicts : List Conflict}
  {attempts : List (String × Attempt)}

/-! ## Either side -/

theorem find?_foldl_count (counts : Dict String ℕ) :
    (conflicts.foldl (fun counts c ↦
      let name := c.collection?.getD ""
      counts.insert name ((counts.find? name).getD 0 + 1)) counts).find? name =
    if conflicts.countP (·.collection?.getD "" = name) = 0 then counts.find? name
    else some ((counts.find? name).getD 0 + conflicts.countP (·.collection?.getD "" = name)) := by
  induction conflicts generalizing counts with
  | nil => rfl
  | cons c conflicts ih =>
    rw [List.foldl_cons, ih]
    by_cases hc : c.collection?.getD "" = name
    · rw [hc, Dict.find?_insert_self, List.countP_cons_of_pos (by simpa using hc),
        if_neg (Nat.succ_ne_zero _), Option.getD_some, Nat.add_assoc, Nat.add_comm 1]
      split <;> rename_i hzero
      · rw [hzero]
      · rfl
    · rw [Dict.find?_insert_ne _ (Ne.symm hc), List.countP_cons_of_neg (by simpa using hc)]

theorem find?_openCounts (conflicts : List Conflict) (name : String) :
    (openCounts conflicts).find? name =
      if conflicts.countP (·.collection?.getD "" = name) = 0 then none
      else some (conflicts.countP (·.collection?.getD "" = name)) := by
  rw [openCounts, find?_foldl_count, Dict.find?_empty, Option.getD_none, Nat.zero_add]

theorem getD_openCounts (conflicts : List Conflict) (name : String) :
    ((openCounts conflicts).find? name).getD 0 =
      conflicts.countP (·.collection?.getD "" = name) := by
  rw [find?_openCounts]
  split <;> rename_i hzero
  · exact hzero.symm
  · rfl

theorem mem_keys_openCounts :
    name ∈ (openCounts conflicts).keys ↔ ∃ c ∈ conflicts, c.collection?.getD "" = name := by
  rw [← not_iff_not, ← Dict.find?_eq_none_iff, find?_openCounts]
  split <;> rename_i hzero <;> rw [List.countP_eq_zero] at hzero
  · simpa using hzero
  · simpa using hzero

/-- The last attempt of a collection is the last one that was kept for it, and before that what it
was. -/
theorem find?_recordAll (h : History) (attempts : List (String × Attempt)) (name : String) :
    (h.recordAll attempts).last.find? name =
      ((attempts.filter (·.1 = name)).getLast?.map (·.2)).or (h.last.find? name) := by
  induction attempts generalizing h with
  | nil => rfl
  | cons a attempts ih =>
    refine (ih (h.record a.1 a.2)).trans ?_
    rw [record]
    by_cases ha : a.1 = name
    · rw [ha, Dict.find?_insert_self, List.filter_cons_of_pos (by simpa using ha),
        List.getLast?_cons]
      cases (attempts.filter (·.1 = name)).getLast? with
      | none => rfl
      | some last => rfl
    · rw [Dict.find?_insert_ne _ (Ne.symm ha), List.filter_cons_of_neg (by simpa using ha)]

theorem find?_recordAll_empty (attempts : List (String × Attempt)) (name : String) :
    (empty.recordAll attempts).last.find? name =
      (attempts.filter (·.1 = name)).getLast?.map (·.2) := by
  rw [find?_recordAll, empty, Dict.find?_empty, Option.or_none]

theorem mem_keys_recordAll_empty :
    name ∈ (empty.recordAll attempts).last.keys ↔ ∃ a ∈ attempts, a.1 = name := by
  rw [← not_iff_not, ← Dict.find?_eq_none_iff, find?_recordAll_empty, Option.map_eq_none_iff,
    List.getLast?_eq_none_iff, List.filter_eq_nil_iff]
  push Not
  simp only [ne_eq, decide_eq_true_iff]

/-! ## The rows -/

theorem mem_rows {row : CollectionStatus} : row ∈ (h.overview conflicts).rows ↔
    ((∃ c ∈ conflicts, c.collection?.getD "" = row.collection) ∨
      row.collection ∈ h.last.keys) ∧
    row.unresolved = conflicts.countP (·.collection?.getD "" = row.collection) ∧
    row.last = h.last.find? row.collection := by
  rw [overview, List.mem_map]
  constructor
  · rintro ⟨x, hx, rfl⟩
    obtain ⟨hkey, hleft, hright⟩ := Dict.mem_align.1 hx
    exact ⟨hkey.imp_left mem_keys_openCounts.1, by rw [hleft, getD_openCounts], hright⟩
  · obtain ⟨name, unresolved, last⟩ := row
    rintro ⟨hkey, hunresolved, hlast⟩
    refine ⟨⟨name, (openCounts conflicts).find? name, h.last.find? name⟩,
      Dict.mem_align.2 ⟨hkey.imp_left mem_keys_openCounts.2, rfl, rfl⟩, ?_⟩
    rw [getD_openCounts, ← hunresolved, ← hlast]

theorem sortedLT_rows (h : History) (conflicts : List Conflict) :
    ((h.overview conflicts).rows.map (·.collection)).SortedLT := by
  rw [List.sortedLT_iff_pairwise, overview, List.map_map, List.pairwise_map]
  exact (Dict.pairwise_alignEntries (openCounts conflicts).sorted h.last.sorted).imp
    fun hlt ↦ compare_lt_iff_lt.1 hlt

theorem exists_row_iff : (∃ row ∈ (h.overview conflicts).rows, row.collection = name) ↔
    (∃ c ∈ conflicts, c.collection?.getD "" = name) ∨ name ∈ h.last.keys := by
  constructor
  · rintro ⟨row, hrow, rfl⟩
    exact (mem_rows.1 hrow).1
  · intro hname
    refine ⟨⟨name, conflicts.countP (·.collection?.getD "" = name), h.last.find? name⟩,
      mem_rows.2 ⟨hname, rfl, rfl⟩, rfl⟩

theorem eq_of_mem_rows {row : CollectionStatus} (hrow : row ∈ (h.overview conflicts).rows) :
    row = ⟨row.collection, conflicts.countP (·.collection?.getD "" = row.collection),
      h.last.find? row.collection⟩ := by
  obtain ⟨-, hcount, hlast⟩ := mem_rows.1 hrow
  rw [← hcount, ← hlast]

theorem row?_collection {row : CollectionStatus} (hrow : row ∈ (h.overview conflicts).rows) :
    (h.overview conflicts).row? row.collection = some row := by
  have hsome : ((h.overview conflicts).row? row.collection).isSome := by
    rw [Overview.row?, List.find?_isSome]
    exact ⟨row, hrow, decide_eq_true rfl⟩
  obtain ⟨found, hfound⟩ := Option.isSome_iff_exists.1 hsome
  have hname : found.collection = row.collection :=
    of_decide_eq_true (List.find?_some hfound :)
  have hmem : found ∈ (h.overview conflicts).rows := List.mem_of_find?_eq_some hfound
  rw [hfound, eq_of_mem_rows hmem, hname, ← eq_of_mem_rows hrow]

theorem sum_unresolved (h : History) (conflicts : List Conflict) :
    ((h.overview conflicts).rows.map (·.unresolved)).sum = conflicts.length := by
  let counted : Multiset String := ↑(conflicts.map (·.collection?.getD ""))
  have hcounts : (h.overview conflicts).rows.map (·.unresolved) =
      ((h.overview conflicts).rows.map (·.collection)).map (counted.count ·) := by
    rw [List.map_map]
    refine List.map_congr_left fun row hrow ↦ ?_
    obtain ⟨-, hcount, -⟩ := mem_rows.1 hrow
    rw [hcount, Function.comp_apply, Multiset.coe_count, List.count_eq_countP, List.countP_map]
    exact List.countP_congr fun c _ ↦ by simp
  have hcovers : ∀ name ∈ counted,
      name ∈ ((h.overview conflicts).rows.map (·.collection)).toFinset := by
    intro name hname
    rw [List.mem_toFinset, List.mem_map, exists_row_iff]
    exact .inl (List.mem_map.1 (Multiset.mem_coe.1 hname))
  have hsum := Multiset.sum_count_eq_card hcovers
  rw [List.sum_toFinset _ (h.sortedLT_rows conflicts).nodup, Multiset.coe_card,
    List.length_map] at hsum
  rw [hcounts, hsum]

/-! ## Name by name -/

theorem mem_withoutRepeats {names : List String} : name ∈ withoutRepeats names ↔ name ∈ names := by
  fun_induction withoutRepeats names with
  | case1 => rfl
  | case2 => rfl
  | case3 b rest ih => simp [ih]
  | case4 a b rest hne ih => rw [List.mem_cons, ih, ← List.mem_cons]

/-- Equal names stand next to each other where they are sorted. -/
theorem sortedLT_withoutRepeats {names : List String} (hs : names.Pairwise (· ≤ ·)) :
    (withoutRepeats names).SortedLT := by
  rw [List.sortedLT_iff_pairwise]
  fun_induction withoutRepeats names with
  | case1 => exact .nil
  | case2 a => exact List.pairwise_singleton _ _
  | case3 b rest ih => exact ih hs.of_cons
  | case4 a b rest hne ih =>
    obtain ⟨ha, hrest⟩ := List.pairwise_cons.1 hs
    obtain ⟨hb, -⟩ := List.pairwise_cons.1 hrest
    refine List.pairwise_cons.2 ⟨fun x hx ↦ ?_, ih hrest⟩
    have hlt : a < b := (ha b List.mem_cons_self).lt_of_ne hne
    rcases List.mem_cons.1 (mem_withoutRepeats.1 hx) with rfl | hx
    · exact hlt
    · exact hlt.trans_le (hb x hx)

theorem names_eq (h : History) (conflicts : List Conflict) :
    h.names conflicts = (h.overview conflicts).rows.map (·.collection) := by
  have hsorted : ((openCounts conflicts).keys ++ h.last.keys).mergeSort.Pairwise (· ≤ ·) :=
    List.pairwise_mergeSort' (· ≤ ·) _
  refine (sortedLT_withoutRepeats hsorted).eq_of_mem_iff (h.sortedLT_rows conflicts) fun name ↦ ?_
  rw [mem_withoutRepeats, List.mem_mergeSort, List.mem_append, mem_keys_openCounts, List.mem_map,
    exists_row_iff]

/-- Walking along both sides in lockstep comes to the same as looking up every name. -/
theorem overview_eq_overviewByName (h : History) (conflicts : List Conflict) :
    h.overview conflicts = h.overviewByName conflicts := by
  have hrows : (h.overview conflicts).rows = (h.names conflicts).map fun name ↦
      ⟨name, ((openCounts conflicts).find? name).getD 0, h.last.find? name⟩ := by
    rw [names_eq, List.map_map]
    refine (List.map_id _).symm.trans (List.map_congr_left fun row hrow ↦ ?_)
    rw [Function.comp_apply, getD_openCounts]
    exact eq_of_mem_rows hrow
  rw [overviewByName]
  exact congrArg (Overview.mk conflicts.length) hrows

/-! ## After any attempts -/

/-- After any attempts and for any open conflicts the overview adds up. Its rows stand in the order
of their names, without repeats. A collection has a row exactly if a conflict counts under its name
or an attempt was kept for it; the row shows how many conflicts these are and what the last attempt
was, and it is found by its name. Together the rows count every conflict once. -/
theorem overview_adds_up (attempts : List (String × Attempt)) (conflicts : List Conflict) :
    let o := (empty.recordAll attempts).overview conflicts
    o = (empty.recordAll attempts).overviewByName conflicts ∧
    (o.rows.Pairwise fun row next ↦ row.collection < next.collection) ∧
    (∀ name, (∃ row ∈ o.rows, row.collection = name) ↔
      (∃ c ∈ conflicts, c.collection?.getD "" = name) ∨ ∃ a ∈ attempts, a.1 = name) ∧
    (∀ row ∈ o.rows,
      row.unresolved = conflicts.countP (·.collection?.getD "" = row.collection) ∧
      row.last = (attempts.filter (·.1 = row.collection)).getLast?.map (·.2) ∧
      o.row? row.collection = some row) ∧
    (o.rows.map (·.unresolved)).sum = o.unresolved ∧ o.unresolved = conflicts.length := by
  intro o
  have hsorted := ((empty.recordAll attempts).sortedLT_rows conflicts).pairwise
  refine ⟨overview_eq_overviewByName _ _, List.pairwise_map.1 hsorted, fun name ↦ ?_,
    fun row hrow ↦ ?_, sum_unresolved _ _, rfl⟩
  · rw [exists_row_iff, mem_keys_recordAll_empty]
  · obtain ⟨-, hcount, hlast⟩ := mem_rows.1 hrow
    exact ⟨hcount, hlast.trans (find?_recordAll_empty _ _), row?_collection hrow⟩

end CausalReplica.History
