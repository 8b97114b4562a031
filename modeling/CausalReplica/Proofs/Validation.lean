import CausalReplica.Proofs.BareVector
import CausalReplica.Proofs.Wire
import Mathlib.Data.List.Nodup

/-!
# Which lists of entries are vectors

An entry of a list is faulty if its node stands before it, whatever the counters of the two are, or
if its counter is negative. The first faulty entry is the one that is reported. The entries before
it have distinct nodes, so they are read as a vector, and the nodes that have been seen by then are
theirs, those with counter zero included.

A list without faulty entries lists one vector, and is refused only if this is the empty one. What a
list lists does not depend on the order of its entries; which of two faults is reported does.
-/

namespace CausalReplica

namespace WireEntry

/-- What is wrong with an entry that comes after others with the given nodes. -/
def faultAfter? (nodes : List NodeId) (e : WireEntry) : Option VectorError :=
  if e.node ∈ nodes then some (.duplicateNode e.node)
  else if e.counter < 0 then some (.negativeCounter e.node e.counter)
  else none

/-- What is wrong with the entry at a position of a list. -/
def fault? (entries : List WireEntry) (i : ℕ) : Option VectorError :=
  entries[i]?.bind (faultAfter? ((entries.take i).map (·.node)))

theorem faultAfter?_eq_none_iff {nodes : List NodeId} {e : WireEntry} :
    faultAfter? nodes e = none ↔ e.node ∉ nodes ∧ 0 ≤ e.counter.toInt := by
  rw [faultAfter?, ← Int.not_lt, ← Int64.toInt_zero, ← Int64.lt_iff_toInt_lt]
  split <;> rename_i hnode
  · simp [hnode]
  · split <;> rename_i hneg
    · simp [hneg]
    · simp [hnode, hneg]

theorem faultAfter?_congr {nodes nodes' : List NodeId} (h : ∀ n, n ∈ nodes ↔ n ∈ nodes')
    (e : WireEntry) : faultAfter? nodes e = faultAfter? nodes' e := by
  simp only [faultAfter?, h]

theorem fault?_of_lt {entries : List WireEntry} {i : ℕ} (h : i < entries.length) :
    fault? entries i = faultAfter? ((entries.take i).map (·.node)) entries[i] := by
  rw [fault?, List.getElem?_eq_getElem h, Option.bind_some]

end WireEntry

namespace VersionVector

open WireEntry

variable {entries before rest : List WireEntry} {seen : List NodeId} {v w : VersionVector}

/-! ## Up to the first fault -/

theorem distinct_of_faultless {i : ℕ} (h : ∀ j < i, fault? entries j = none) :
    ((entries.take i).map (·.node)).Nodup ∧ ∀ e ∈ entries.take i, 0 ≤ e.counter.toInt := by
  induction i with
  | zero => simp
  | succ i ih =>
    obtain ⟨hnodup, hnonneg⟩ := ih fun j hj ↦ h j (Nat.lt_succ_of_lt hj)
    rcases Nat.lt_or_ge i entries.length with hi | hi
    · obtain ⟨hnew, hcounter⟩ :=
        faultAfter?_eq_none_iff.1 ((fault?_of_lt hi).symm.trans (h i (Nat.lt_succ_self i)))
      rw [← List.take_append_getElem hi, List.map_append, List.map_singleton,
        List.nodup_append_comm, List.singleton_append, List.nodup_cons, List.forall_mem_append,
        List.forall_mem_singleton]
      exact ⟨⟨hnew, hnodup⟩, hnonneg, hcounter⟩
    · rw [List.take_of_length_le (Nat.le_succ_of_le hi)]
      rw [List.take_of_length_le hi] at hnodup hnonneg
      exact ⟨hnodup, hnonneg⟩

/-- Reading ends at an entry that is faulty after the nodes that have been seen, and goes on with
the node of any other entry among them. -/
theorem addWire_cons (e : WireEntry) : addWire seen v (e :: rest) =
    match faultAfter? seen e with
    | some fault => .error fault
    | none => addWire (e.node :: seen)
        (if h : 0 < e.counter.toUInt64 then v.set e.node e.counter.toUInt64 h else v) rest := by
  rw [addWire, faultAfter?]
  by_cases hnode : e.node ∈ seen
  · rw [if_pos hnode, if_pos hnode]
  rw [if_neg hnode, if_neg hnode]
  by_cases hneg : e.counter < 0
  · rw [if_pos hneg, if_pos hneg]
  rw [if_neg hneg, if_neg hneg]
  by_cases hpos : 0 < e.counter.toUInt64
  · rw [dif_pos hpos, dif_pos hpos]
  · rw [dif_neg hpos, dif_neg hpos]

theorem addWire_append (h : addWire seen v before = .ok w) :
    addWire seen v (before ++ rest) = addWire ((before.map (·.node)).reverse ++ seen) w rest := by
  induction before generalizing seen v with
  | nil =>
    obtain rfl := Except.ok.inj h
    rfl
  | cons e before ih =>
    rw [addWire_cons] at h
    rw [List.map_cons, List.reverse_cons, List.append_assoc, List.singleton_append,
      List.cons_append, addWire_cons]
    cases hfault : faultAfter? seen e with
    | some fault =>
      rw [hfault] at h
      contradiction
    | none =>
      rw [hfault] at h
      exact ih h

/-- The first fault is the one that is reported. -/
theorem ofWire_eq_error_of_fault {i : ℕ} {fault : VectorError} (h : fault? entries i = some fault)
    (hfirst : ∀ j < i, fault? entries j = none) : ofWire entries = .error fault := by
  obtain ⟨e, he, hfault⟩ := Option.bind_eq_some_iff.1 h
  obtain ⟨hi, rfl⟩ := List.getElem?_eq_some_iff.1 he
  obtain ⟨hnodup, hnonneg⟩ := distinct_of_faultless hfirst
  obtain ⟨w, hw, -⟩ := exists_lists hnodup hnonneg
  have hseen : ∀ n, n ∈ ((entries.take i).map (·.node)).reverse ++ [] ↔
      n ∈ (entries.take i).map (·.node) := fun n ↦ by
    rw [List.append_nil, List.mem_reverse]
  have hread : addWire [] empty entries = .error fault := by
    rw [← List.take_append_drop i entries, ← List.getElem_cons_drop hi, addWire_append hw,
      addWire_cons, faultAfter?_congr hseen, hfault]
  rw [ofWire, hread]

/-! ## Without faults -/

theorem exists_lists_of_faultless (h : ∀ i, fault? entries i = none) :
    ∃ v, addWire [] empty entries = .ok v ∧ Lists entries v := by
  obtain ⟨hnodup, hnonneg⟩ := distinct_of_faultless (i := entries.length) fun i _ ↦ h i
  rw [List.take_length] at hnodup hnonneg
  exact exists_lists hnodup hnonneg

theorem ofWire_eq_error_empty (h : ∀ i, fault? entries i = none)
    (hzero : ∀ e ∈ entries, e.counter = 0) : ofWire entries = .error .empty := by
  obtain ⟨v, hv, hlists⟩ := exists_lists_of_faultless h
  have hbot : v = ⊥ := by
    refine ext_writes fun n ↦ ?_
    rw [bot_def, writes_empty]
    by_cases hn : n ∈ entries.map (·.node)
    · obtain ⟨e, he, rfl⟩ := List.mem_map.1 hn
      have hnamed := hlists.named e he
      rw [hzero e he] at hnamed
      exact Int.ofNat_inj.1 hnamed
    · exact hlists.unnamed n hn
  rw [ofWire, hv]
  exact if_pos (isEmpty_iff.2 hbot)

theorem exists_ofWire_eq_ok (h : ∀ i, fault? entries i = none)
    (hne : ∃ e ∈ entries, e.counter ≠ 0) : ∃ v, ofWire entries = .ok v ∧ Lists entries v := by
  obtain ⟨v, -, hlists⟩ := exists_lists_of_faultless h
  refine ⟨v, ofWire_eq_ok_iff.2 ⟨?_, hlists⟩, hlists⟩
  rintro rfl
  obtain ⟨e, he, hcounter⟩ := hne
  have hnamed := hlists.named e he
  rw [bot_def, writes_empty] at hnamed
  exact hcounter (Int64.toInt_inj.1 hnamed.symm)

theorem ofWire_eq_ok_of_perm {entries' : List WireEntry} (h : entries.Perm entries') :
    ofWire entries = .ok v ↔ ofWire entries' = .ok v := by
  rw [ofWire_eq_ok_iff, ofWire_eq_ok_iff]
  exact and_congr_right fun _ ↦ ⟨fun hlists ↦ hlists.perm h, fun hlists ↦ hlists.perm h.symm⟩

/-- The first faulty entry of a list decides the error: that its node stands before it, and
otherwise that its counter is negative. A list without faulty entries is refused as empty if all
counters are zero; else it is read as the vector that has the listed counter for every node, and
none for a node that is not listed. So whether a list is read, and as which vector, does not depend
on the order of its entries. To collect the entries first and sort them at the end comes to the
same. -/
theorem first_fault_decides (entries : List WireEntry) :
    (∀ i fault, fault? entries i = some fault → (∀ j < i, fault? entries j = none) →
      ofWire entries = .error fault) ∧
    ((∀ i, fault? entries i = none) →
      ((∀ e ∈ entries, e.counter = 0) → ofWire entries = .error .empty) ∧
      ((∃ e ∈ entries, e.counter ≠ 0) → ∃ v, ofWire entries = .ok v ∧
        (∀ e ∈ entries, ((v.count e.node).toNat : ℤ) = e.counter.toInt) ∧
        ∀ n, n ∉ entries.map (·.node) → v.count n = 0)) ∧
    (∀ entries', entries.Perm entries' →
      ∀ v, ofWire entries = .ok v ↔ ofWire entries' = .ok v) ∧
    BareVector.ofWire entries = (ofWire entries).map (·.bare) := by
  refine ⟨fun i fault ↦ ofWire_eq_error_of_fault,
    fun h ↦ ⟨ofWire_eq_error_empty h, fun hne ↦ ?_⟩,
    fun entries' hperm v ↦ ofWire_eq_ok_of_perm hperm, BareVector.ofWire_bare entries⟩
  obtain ⟨v, hv, hlists⟩ := exists_ofWire_eq_ok h hne
  exact ⟨v, hv, hlists.named, fun n hn ↦ UInt64.toNat_inj.1 (hlists.unnamed n hn)⟩

/-- A repeated node behind a dropped zero counter is reported, not its negative counter; without it
the list is read, and in reverse order as the same vector. -/
theorem first_fault_decides_behind_zero :
    let zero : WireEntry := ⟨.ofByte 1, 0⟩
    let four : WireEntry := ⟨.ofByte 2, 4⟩
    ofWire [zero, four, ⟨.ofByte 1, -3⟩] = .error (.duplicateNode (.ofByte 1)) ∧
    ofWire [zero] = .error .empty ∧
    ∃ v, ofWire [zero, four] = .ok v ∧ ofWire [four, zero] = .ok v ∧
      (v.count (.ofByte 2)).toNat = 4 := by
  intro zero four
  have hrepeated : fault? [zero, four, ⟨.ofByte 1, -3⟩] 2 =
      some (.duplicateNode (.ofByte 1)) := by decide
  have hfirst : ∀ j < 2, fault? [zero, four, ⟨.ofByte 1, -3⟩] j = none := by decide
  have hzero : ∀ i, fault? [zero] i = none := fun
    | 0 => by decide
    | _ + 1 => rfl
  have hfour : ∀ i, fault? [zero, four] i = none := fun
    | 0 => by decide
    | 1 => by decide
    | _ + 2 => rfl
  obtain ⟨hfault, -⟩ := first_fault_decides [zero, four, ⟨.ofByte 1, -3⟩]
  obtain ⟨-, hempty, -⟩ := first_fault_decides [zero]
  obtain ⟨-, hread, hperm, -⟩ := first_fault_decides [zero, four]
  obtain ⟨v, hv, hcount, -⟩ := (hread hfour).2 ⟨four, by decide, by decide⟩
  have hcount : ((v.count (.ofByte 2)).toNat : ℤ) = 4 := hcount four (by decide)
  have hswap : [zero, four].Perm [four, zero] := .swap _ _ _
  exact ⟨hfault 2 _ hrepeated hfirst, (hempty hzero).1 (by decide), v, hv,
    (hperm _ hswap v).1 hv, Int.ofNat_inj.1 hcount⟩

end VersionVector

end CausalReplica
