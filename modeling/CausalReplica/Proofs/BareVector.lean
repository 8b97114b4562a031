import CausalReplica.Proofs.CausalOrder
import CausalReplica.Proofs.SortedEntries
import CausalReplica.VersionVector.Bare

/-!
# Bare vectors that come from vectors

Whoever forgets the proofs that a vector carries can go on with the loops on its bare list of
entries: every operation on bare vectors does to the entries what the operation on vectors does.

The reasons are three. A search finds the place where a walk stops. A lockstep walk visits the rows
of the two lists, in their order, and a comparison that stops early has seen enough of them. And the
entries of a list from the wire are the same when they are collected first and sorted at the end.
-/

namespace CausalReplica

namespace BareVector

/-! ## Counters -/

theorem count_bare (v : VersionVector) (n : NodeId) : v.bare.count n = v.count n :=
  congrArg (Option.getD · 0) (Dict.searched?_eq_lookup n v.counts.sorted)

theorem increment_bare (v : VersionVector) (n : NodeId) :
    v.bare.increment n = (v.increment n).map (·.bare) := by
  have hmap : (v.increment n).map (·.bare) = if (v.count n).toNat + 1 < UInt64.size then
      .ok ⟨Dict.insertEntry n (v.count n + 1) v.counts.entries⟩
    else .error (.counterOverflow n) := by
    rw [VersionVector.increment]
    split <;> rfl
  have hcount := count_bare v n
  rw [hmap, Dict.insertEntry_eq_search n _ v.counts.sorted]
  dsimp only [increment, count, Dict.searched?, VersionVector.bare, VersionVector.entries]
    at hcount ⊢
  generalize Dict.search n v.counts.entries = place at hcount ⊢
  cases place with
  | found i =>
    obtain hcount : (v.counts.entries.get i).2 = v.count n := hcount
    dsimp only
    rw [hcount]
  | missing i =>
    obtain hcount : 0 = v.count n := hcount
    rw [← hcount, if_pos (by decide)]
    rfl

/-! ## Two vectors in lockstep -/

section Walk

variable {σ : Type}

/-- Visits rows in turn until the visitor is done. -/
def visitRows (visit : NodeId → UInt64 → UInt64 → σ → ForInStep σ) :
    List (Dict.Row NodeId UInt64 UInt64) → σ → σ
  | [], s => s
  | row :: rows, s =>
    resume (visit row.key (row.left.getD 0) (row.right.getD 0) s) (visitRows visit rows)

theorem walk_eq_visitRows (visit : NodeId → UInt64 → UInt64 → σ → ForInStep σ)
    (ls rs : List (NodeId × UInt64)) (s : σ) :
    walk visit ls rs s = visitRows visit (Dict.alignEntries ls rs) s := by
  fun_induction walk visit ls rs s with
  | case1 s => rfl
  | case2 l ls s ih =>
    rw [funext ih]
    rfl
  | case3 r rs s ih =>
    rw [funext ih]
    rfl
  | case4 l ls r rs s hk ih =>
    rw [funext ih]
    simp only [Dict.alignEntries, Dict.alignCons, hk]
    rfl
  | case5 l ls r rs s hk ih =>
    rw [funext ih]
    simp only [Dict.alignEntries, Dict.alignCons, hk]
    rfl
  | case6 l ls r rs s hk ih =>
    rw [funext ih]
    simp only [Dict.alignEntries, Dict.alignCons, hk]
    rfl

end Walk

/-- Stopping early makes no difference: a side that has been ahead stays one that has been. -/
theorem visitRows_ahead (rows : List (Dict.Row NodeId UInt64 UInt64)) (s : Ahead) :
    visitRows Ahead.visit rows s =
      ⟨s.left || rows.any fun row ↦ row.right.getD 0 < row.left.getD 0,
        s.right || rows.any fun row ↦ row.left.getD 0 < row.right.getD 0⟩ := by
  induction rows generalizing s with
  | nil => simp [visitRows]
  | cons row rows ih =>
    rw [visitRows, Ahead.visit, List.any_cons, List.any_cons, ← Bool.or_assoc, ← Bool.or_assoc]
    dsimp only
    split <;> rename_i hboth
    · rw [Bool.and_eq_true] at hboth
      rw [resume, hboth.1, hboth.2, Bool.true_or, Bool.true_or]
    · exact ih _

theorem relate_bare (v w : VersionVector) : v.bare.relate w.bare = v.relate w := by
  have hwalk := (walk_eq_visitRows Ahead.visit v.bare.entries w.bare.entries ⟨false, false⟩).trans
    (visitRows_ahead _ _)
  have hpairs : ∀ p : UInt64 × UInt64 → Bool, (VersionVector.counterPairs v w).any p =
      (Dict.alignEntries v.bare.entries w.bare.entries).any fun row ↦
        p (row.left.getD 0, row.right.getD 0) := fun p ↦ List.any_map
  rw [VersionVector.relate, hpairs, hpairs, relate, hwalk, Bool.false_or, Bool.false_or]
  generalize List.any _ _ = greater
  generalize List.any _ _ = less
  cases greater <;> cases less <;> rfl

theorem visitRows_push (f : NodeId → UInt64 → UInt64 → NodeId × UInt64)
    (rows : List (Dict.Row NodeId UInt64 UInt64)) (es : List (NodeId × UInt64)) :
    visitRows (fun node a b es ↦ .yield (es ++ [f node a b])) rows es =
      es ++ rows.map fun row ↦ f row.key (row.left.getD 0) (row.right.getD 0) := by
  induction rows generalizing es with
  | nil => rw [visitRows, List.map_nil, List.append_nil]
  | cons row rows ih =>
    rw [visitRows, resume, ih, List.map_cons, List.append_assoc, List.singleton_append]

theorem merge_bare (v w : VersionVector) : v.bare.merge w.bare = (v.merge w).bare := by
  have hwalk := (walk_eq_visitRows _ v.entries w.entries []).trans
    (visitRows_push (fun node a b ↦ (node, max a b)) _ [])
  exact congrArg mk hwalk

theorem mergeAll_bare (vs : List VersionVector) :
    mergeAll (vs.map (·.bare)) = (VersionVector.mergeAll vs).bare := by
  have hfold : ∀ acc : VersionVector,
      (vs.map (·.bare)).foldl merge acc.bare = (vs.foldl VersionVector.merge acc).bare := by
    intro acc
    induction vs generalizing acc with
    | nil => rfl
    | cons v vs ih => rw [List.map_cons, List.foldl_cons, List.foldl_cons, merge_bare, ih]
  exact hfold .empty

/-! ## From the wire -/

/-- Reading has collected the entries of a vector, or both have met the same fault. -/
inductive Reads :
    Except VectorError (List (NodeId × UInt64)) → Except VectorError VersionVector → Prop
  | entries {es : List (NodeId × UInt64)} {v : VersionVector} (perm : es.Perm v.entries) :
    Reads (.ok es) (.ok v)
  | fault (e : VectorError) : Reads (.error e) (.error e)

theorem collect_reads (raw : List WireEntry) {seen : List NodeId} {v : VersionVector}
    {es : List (NodeId × UInt64)} (hperm : es.Perm v.entries) (hseen : ∀ e ∈ es, e.1 ∈ seen) :
    Reads (collect seen es raw) (v.addWire seen raw) := by
  induction raw generalizing seen v es with
  | nil => exact .entries hperm
  | cons e rest ih =>
    have hseen' : ∀ x ∈ es, x.1 ∈ e.node :: seen := fun x hx ↦
      List.mem_cons_of_mem _ (hseen x hx)
    rw [collect, VersionVector.addWire]
    by_cases hnode : e.node ∈ seen
    · rw [if_pos hnode, if_pos hnode]
      exact .fault _
    rw [if_neg hnode, if_neg hnode]
    by_cases hneg : e.counter < 0
    · rw [if_pos hneg, if_pos hneg]
      exact .fault _
    rw [if_neg hneg, if_neg hneg]
    by_cases hpos : 0 < e.counter.toUInt64
    · rw [if_pos hpos, dif_pos hpos]
      have hnew : ∀ x ∈ v.entries, compare e.node x.1 ≠ .eq := by
        intro x hx hk
        rw [Std.compare_eq_iff_eq.1 hk] at hnode
        exact hnode (hseen x (hperm.mem_iff.2 hx))
      refine ih (List.Perm.trans ?_ (Dict.perm_insertEntry hnew _).symm) fun x hx ↦ ?_
      · exact (List.perm_append_singleton _ es).trans (hperm.cons _)
      · rcases List.mem_append.1 hx with hx | hx
        · exact hseen' x hx
        · rw [List.mem_singleton.1 hx]
          exact List.mem_cons_self
    · rw [if_neg hpos, dif_neg hpos]
      exact ih hperm hseen'

theorem ofWire_bare (raw : List WireEntry) :
    ofWire raw = (VersionVector.ofWire raw).map (·.bare) := by
  have hreads : Reads (collect [] [] raw) (VersionVector.addWire [] .empty raw) :=
    collect_reads raw (.refl []) (by simp)
  rw [ofWire, VersionVector.ofWire]
  generalize collect [] [] raw = collected at hreads ⊢
  generalize VersionVector.addWire [] .empty raw = added at hreads ⊢
  cases hreads with
  | @entries es v perm =>
    have hempty : es.isEmpty = v.isEmpty := perm.isEmpty_eq
    dsimp only
    rw [hempty]
    split
    · rfl
    · exact congrArg (fun es ↦ Except.ok (mk es)) (Dict.mergeSort_of_perm perm)
  | fault e => rfl

end BareVector

end CausalReplica
