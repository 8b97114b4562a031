import CausalReplica.Proofs.Antichain
import CausalReplica.Proofs.Replica
import Mathlib.Data.List.Sort
import Mathlib.Data.String.Basic
import Mathlib.Order.Compare

/-!
# The registry under arbitrary edits

An edit records a conflict, clears an id, or changes what is recorded under an id by a function
about which nothing is known. Whatever the function does, the edit comes to one of two things.
Either it is done, and the registry is the old one with a new slot under the edited id, where a
conflict in the slot may be recorded there; or it is refused, and the registry is the old one.

For a change this is not how it runs: what is recorded is taken out before the function sees it, and
put back if the function leaves something that may not be recorded. That the two agree is the
content of `perform_cases`, and all that follows uses an edit through it alone.

A registry is listed in order of its ids. A table that keeps its conflicts in no order has to be
sorted for that, and comes to the same listing.
-/

namespace CausalReplica

namespace Conflict

/-- The conflict has the id, at least two members, and no two of them are ordered. -/
structure FitsUnder (c : Conflict) (id : String) : Prop where
  id_eq : c.id = id
  two_le_size : 2 ≤ c.size
  pairwise : c.members.Pairwise fun v w ↦ v.relate w = .concurrent

theorem recordableUnder_self (c : Conflict) : c.recordableUnder c.id = c.recordable := by
  rw [recordableUnder, if_neg (not_not.2 rfl)]
  cases c.recordable <;> rfl

theorem recordable_eq_ok_iff {c : Conflict} : c.recordable = .ok () ↔ c.FitsUnder c.id := by
  rw [recordable]
  constructor
  · intro h
    split at h
    · contradiction
    · rename_i hsize
      split at h
      · rename_i hantichain
        exact ⟨rfl, Nat.le_of_not_lt hsize, isAntichain_iff.1 hantichain⟩
      · contradiction
  · rintro ⟨-, hsize, hpairwise⟩
    rw [if_neg (Nat.not_lt.2 hsize), if_pos (isAntichain_iff.2 hpairwise)]

theorem recordableUnder_eq_ok_iff {c : Conflict} {id : String} :
    c.recordableUnder id = .ok () ↔ c.FitsUnder id := by
  by_cases hid : c.id = id
  · rw [← hid, recordableUnder_self, recordable_eq_ok_iff]
  · rw [recordableUnder, if_pos hid]
    refine iff_of_false (fun h ↦ ?_) fun h ↦ hid h.id_eq
    cases hc : c.recordable <;> rw [hc] at h <;> contradiction

end Conflict

namespace Registry

variable {r : Registry} {id : String}

/-! ## Exchanging -/

section Exchange

variable {α : Type} {change : Option Conflict → α × Option Conflict} {answer : α} {c : Conflict}

theorem exchange_of_empty (h : change (r.get? id) = (answer, none)) :
    r.exchange id change = (⟨r.conflicts.put id none⟩, .ok answer) := by
  rw [exchange, h]
  rfl

theorem exchange_of_fits (h : change (r.get? id) = (answer, some c))
    (hc : c.recordableUnder id = .ok ()) :
    r.exchange id change = (⟨r.conflicts.put id (some c)⟩, .ok answer) := by
  have hput : ((r.clear id).conflicts.insert id c) = r.conflicts.put id (some c) :=
    r.conflicts.put_erase id (some c)
  simp only [exchange, h, hc, hput]

/-- What was taken out is put back: nothing has changed. -/
theorem exchange_of_misfit {fault : ConflictFault} (h : change (r.get? id) = (answer, some c))
    (hc : c.recordableUnder id = .error fault) : r.exchange id change = (r, .error fault) := by
  have hput : (r.clear id).conflicts.put id (r.get? id) = r.conflicts :=
    (r.conflicts.put_erase id (r.get? id)).trans (r.conflicts.put_find? id)
  simp only [exchange, h, hc, hput]

end Exchange

/-! ## Edits -/

/-- A call that changes the registry. -/
inductive Edit : Type 1 where
  | record (c : Conflict)
  | clear (id : String)
  /-- The change may do anything with what is recorded, and gives an answer. -/
  | modify {α : Type} (id : String) (change : Option Conflict → α × Option Conflict)

namespace Edit

def target : Edit → String
  | .record c => c.id
  | .clear id => id
  | .modify id _ => id

/-- What an edit of a registry is to leave under its id. -/
def slot (r : Registry) : Edit → Option Conflict
  | .record c => some c
  | .clear _ => none
  | .modify id change => (change (r.get? id)).2

/-- The registry after an edit, and whether the edit was done. An edit by a change gives the
registry also where it is refused. -/
def perform (r : Registry) : Edit → Registry × Except ConflictFault Unit
  | .record c =>
    match r.record c with
    | .ok r' => (r', .ok ())
    | .error fault => (r, .error fault)
  | .clear id => (r.clear id, .ok ())
  | .modify id change =>
    let (r', result) := r.exchange id change
    (r', result.map fun _ ↦ ())

/-- What comes of an edit: it puts its slot into place, or it is refused and changes nothing. -/
inductive Performs (r : Registry) (e : Edit) : Registry × Except ConflictFault Unit → Prop
  | done (fits : ∀ c, e.slot r = some c → c.recordableUnder e.target = .ok ()) :
    Performs r e (⟨r.conflicts.put e.target (e.slot r)⟩, .ok ())
  | refused {c : Conflict} {fault : ConflictFault} (slot : e.slot r = some c)
    (misfit : c.recordableUnder e.target = .error fault) : Performs r e (r, .error fault)

theorem perform_cases (r : Registry) (e : Edit) : e.Performs r (e.perform r) := by
  cases e with
  | record c =>
    have hself := c.recordableUnder_self
    rw [perform, Registry.record]
    cases hc : c.recordable with
    | ok => exact .done fun d hd ↦ Option.some.inj hd ▸ hself.trans hc
    | error fault => exact .refused rfl (hself.trans hc)
  | clear id => exact .done fun c hc ↦ absurd hc (by simp [slot])
  | modify id change =>
    rcases hchange : change (r.get? id) with ⟨answer, slot⟩
    have hslot : (modify id change).slot r = slot := congrArg Prod.snd hchange
    rw [perform]
    cases slot with
    | none =>
      rw [exchange_of_empty hchange, ← hslot]
      exact .done fun c hc ↦ absurd (hslot.symm.trans hc) (by simp)
    | some c =>
      cases hc : c.recordableUnder id with
      | ok =>
        rw [exchange_of_fits hchange hc, ← hslot]
        exact .done fun d hd ↦ Option.some.inj (hslot.symm.trans hd) ▸ hc
      | error fault =>
        rw [exchange_of_misfit hchange hc]
        exact .refused hslot hc

namespace Performs

variable {e : Edit} {out : Registry × Except ConflictFault Unit}

/-- An edit is done exactly if what it is to leave, if anything, fits under its id. -/
theorem ok_iff (h : e.Performs r out) :
    out.2 = .ok () ↔ ∀ c, e.slot r = some c → c.FitsUnder e.target := by
  cases h with
  | done fits => exact iff_of_true rfl fun c hc ↦ Conflict.recordableUnder_eq_ok_iff.1 (fits c hc)
  | refused slot misfit =>
    refine iff_of_false (by simp) fun hfits ↦ ?_
    rw [Conflict.recordableUnder_eq_ok_iff.2 (hfits _ slot)] at misfit
    contradiction

theorem eq_of_error (h : e.Performs r out) {fault : ConflictFault} (hout : out.2 = .error fault) :
    out.1 = r := by
  cases h with
  | done => contradiction
  | refused => rfl

theorem get?_target (h : e.Performs r out) (hout : out.2 = .ok ()) :
    out.1.get? e.target = e.slot r := by
  cases h with
  | done => exact Dict.find?_put_self _ _ _
  | refused => contradiction

theorem get?_ne (h : e.Performs r out) {id : String} (hid : id ≠ e.target) :
    out.1.get? id = r.get? id := by
  cases h with
  | done => exact Dict.find?_put_ne _ hid _
  | refused => rfl

end Performs

end Edit

/-! ## What every registry holds -/

/-- Every conflict fits under the id under which it is recorded. -/
def Valid (r : Registry) : Prop := ∀ id c, r.get? id = some c → c.FitsUnder id

theorem valid_empty : Valid empty := by
  intro id c h
  contradiction

theorem Valid.perform (hr : r.Valid) (e : Edit) : (e.perform r).1.Valid := by
  have performs := e.perform_cases r
  intro id c hc
  cases hresult : (e.perform r).2 with
  | error fault =>
    rw [performs.eq_of_error hresult] at hc
    exact hr id c hc
  | ok =>
    by_cases hid : id = e.target
    · subst hid
      rw [performs.get?_target hresult] at hc
      exact performs.ok_iff.1 hresult c hc
    · rw [performs.get?_ne hid] at hc
      exact hr id c hc

/-- The registry after the edits of a list, those that fail included. -/
def edited (r : Registry) (es : List Edit) : Registry := es.foldl (fun r e ↦ (e.perform r).1) r

theorem Valid.edited (hr : r.Valid) (es : List Edit) : (r.edited es).Valid := by
  induction es generalizing r with
  | nil => exact hr
  | cons e es ih => exact ih (hr.perform e)

/-! ## Listing -/

theorem ids_increasing (r : Registry) : r.ids.Pairwise (· < ·) :=
  List.pairwise_map.2 (r.conflicts.sorted.imp fun h ↦ compareOfLessAndEq_eq_lt.1 h)

theorem Valid.id_eq_of_mem (hr : r.Valid) {e : String × Conflict}
    (he : e ∈ r.conflicts.entries) : e.2.id = e.1 :=
  (hr e.1 e.2 (Dict.mem_entries_iff.1 he)).id_eq

theorem Valid.map_id_all (hr : r.Valid) : r.all.map (·.id) = r.ids := by
  rw [all, ids, Dict.values, Dict.keys, List.map_map]
  exact List.map_congr_left fun e he ↦ hr.id_eq_of_mem he

theorem Valid.mem_all_iff (hr : r.Valid) {c : Conflict} :
    c ∈ r.all ↔ r.get? c.id = some c := by
  rw [all, Dict.values, List.mem_map]
  constructor
  · rintro ⟨e, he, rfl⟩
    rw [hr.id_eq_of_mem he]
    exact Dict.mem_entries_iff.1 he
  · intro h
    exact ⟨(c.id, c), Dict.mem_entries_iff.2 h, rfl⟩

theorem Valid.eq_of_id_eq (hr : r.Valid) {c d : Conflict} (hc : c ∈ r.all) (hd : d ∈ r.all)
    (h : c.id = d.id) : c = d := by
  have hget := hr.mem_all_iff.1 hc
  rw [h, hr.mem_all_iff.1 hd] at hget
  exact (Option.some.inj hget).symm

section Table

variable {recorded : List (String × Conflict)}

theorem ids_eq_idsOf (h : recorded.Perm r.conflicts.entries) : r.ids = idsOf recorded := by
  have hperm : r.ids.Perm (idsOf recorded) := (h.symm.map _).trans (List.mergeSort_perm _ _).symm
  have hsorted : (idsOf recorded).Pairwise (· ≤ ·) := List.pairwise_mergeSort' (· ≤ ·) _
  exact hperm.eq_of_pairwise' (r.ids_increasing.imp fun hlt ↦ hlt.le) hsorted

/-- Sorting by ids leaves no choice, since no two recorded conflicts have the same id. -/
theorem Valid.all_eq_allOf (hr : r.Valid) (h : recorded.Perm r.conflicts.entries) :
    r.all = allOf recorded := by
  have hperm : r.all.Perm (allOf recorded) := (h.symm.map _).trans (List.mergeSort_perm _ _).symm
  have hids : (r.all.map (·.id)).Pairwise (· < ·) := by
    rw [hr.map_id_all]
    exact r.ids_increasing
  have hlisted : r.all.Pairwise fun c d ↦ c.id ≤ d.id :=
    (List.pairwise_map.1 hids).imp fun hlt ↦ hlt.le
  have hsorted : (allOf recorded).Pairwise fun c d ↦ c.id ≤ d.id := by
    refine (List.pairwise_mergeSort ?_ ?_ _).imp of_decide_eq_true
    · exact fun a b c hab hbc ↦
        decide_eq_true ((of_decide_eq_true hab).trans (of_decide_eq_true hbc))
    · intro a b
      simpa using le_total a.id b.id
  refine hperm.eq_of_pairwise (fun c d hc hd hcd hdc ↦ ?_) hlisted hsorted
  exact hr.eq_of_id_eq hc (hperm.mem_iff.2 hd) (hcd.antisymm hdc)

end Table

/-- Whatever edits an empty registry has gone through, every recorded conflict has the id under
which it is recorded, at least two members, and no two of them ordered. One more edit is done
exactly if what it is to leave fits under its id. It either fails and leaves everything as it was,
or leaves exactly its slot under its id and all else as it was. The listed ids and the listed
conflicts are those that are recorded, each once, in order of the ids; a table that keeps the same
conflicts in no order has the same listings, once they are sorted. -/
theorem edits_are_atomic (es : List Edit) :
    let r := empty.edited es
    (∀ id c, r.get? id = some c →
      c.id = id ∧ 2 ≤ c.size ∧ c.members.Pairwise fun v w ↦ v.relate w = .concurrent) ∧
    (∀ e : Edit,
      ((e.perform r).2 = .ok () ↔ ∀ c, e.slot r = some c → c.FitsUnder e.target) ∧
      (∀ fault, (e.perform r).2 = .error fault → (e.perform r).1 = r) ∧
      ((e.perform r).2 = .ok () → (e.perform r).1.get? e.target = e.slot r ∧
        ∀ id, id ≠ e.target → (e.perform r).1.get? id = r.get? id)) ∧
    r.ids.Pairwise (· < ·) ∧ (∀ id, id ∈ r.ids ↔ r.get? id ≠ none) ∧
    r.all.map (·.id) = r.ids ∧ (∀ c, c ∈ r.all ↔ r.get? c.id = some c) ∧
    r.ids.length = r.size ∧ r.all.length = r.size ∧
    ∀ recorded, recorded.Perm r.conflicts.entries →
      r.ids = idsOf recorded ∧ r.all = allOf recorded := by
  intro r
  have hr : r.Valid := valid_empty.edited es
  refine ⟨fun id c hc ↦ ?_, fun e ↦ ?_, r.ids_increasing, fun id ↦ mem_ids, hr.map_id_all,
    fun c ↦ hr.mem_all_iff, ?_, ?_, fun recorded h ↦ ⟨ids_eq_idsOf h, hr.all_eq_allOf h⟩⟩
  · exact ⟨(hr id c hc).id_eq, (hr id c hc).two_le_size, (hr id c hc).pairwise⟩
  · have performs := e.perform_cases r
    refine ⟨performs.ok_iff, fun fault h ↦ performs.eq_of_error h, fun h ↦ ?_⟩
    exact ⟨performs.get?_target h, fun id hid ↦ performs.get?_ne hid⟩
  · rw [ids, Dict.keys, List.length_map, size, Dict.size]
  · rw [all, Dict.values, List.length_map, size, Dict.size]

/-- A recorded conflict stays when a change leaves ordered members, is replaced when a change turns
its members round, and goes when it is cleared. -/
theorem edits_are_atomic_crossing :
    let r := empty.edited [.record ⟨"d", Conflict.crossing⟩]
    let turned : Conflict := ⟨"d", Conflict.crossing.reverse⟩
    let e : Edit := .modify "d" fun _ ↦ ((), some ⟨"d", Conflict.succession⟩)
    let turning : Edit := .modify "d" fun c ↦ (c.isSome, c.map fun c ↦ ⟨c.id, c.members.reverse⟩)
    let clearing : Edit := .clear "d"
    r.get? "d" = some ⟨"d", Conflict.crossing⟩ ∧
    (e.perform r).2 = .error (.orderedMembers "d") ∧ (e.perform r).1 = r ∧
    (turning.perform r).2 = .ok () ∧ (turning.perform r).1.get? "d" = some turned ∧
    (clearing.perform r).2 = .ok () ∧ (clearing.perform r).1.get? "d" = none ∧
    r.all = allOf [("d", ⟨"d", Conflict.crossing⟩)] := by
  intro r turned e turning clearing
  obtain ⟨-, hedit, -, -, -, -, -, -, hlisted⟩ :=
    edits_are_atomic [.record ⟨"d", Conflict.crossing⟩]
  have hrefused : (e.perform r).2 = .error (.orderedMembers "d") := by rfl
  have hslot : turning.slot r = some turned := by rfl
  have hturned : (turning.perform r).2 = .ok () := by
    refine (hedit turning).1.2 fun c hc ↦ ?_
    obtain rfl := Option.some.inj (hslot.symm.trans hc)
    exact ⟨rfl, le_rfl, by decide⟩
  have hcleared : (clearing.perform r).2 = .ok () := rfl
  exact ⟨by rfl, hrefused, (hedit e).2.1 _ hrefused, hturned,
    ((hedit turning).2.2 hturned).1.trans hslot, hcleared, ((hedit clearing).2.2 hcleared).1,
    (hlisted _ (.refl _)).2⟩

end Registry

end CausalReplica
