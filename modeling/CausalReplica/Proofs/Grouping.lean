import CausalReplica.Replay.Record
import Mathlib.Data.List.Induction
import Mathlib.Data.List.Sort
import Mathlib.Tactic.Ring

/-!
# Grouping keeps every record in its place

The groups of a batch file grow in one pass. A record goes to the end of the group of its source, or
opens a new group behind all others; a record without a readable source leaves only its position
behind. None of these steps looks at what a slot holds, so a version that cannot be read takes the
place of its record like any other.

What one more record does to the groups is what it does to a description of them over all records:
the sources without repeats in order of first appearance, and for each of them the readings of its
records, in file order. So the groups are what the description says, by induction over the records
from the front.
-/

namespace CausalReplica

/-! ## First appearances -/

section FirstAppearances

variable {α : Type} [DecidableEq α] {a : α} {l : List α}

theorem eraseDups_concat_of_mem (h : a ∈ l) : (l ++ [a]).eraseDups = l.eraseDups := by
  have hnone : [a].removeAll l = [] := by simp [List.removeAll, h]
  rw [List.eraseDups_append, hnone, List.eraseDups_nil, List.append_nil]

theorem eraseDups_concat_of_notMem (h : a ∉ l) : (l ++ [a]).eraseDups = l.eraseDups ++ [a] := by
  have hself : [a].removeAll l = [a] := by simp [List.removeAll, h]
  rw [List.eraseDups_append, hself, List.eraseDups_cons, List.filter_nil, List.eraseDups_nil]

theorem pairwise_idxOf_eraseDups (l : List α) :
    l.eraseDups.Pairwise fun a b ↦ l.idxOf a < l.idxOf b := by
  induction l using List.reverseRecOn with
  | nil => exact .nil
  | append_singleton l c ih =>
    have hkept : l.eraseDups.Pairwise fun a b ↦ (l ++ [c]).idxOf a < (l ++ [c]).idxOf b := by
      refine ih.imp_of_mem fun {a b} ha hb hab ↦ ?_
      rw [List.idxOf_append_of_mem (List.mem_eraseDups.1 ha),
        List.idxOf_append_of_mem (List.mem_eraseDups.1 hb)]
      exact hab
    by_cases hc : c ∈ l
    · rw [eraseDups_concat_of_mem hc]
      exact hkept
    · rw [eraseDups_concat_of_notMem hc, List.pairwise_append]
      refine ⟨hkept, List.pairwise_singleton _ _, fun a ha b hb ↦ ?_⟩
      rw [List.mem_singleton.1 hb, List.idxOf_append_of_mem (List.mem_eraseDups.1 ha),
        List.idxOf_append_of_notMem hc, List.idxOf_cons_self, Nat.add_zero]
      exact List.idxOf_lt_length_of_mem (List.mem_eraseDups.1 ha)

theorem nodup_eraseDups (l : List α) : l.eraseDups.Nodup :=
  (pairwise_idxOf_eraseDups l).imp fun h heq ↦ h.ne (congrArg l.idxOf heq)

end FirstAppearances

namespace Replay.Groups

variable {decode : Json → Option Record} {read : Json → Delivery}

/-! ## The description -/

/-- The slots that the records of a source fill, in their order. -/
def slotsOf (read : Json → Delivery) (rs : List Record) (source : NodeId) : List Delivery :=
  (rs.filter (·.source = source)).map fun r ↦ read r.item

/-- The groups that readable records have, described source by source. -/
def described (read : Json → Delivery) (rs : List Record) : List (NodeId × List Delivery) :=
  (rs.map (·.source)).eraseDups.map fun source ↦ (source, slotsOf read rs source)

theorem slotsOf_concat (rs : List Record) (r : Record) (source : NodeId) :
    slotsOf read (rs ++ [r]) source =
      if r.source = source then slotsOf read rs source ++ [read r.item]
      else slotsOf read rs source := by
  rw [slotsOf, List.filter_append, List.map_append, ← slotsOf]
  split <;> rename_i hsource
  · rw [List.filter_cons_of_pos (by simpa using hsource), List.filter_nil]
    rfl
  · rw [List.filter_cons_of_neg (by simpa using hsource), List.filter_nil, List.map_nil,
      List.append_nil]

theorem slotsOf_eq_nil {rs : List Record} {source : NodeId} (h : source ∉ rs.map (·.source)) :
    slotsOf read rs source = [] := by
  rw [slotsOf, List.map_eq_nil_iff, List.filter_eq_nil_iff]
  intro r hr hsource
  exact h (List.mem_map.2 ⟨r, hr, of_decide_eq_true hsource⟩)

/-! ## One more slot -/

section AddSlot

variable {source : NodeId} {slot : Delivery} {sources : List NodeId}
  {slots : NodeId → List Delivery}

theorem addSlot_of_notMem (h : source ∉ sources) :
    addSlot source slot (sources.map fun s ↦ (s, slots s)) =
      (sources.map fun s ↦ (s, slots s)) ++ [(source, [slot])] := by
  induction sources with
  | nil => rfl
  | cons s sources ih =>
    rw [List.mem_cons, not_or] at h
    rw [List.map_cons, addSlot, if_neg (Ne.symm h.1), ih h.2, List.cons_append]

theorem addSlot_of_mem (hnodup : sources.Nodup) (h : source ∈ sources) :
    addSlot source slot (sources.map fun s ↦ (s, slots s)) =
      sources.map fun s ↦ (s, if source = s then slots s ++ [slot] else slots s) := by
  induction sources with
  | nil => exact absurd h List.not_mem_nil
  | cons s sources ih =>
    rw [List.nodup_cons] at hnodup
    rw [List.map_cons, List.map_cons, addSlot]
    by_cases hs : s = source
    · subst hs
      have hrest : ∀ t ∈ sources, (t, slots t) =
          (t, if s = t then slots t ++ [slot] else slots t) := by
        intro t ht
        rw [if_neg (fun hst : s = t ↦ hnodup.1 (hst ▸ ht))]
      rw [if_pos rfl, if_pos rfl, List.map_congr_left hrest]
    · have hmem : source ∈ sources := (List.mem_cons.1 h).resolve_left (Ne.symm hs)
      rw [if_neg hs, if_neg (Ne.symm hs), ih hnodup.2 hmem]

/-- Whichever group the slot comes to, there is one slot more. -/
theorem sum_addSlot (source : NodeId) (slot : Delivery) (gs : List (NodeId × List Delivery)) :
    ((addSlot source slot gs).map (·.2.length)).sum = (gs.map (·.2.length)).sum + 1 := by
  induction gs with
  | nil => rfl
  | cons g gs ih =>
    rw [addSlot]
    split
    · rw [List.map_cons, List.sum_cons, List.map_cons, List.sum_cons, List.length_append,
        List.length_singleton]
      ring
    · rw [List.map_cons, List.sum_cons, ih, List.map_cons, List.sum_cons]
      ring

end AddSlot

theorem addSlot_described (rs : List Record) (r : Record) :
    addSlot r.source (read r.item) (described read rs) = described read (rs ++ [r]) := by
  have hconcat : (rs ++ [r]).map (·.source) = rs.map (·.source) ++ [r.source] := List.map_append
  by_cases hmem : r.source ∈ rs.map (·.source)
  · have hsource : r.source ∈ (rs.map (·.source)).eraseDups := List.mem_eraseDups.2 hmem
    rw [described, addSlot_of_mem (nodup_eraseDups _) hsource, described, hconcat,
      eraseDups_concat_of_mem hmem]
    simp only [slotsOf_concat]
  · have hsource : r.source ∉ (rs.map (·.source)).eraseDups := mt List.mem_eraseDups.1 hmem
    have hothers : ∀ s ∈ (rs.map (·.source)).eraseDups,
        (s, slotsOf read rs s) = (s, slotsOf read (rs ++ [r]) s) := by
      intro s hs
      rw [slotsOf_concat, if_neg (fun hrs : r.source = s ↦ hsource (hrs ▸ hs))]
    have hnew : slotsOf read (rs ++ [r]) r.source = [read r.item] := by
      rw [slotsOf_concat, if_pos rfl, slotsOf_eq_nil hmem, List.nil_append]
    rw [described, addSlot_of_notMem hsource, described, hconcat, eraseDups_concat_of_notMem hmem,
      List.map_append, List.map_congr_left hothers, List.map_singleton, hnew]

/-! ## All records -/

theorem ofRecordsBy_concat (records : List Json) (record : Json) :
    ofRecordsBy decode read (records ++ [record]) =
      (ofRecordsBy decode read records).addRecordBy decode read records.length record := by
  rw [ofRecordsBy, List.zipIdx_append, List.foldl_append, Nat.zero_add, ← ofRecordsBy]
  rfl

theorem bySource_ofRecordsBy (records : List Json) :
    (ofRecordsBy decode read records).bySource = described read (records.filterMap decode) := by
  induction records using List.reverseRecOn with
  | nil => rfl
  | append_singleton records record ih =>
    rw [ofRecordsBy_concat, addRecordBy, List.filterMap_append]
    cases hdecode : decode record with
    | none => simpa [hdecode] using ih
    | some r => simpa [hdecode, ih] using addSlot_described _ r

theorem unreadable_ofRecordsBy (records : List Json) :
    (ofRecordsBy decode read records).unreadable =
      (records.zipIdx.filter fun r ↦ (decode r.1).isNone).map (·.2) := by
  induction records using List.reverseRecOn with
  | nil => rfl
  | append_singleton records record ih =>
    rw [ofRecordsBy_concat, addRecordBy, List.zipIdx_append, List.filter_append, List.map_append,
      ← ih, Nat.zero_add]
    cases hdecode : decode record with
    | none => simp [hdecode]
    | some r => simp [hdecode]

theorem mem_unreadable {records : List Json} {i : ℕ} :
    i ∈ (ofRecordsBy decode read records).unreadable ↔
      ∃ record, records[i]? = some record ∧ decode record = none := by
  rw [unreadable_ofRecordsBy, List.mem_map]
  constructor
  · rintro ⟨⟨record, i⟩, h, rfl⟩
    obtain ⟨hmem, hnone⟩ := List.mem_filter.1 h
    exact ⟨record, List.mem_zipIdx_iff_getElem?.1 hmem, Option.isNone_iff_eq_none.1 hnone⟩
  · rintro ⟨record, hrecord, hnone⟩
    refine ⟨(record, i), List.mem_filter.2 ⟨?_, Option.isNone_iff_eq_none.2 hnone⟩, rfl⟩
    exact List.mem_zipIdx_iff_getElem?.2 hrecord

theorem pairwise_unreadable (records : List Json) :
    (ofRecordsBy decode read records).unreadable.Pairwise (· < ·) := by
  have hpositions : (records.zipIdx.map (·.2)).Pairwise (· < ·) := by
    rw [List.zipIdx_map_snd]
    exact List.pairwise_lt_range'
  rw [unreadable_ofRecordsBy]
  exact hpositions.sublist (List.filter_sublist.map _)

theorem size_ofRecordsBy (records : List Json) :
    ((ofRecordsBy decode read records).bySource.map (·.2.length)).sum +
      (ofRecordsBy decode read records).unreadable.length = records.length := by
  induction records using List.reverseRecOn with
  | nil => rfl
  | append_singleton records record ih =>
    rw [ofRecordsBy_concat, addRecordBy, List.length_append, List.length_singleton, ← ih]
    cases decode record with
    | none =>
      rw [List.length_append, List.length_singleton]
      ring
    | some r =>
      rw [sum_addSlot]
      ring

/-- The slot of a record has before it the slots of those records before it that name the same
source, and no others. -/
theorem slot_of_record {records : List Json} {i : ℕ} {record : Json} {r : Record}
    (hrecord : records[i]? = some record) (hdecode : decode record = some r) :
    (slotsOf read (records.filterMap decode) r.source)[
      ((records.take i).filterMap decode).countP (·.source = r.source)]? = some (read r.item) := by
  obtain ⟨hi, rfl⟩ := List.getElem?_eq_some_iff.1 hrecord
  have hsplit : records.filterMap decode =
      (records.take i).filterMap decode ++ r :: (records.drop (i + 1)).filterMap decode := by
    rw [← List.filterMap_cons_some hdecode, List.getElem_cons_drop, ← List.filterMap_append,
      List.take_append_drop]
  rw [hsplit, slotsOf, List.filter_append, List.filter_cons_of_pos (by simp), List.map_append,
    List.countP_eq_length_filter, List.getElem?_append_right (by rw [List.length_map]),
    List.length_map, Nat.sub_self]
  rfl

/-- Grouping keeps every record in its place, as `ofRecords` reads records and items and however else
they are read. The unreadable positions are those of the records that cannot be read, in order. The
groups are those of the sources that occur, each source once and in the order of first appearance,
and each of them has the readings of its source's records in file order. A record's slot depends on
nothing but the sources of the records before it, so it makes no difference to any other slot whether
its item can be read. Groups and unreadable positions together are as many as the records. -/
theorem grouping_keeps_records_in_place (decode : Json → Option Record) (read : Json → Delivery)
    (records : List Json) :
    let g := ofRecordsBy decode read records
    let sources := (records.filterMap decode).map (·.source)
    (g.unreadable.Pairwise (· < ·) ∧
      ∀ i, i ∈ g.unreadable ↔ ∃ record, records[i]? = some record ∧ decode record = none) ∧
    ((g.bySource.map (·.1)).Nodup ∧
      (g.bySource.map (·.1)).Pairwise (fun s t ↦ sources.idxOf s < sources.idxOf t) ∧
      ∀ s, s ∈ g.bySource.map (·.1) ↔ s ∈ sources) ∧
    (∀ group ∈ g.bySource, group.2 =
      ((records.filterMap decode).filter (·.source = group.1)).map fun r ↦ read r.item) ∧
    (∀ i record r, records[i]? = some record → decode record = some r →
      ∃ slots, (r.source, slots) ∈ g.bySource ∧
        slots[((records.take i).filterMap decode).countP (·.source = r.source)]? =
          some (read r.item)) ∧
    (g.bySource.map (·.2.length)).sum + g.unreadable.length = records.length := by
  intro g sources
  have hgroups : g.bySource = described read (records.filterMap decode) :=
    bySource_ofRecordsBy records
  have hsources : g.bySource.map (·.1) = sources.eraseDups := by
    rw [hgroups, described, List.map_map]
    exact List.map_id _
  refine ⟨⟨pairwise_unreadable records, fun i ↦ mem_unreadable⟩, ⟨?_, ?_, ?_⟩, ?_, ?_,
    size_ofRecordsBy records⟩
  · rw [hsources]
    exact nodup_eraseDups sources
  · rw [hsources]
    exact pairwise_idxOf_eraseDups sources
  · intro s
    rw [hsources, List.mem_eraseDups]
  · intro group hgroup
    rw [hgroups] at hgroup
    obtain ⟨s, -, rfl⟩ := List.mem_map.1 hgroup
    rfl
  · intro i record r hrecord hdecode
    have hmem : r ∈ records.filterMap decode :=
      List.mem_filterMap.2 ⟨record, List.mem_of_getElem? hrecord, hdecode⟩
    refine ⟨slotsOf read (records.filterMap decode) r.source, ?_, slot_of_record hrecord hdecode⟩
    rw [hgroups]
    exact List.mem_map.2 ⟨r.source, List.mem_eraseDups.2 (List.mem_map_of_mem hmem), rfl⟩

/-- Two nodes take turns. One record names no node, and the last version has no vector. -/
def mixedRecords : List Json :=
  let item : Item := ⟨"a", "Users", "eA==", false, [⟨.ofByte 2, 1⟩], 1, none⟩
  [Record.toJson ⟨.ofByte 2, item.toJson⟩, .object [("source", .text "lost")],
    Record.toJson ⟨.ofByte 1, item.toJson⟩,
    Record.toJson ⟨.ofByte 2, .object [("id", .text "c")]⟩]

/-- The last version keeps the second slot of its source, though it cannot be read. -/
theorem grouping_keeps_records_in_place_mixedRecords :
    Record.ofJson? mixedRecords[3] = some ⟨.ofByte 2, .object [("id", .text "c")]⟩ ∧
    ∃ slots, (NodeId.ofByte 2, slots) ∈ (ofRecords mixedRecords).bySource ∧
      slots[1]? = some (.error ⟨"c", "item does not match the wire shape"⟩) := by
  have hdecode : Record.ofJson? mixedRecords[3] =
      some ⟨.ofByte 2, .object [("id", .text "c")]⟩ := rfl
  obtain ⟨-, -, -, hslot, -⟩ := grouping_keeps_records_in_place Record.ofJson? readItem mixedRecords
  obtain ⟨slots, hgroup, hread⟩ := hslot 3 _ _ rfl hdecode
  exact ⟨hdecode, slots, hgroup, hread⟩

end Replay.Groups

end CausalReplica
