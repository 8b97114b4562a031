import CausalReplica.Dict.Align
import Mathlib.Data.List.Pairwise

/-!
# Dictionaries through their look-ups

A dictionary is determined by its look-ups, and every operation on dictionaries is described by
them: an insertion and an erasure change the look-up of one key, and a join looks at both sides of
each key. The rows of two dictionaries are the keys that either of them has.

The entries come in only once, as the members that the look-ups find. After that no proof about
dictionaries depends on how they are represented.
-/

namespace CausalReplica.Dict

variable {κ α β : Type} [Ord κ]

/-! ## Entries and look-ups -/

@[simp] theorem lookup_nil (k : κ) : lookup k ([] : List (κ × α)) = none := rfl

theorem lookup_cons (k : κ) (e : κ × α) (es : List (κ × α)) :
    lookup k (e :: es) = if compare k e.1 = .eq then some e.2 else lookup k es := rfl

theorem lookup_eq_none {k : κ} {es : List (κ × α)} (h : ∀ e ∈ es, compare k e.1 ≠ .eq) :
    lookup k es = none := by
  induction es with
  | nil => rfl
  | cons e rest ih =>
    rw [lookup_cons, if_neg (h e List.mem_cons_self)]
    exact ih fun x hx ↦ h x (List.mem_cons_of_mem _ hx)

theorem lookup_eq_none_of_lt {k : κ} {es : List (κ × α)} (h : ∀ e ∈ es, compare k e.1 = .lt) :
    lookup k es = none :=
  lookup_eq_none fun e he ↦ by rw [h e he]; simp

theorem lookup_cons_of_lt [Std.OrientedOrd κ] {k : κ} {e : κ × α} (es : List (κ × α))
    (h : compare e.1 k = .lt) : lookup k (e :: es) = lookup k es := by
  rw [lookup_cons, if_neg (by rw [Std.OrientedCmp.gt_of_lt h]; simp)]

theorem lt_key_of_mem_alignEntries {k : κ} {ls : List (κ × α)} {rs : List (κ × β)}
    (hl : ∀ e ∈ ls, compare k e.1 = .lt) (hr : ∀ e ∈ rs, compare k e.1 = .lt)
    {row : Row κ α β} (h : row ∈ alignEntries ls rs) : compare k row.key = .lt := by
  rcases key_of_mem_alignEntries h with h | h <;> obtain ⟨e, he, hk⟩ := List.mem_map.1 h
  · exact hk ▸ hl e he
  · exact hk ▸ hr e he

section LawfulEq

variable [Std.LawfulEqOrd κ]

theorem mem_of_lookup {k : κ} {a : α} {es : List (κ × α)} (h : lookup k es = some a) :
    (k, a) ∈ es := by
  induction es with
  | nil => simp at h
  | cons e rest ih =>
    rw [lookup_cons] at h
    split at h
    · rename_i hk
      obtain rfl := Std.compare_eq_iff_eq.1 hk
      obtain rfl := Option.some.inj h
      exact List.mem_cons_self
    · exact List.mem_cons_of_mem _ (ih h)

theorem lookup_insertEntry_self (k : κ) (a : α) (es : List (κ × α)) :
    lookup k (insertEntry k a es) = some a := by
  have hself : compare k k = .eq := Std.compare_eq_iff_eq.2 rfl
  induction es with
  | nil => rw [insertEntry, lookup_cons, if_pos hself]
  | cons e rest ih =>
    rw [insertEntry]
    split <;> rename_i hk
    · rw [lookup_cons, if_pos hself]
    · rw [lookup_cons, if_pos hself]
    · rw [lookup_cons, if_neg (by rw [hk]; simp), ih]

theorem lookup_insertEntry_ne {k k' : κ} (h : k' ≠ k) (a : α) (es : List (κ × α)) :
    lookup k' (insertEntry k a es) = lookup k' es := by
  have hne : compare k' k ≠ .eq := fun hk ↦ h (Std.compare_eq_iff_eq.1 hk)
  induction es with
  | nil => rw [insertEntry, lookup_cons, if_neg hne]
  | cons e rest ih =>
    rw [insertEntry]
    split <;> rename_i hk
    · rw [lookup_cons, if_neg hne]
    · obtain rfl := Std.compare_eq_iff_eq.1 hk
      rw [lookup_cons, if_neg hne, lookup_cons, if_neg hne]
    · rw [lookup_cons, ih, lookup_cons]

end LawfulEq

variable [Std.TransOrd κ] [Std.LawfulEqOrd κ]

theorem lookup_of_mem {k : κ} {a : α} {es : List (κ × α)}
    (hs : es.Pairwise fun a b ↦ compare a.1 b.1 = .lt) (h : (k, a) ∈ es) :
    lookup k es = some a := by
  induction es with
  | nil => simp at h
  | cons e rest ih =>
    obtain ⟨he, hrest⟩ := List.pairwise_cons.1 hs
    rcases List.mem_cons.1 h with rfl | h
    · rw [lookup_cons, if_pos (Std.compare_eq_iff_eq.2 rfl)]
    · have hgt : compare k e.1 = .gt := Std.OrientedCmp.gt_of_lt (he _ h)
      rw [lookup_cons, if_neg (by rw [hgt]; simp), ih hrest h]

theorem mem_entries_iff {d : Dict κ α} {k : κ} {a : α} :
    (k, a) ∈ d.entries ↔ d.find? k = some a :=
  ⟨lookup_of_mem d.sorted, mem_of_lookup⟩

theorem ext_find? {a b : Dict κ α} (h : ∀ k, a.find? k = b.find? k) : a = b := by
  have hmem : ∀ e, e ∈ a.entries ↔ e ∈ b.entries := by
    rintro ⟨k, x⟩
    rw [mem_entries_iff, mem_entries_iff, h]
  have hnodup : ∀ d : Dict κ α, d.entries.Nodup := by
    intro d
    refine d.sorted.imp ?_
    rintro x y hxy rfl
    rw [Std.compare_eq_iff_eq.2 rfl] at hxy
    simp at hxy
  -- There is only one order in which the same entries can stand.
  have hperm := (List.perm_ext_iff_of_nodup (hnodup a) (hnodup b)).2 hmem
  refine ext_entries (hperm.eq_of_pairwise (fun x y _ _ hxy hyx ↦ ?_) a.sorted b.sorted)
  rw [Std.OrientedCmp.gt_of_lt hxy] at hyx
  simp at hyx

/-! ## Inserting and erasing -/

@[simp] theorem find?_insert_self (d : Dict κ α) (k : κ) (a : α) :
    (d.insert k a).find? k = some a := lookup_insertEntry_self k a d.entries

theorem find?_insert_ne (d : Dict κ α) {k k' : κ} (h : k' ≠ k) (a : α) :
    (d.insert k a).find? k' = d.find? k' := lookup_insertEntry_ne h a d.entries

omit [Std.TransOrd κ] [Std.LawfulEqOrd κ] in
@[simp] theorem find?_erase_self (d : Dict κ α) (k : κ) : (d.erase k).find? k = none := by
  refine lookup_eq_none fun e he ↦ ?_
  have hk := (List.mem_filter.1 he).2
  simpa using hk

theorem find?_erase_ne (d : Dict κ α) {k k' : κ} (h : k' ≠ k) :
    (d.erase k).find? k' = d.find? k' := by
  have hne : compare k k' ≠ .eq := fun hk ↦ h (Std.compare_eq_iff_eq.1 hk).symm
  refine Option.ext fun a ↦ ?_
  have hmem : (k', a) ∈ (d.erase k).entries ↔ (k', a) ∈ d.entries := by
    simp [erase, eraseEntry, List.mem_filter, hne]
  exact mem_entries_iff.symm.trans (hmem.trans mem_entries_iff)

@[simp] theorem find?_put_self (d : Dict κ α) (k : κ) (slot : Option α) :
    (d.put k slot).find? k = slot := by
  cases slot with
  | none => exact find?_erase_self d k
  | some a => exact find?_insert_self d k a

theorem find?_put_ne (d : Dict κ α) {k k' : κ} (h : k' ≠ k) (slot : Option α) :
    (d.put k slot).find? k' = d.find? k' := by
  cases slot with
  | none => exact find?_erase_ne d h
  | some a => exact find?_insert_ne d h a

/-- What is put in counts, whether or not the key was erased before. -/
@[simp] theorem put_erase (d : Dict κ α) (k : κ) (slot : Option α) :
    (d.erase k).put k slot = d.put k slot := by
  refine ext_find? fun k' ↦ ?_
  by_cases hk : k' = k
  · rw [hk, find?_put_self, find?_put_self]
  · rw [find?_put_ne _ hk, find?_put_ne _ hk, find?_erase_ne d hk]

@[simp] theorem put_find? (d : Dict κ α) (k : κ) : d.put k (d.find? k) = d := by
  refine ext_find? fun k' ↦ ?_
  by_cases hk : k' = k
  · rw [hk, find?_put_self]
  · rw [find?_put_ne _ hk]

/-- Of the values that a list has for one key the last one counts, and before it what was there. -/
theorem find?_foldl_insert {es : List (κ × α)} (hs : es.Pairwise fun a b ↦ compare a.1 b.1 = .lt)
    (d : Dict κ α) (k : κ) :
    (es.foldl (fun d e ↦ d.insert e.1 e.2) d).find? k = (lookup k es).or (d.find? k) := by
  induction es generalizing d with
  | nil => rfl
  | cons e es ih =>
    obtain ⟨he, hes⟩ := List.pairwise_cons.1 hs
    rw [List.foldl_cons, ih hes, lookup_cons]
    by_cases hk : k = e.1
    · subst hk
      rw [find?_insert_self, if_pos (Std.compare_eq_iff_eq.2 rfl), lookup_eq_none_of_lt he,
        Option.none_or, Option.some_or]
    · rw [find?_insert_ne d hk, if_neg fun heq ↦ hk (Std.compare_eq_iff_eq.1 heq)]

theorem ofList_entries (d : Dict κ α) : ofList d.entries = d := by
  refine ext_find? fun k ↦ ?_
  rw [ofList, find?_foldl_insert d.sorted, find?_empty, Option.or_none]
  rfl

/-! ## Two dictionaries side by side

The walk over two ordered lists gives every key of either list one row, and the row holds what the
two look-ups of its key give. Both inductions follow the walk: the left list outside, the right one
inside. -/

omit [Std.LawfulEqOrd κ] in
theorem lt_of_lt_head {k : κ} {e : κ × α} {es : List (κ × α)} (h : compare k e.1 = .lt)
    (hs : ∀ x ∈ es, compare e.1 x.1 = .lt) : ∀ x ∈ e :: es, compare k x.1 = .lt := by
  intro x hx
  rcases List.mem_cons.1 hx with rfl | hx
  · exact h
  · exact Std.TransCmp.lt_trans h (hs x hx)

theorem lookups_of_mem_alignEntries {ls : List (κ × α)} {rs : List (κ × β)}
    (hl : ls.Pairwise fun a b ↦ compare a.1 b.1 = .lt)
    (hr : rs.Pairwise fun a b ↦ compare a.1 b.1 = .lt) {row : Row κ α β}
    (h : row ∈ alignEntries ls rs) :
    row.left = lookup row.key ls ∧ row.right = lookup row.key rs := by
  have hself : ∀ k : κ, compare k k = .eq := fun k ↦ Std.compare_eq_iff_eq.2 rfl
  induction ls generalizing rs with
  | nil =>
    obtain ⟨r, hmem, rfl⟩ := List.mem_map.1 h
    exact ⟨rfl, (lookup_of_mem hr hmem).symm⟩
  | cons l ls ih =>
    obtain ⟨hl0, hls⟩ := List.pairwise_cons.1 hl
    induction rs with
    | nil =>
      rcases List.mem_cons.1 h with rfl | h
      · exact ⟨by rw [lookup_cons, if_pos (hself _)], rfl⟩
      · rw [lookup_cons_of_lt _ (lt_key_of_mem_alignEntries hl0 (by simp) h)]
        exact ih hls hr h
    | cons r rs ihr =>
      obtain ⟨hr0, hrs⟩ := List.pairwise_cons.1 hr
      simp only [alignEntries, alignCons] at h
      split at h <;> rename_i hk <;> rcases List.mem_cons.1 h with rfl | h
      · exact ⟨by rw [lookup_cons, if_pos (hself _)],
          (lookup_eq_none_of_lt (lt_of_lt_head hk hr0)).symm⟩
      · rw [lookup_cons_of_lt _ (lt_key_of_mem_alignEntries hl0 (lt_of_lt_head hk hr0) h)]
        exact ih hls hr h
      · exact ⟨by rw [lookup_cons, if_pos (hself _)], by rw [lookup_cons, if_pos hk]⟩
      · have hkey : l.1 = r.1 := Std.compare_eq_iff_eq.1 hk
        have hlt := lt_key_of_mem_alignEntries hl0 (hkey ▸ hr0) h
        rw [lookup_cons_of_lt _ hlt, lookup_cons_of_lt _ (hkey ▸ hlt)]
        exact ih hls hrs h
      · exact ⟨(lookup_eq_none_of_lt (lt_of_lt_head (Std.OrientedCmp.lt_of_gt hk) hl0)).symm,
          by rw [lookup_cons, if_pos (hself _)]⟩
      · have hlt := lt_key_of_mem_alignEntries
          (lt_of_lt_head (Std.OrientedCmp.lt_of_gt hk) hl0) hr0 h
        rw [lookup_cons_of_lt rs hlt]
        exact ihr hrs h

omit [Std.TransOrd κ] in
theorem exists_mem_alignEntries {k : κ} {ls : List (κ × α)} {rs : List (κ × β)}
    (h : k ∈ ls.map (·.1) ∨ k ∈ rs.map (·.1)) : ∃ row ∈ alignEntries ls rs, row.key = k := by
  induction ls generalizing rs with
  | nil =>
    obtain ⟨r, hr, rfl⟩ := List.mem_map.1 (h.resolve_left (by simp))
    exact ⟨_, List.mem_map_of_mem hr, rfl⟩
  | cons l ls ih =>
    -- Where the walk takes the head of the left list, the rest of the keys are left for `ih`.
    have step : ∀ {rest : List (κ × β)} {row : Row κ α β}, row.key = l.1 →
        (k = l.1 ∨ k ∈ ls.map (·.1) ∨ k ∈ rest.map (·.1)) →
        ∃ x ∈ row :: alignEntries ls rest, x.key = k := by
      rintro rest row hrow (rfl | hk)
      · exact ⟨row, List.mem_cons_self, hrow⟩
      · obtain ⟨x, hx, hxk⟩ := ih hk
        exact ⟨x, List.mem_cons_of_mem _ hx, hxk⟩
    induction rs with
    | nil => exact step rfl (by simpa using h)
    | cons r rs ihr =>
      simp only [List.map_cons, List.mem_cons] at h ihr
      simp only [alignEntries, alignCons]
      split <;> rename_i hk
      · exact step rfl (by simpa only [List.map_cons, List.mem_cons, or_assoc] using h)
      · rw [← Std.compare_eq_iff_eq.1 hk] at h
        exact step rfl (by rcases h with (h | h) | h | h <;> simp [h])
      · rcases h with h | rfl | h
        · obtain ⟨x, hx, hxk⟩ := ihr (Or.inl h)
          exact ⟨x, List.mem_cons_of_mem _ hx, hxk⟩
        · exact ⟨_, List.mem_cons_self, rfl⟩
        · obtain ⟨x, hx, hxk⟩ := ihr (Or.inr h)
          exact ⟨x, List.mem_cons_of_mem _ hx, hxk⟩

/-- The rows of two dictionaries: one for every key of either side, with both look-ups. -/
theorem mem_align {a : Dict κ α} {b : Dict κ β} {row : Row κ α β} :
    row ∈ align a b ↔ (row.key ∈ a.keys ∨ row.key ∈ b.keys) ∧
      row.left = a.find? row.key ∧ row.right = b.find? row.key := by
  constructor
  · exact fun h ↦ ⟨key_of_mem_alignEntries h, lookups_of_mem_alignEntries a.sorted b.sorted h⟩
  · rintro ⟨hk, hl, hr⟩
    obtain ⟨x, hx, hxk⟩ := exists_mem_alignEntries hk
    obtain ⟨hxl, hxr⟩ := lookups_of_mem_alignEntries a.sorted b.sorted hx
    obtain rfl : x = row := by
      cases x
      cases row
      simp_all [find?]
    exact hx

theorem find?_eq_none_iff {d : Dict κ α} {k : κ} : d.find? k = none ↔ k ∉ d.keys := by
  rw [keys, List.mem_map]
  constructor
  · rintro h ⟨e, he, rfl⟩
    rw [mem_entries_iff.1 he] at h
    simp at h
  · intro h
    cases hf : d.find? k with
    | none => rfl
    | some a => exact absurd ⟨_, mem_entries_iff.2 hf, rfl⟩ h

omit [Std.TransOrd κ] in
theorem nodup_keys (d : Dict κ α) : d.keys.Nodup := by
  refine List.pairwise_map.2 (d.sorted.imp fun hlt heq ↦ ?_)
  rw [heq, Std.compare_self] at hlt
  simp at hlt

theorem find?_join_eq_some_iff {f : Option α → Option α → α} {a b : Dict κ α} {k : κ} {x : α} :
    (join f a b).find? k = some x ↔
      (k ∈ a.keys ∨ k ∈ b.keys) ∧ f (a.find? k) (b.find? k) = x := by
  have hmem : (k, x) ∈ (join f a b).entries ↔
      ∃ row ∈ align a b, (row.key, f row.left row.right) = (k, x) := List.mem_map
  rw [← mem_entries_iff, hmem]
  constructor
  · rintro ⟨row, hrow, hkx⟩
    obtain ⟨hk, hl, hr⟩ := mem_align.1 hrow
    obtain ⟨rfl, rfl⟩ := Prod.mk.inj hkx
    exact ⟨hk, by rw [hl, hr]⟩
  · rintro ⟨hk, rfl⟩
    exact ⟨⟨k, a.find? k, b.find? k⟩, mem_align.2 ⟨hk, rfl, rfl⟩, rfl⟩

end CausalReplica.Dict
