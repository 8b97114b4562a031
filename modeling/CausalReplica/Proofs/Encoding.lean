import CausalReplica.Proofs.Antichain
import CausalReplica.Proofs.Chunks
import CausalReplica.Proofs.NodeText
import CausalReplica.VersionVector.Encoding

/-!
# Encodings tell vectors apart

Fingerprints are taken from the bytes of a vector, and conflicts are shown by its text. Neither form
says where an entry ends. The bytes need not, since every entry has twenty-four of them. In the text
an entry has as many characters as its counter has digits, but a comma occurs in none, so the first
comma is behind the first entry. Within an entry the node comes first, in both forms at its full
width.

So both forms determine the entries, and these determine the vector. The bytes can even be read
back: what is read is what was written, and nothing else can be read.
-/

open scoped List

namespace CausalReplica

/-! ## Words -/

namespace Bytes

theorem ofNatLE_toNatLE (bytes : Bytes) : ofNatLE bytes.length (toNatLE bytes) = bytes := by
  induction bytes with
  | nil => rfl
  | cons b bytes ih =>
    have hb : b.toNat < 256 := b.toNat_lt
    have hlow : UInt8.ofNat (b.toNat + 256 * toNatLE bytes) = b := by
      rw [← UInt8.toNat_inj, UInt8.toNat_ofNat']
      omega
    have hrest : (b.toNat + 256 * toNatLE bytes) / 256 = toNatLE bytes := by omega
    rw [toNatLE_cons, List.length_cons, ofNatLE, hlow, hrest, ih]

theorem word64_ofNatLE (w : UInt64) : word64 (ofNatLE 8 w.toNat) = w := by
  have hfits : w.toNat % Nat.pow 256 8 = w.toNat := Nat.mod_eq_of_lt w.toNat_lt
  rw [word64, List.take_of_length_le (length_ofNatLE 8 _).le, toNatLE_ofNatLE, hfits,
    UInt64.ofNat_toNat]

theorem ofNatLE_word64 {bytes : Bytes} (h : bytes.length = 8) :
    ofNatLE 8 (word64 bytes).toNat = bytes := by
  have hfits : toNatLE bytes < 2 ^ 64 := by
    have hlt := toNatLE_lt bytes
    rw [h] at hlt
    exact hlt
  rw [word64, List.take_of_length_le h.le, UInt64.toNat_ofNat', Nat.mod_eq_of_lt hfits, ← h,
    ofNatLE_toNatLE]

end Bytes

/-! ## Nodes -/

namespace NodeId

theorem length_bytes (n : NodeId) : n.bytes.length = 16 := by
  rw [bytes, List.length_reverse, Bytes.length_ofNatLE]

theorem ofBytes_bytes (n : NodeId) : ofBytes n.bytes = n := by
  rw [ofBytes, toNatLE_bytes, toNat, BitVec.ofNat_toNat, BitVec.setWidth_eq]

theorem bytes_ofBytes {bytes : Bytes} (h : bytes.length = 16) : (ofBytes bytes).bytes = bytes := by
  have hlength : bytes.reverse.length = 16 := List.length_reverse.trans h
  have hfits : Bytes.toNatLE bytes.reverse < 2 ^ 128 := by
    have hlt := Bytes.toNatLE_lt bytes.reverse
    rw [hlength] at hlt
    exact hlt
  rw [NodeId.bytes, ofBytes, toNat, BitVec.toNat_ofNat, Nat.mod_eq_of_lt hfits, ← hlength,
    Bytes.ofNatLE_toNatLE, List.reverse_reverse]

theorem text_inj {a b : NodeId} : a.text = b.text ↔ a = b := by
  refine ⟨fun h ↦ ?_, congrArg text⟩
  have hparse : parse? a.text = parse? b.text := congrArg parse? h
  rw [parse?_text, parse?_text] at hparse
  exact Option.some.inj hparse

theorem length_text (n : NodeId) : n.text.toList.length = 36 := by
  have hdigits : (Hex.encode n.bytes).length = 32 := by rw [Hex.length_encode, length_bytes]
  rw [text, String.toList_ofList, length_grouped hdigits]

theorem comma_notMem_text (n : NodeId) : ',' ∉ n.text.toList := by
  intro h
  rw [text, String.toList_ofList] at h
  -- A character that is no hyphen stays when the hyphens are taken out.
  have hdigits : ',' ∈ Hex.encode n.bytes := by
    rw [← filter_grouped (Hex.hyphen_notMem_encode n.bytes)]
    exact List.mem_filter.2 ⟨h, rfl⟩
  obtain ⟨k, hk, hdigit⟩ := Hex.exists_digit_of_mem_encode hdigits
  interval_cases k <;> exact absurd hdigit (by decide)

end NodeId

/-! ## Byte encodings -/

namespace VersionVector

theorem length_entryBytes (e : NodeId × UInt64) : (entryBytes e).length = 24 := by
  rw [entryBytes, List.length_append, NodeId.length_bytes, Bytes.length_ofNatLE]

theorem entryOfBytes_entryBytes (e : NodeId × UInt64) : entryOfBytes (entryBytes e) = e := by
  rw [entryOfBytes, entryBytes, List.take_left' (NodeId.length_bytes _),
    List.drop_left' (NodeId.length_bytes _), NodeId.ofBytes_bytes, Bytes.word64_ofNatLE]

theorem entryBytes_entryOfBytes {bytes : Bytes} (h : bytes.length = 24) :
    entryBytes (entryOfBytes bytes) = bytes := by
  have hnode : (bytes.take 16).length = 16 := List.length_take_of_le (by omega)
  have hcounter : (bytes.drop 16).length = 8 := by rw [List.length_drop, h]
  rw [entryBytes, entryOfBytes, NodeId.bytes_ofBytes hnode, Bytes.ofNatLE_word64 hcounter,
    List.take_append_drop]

/-- Cut into chunks, the bytes of entries fall apart into the entries again. -/
theorem chunksExact_entryBytes (entries : List (NodeId × UInt64)) :
    Bytes.chunksExact 24 (entries.flatMap entryBytes) = (entries.map entryBytes, []) := by
  induction entries with
  | nil => exact Bytes.chunksExact_of_length_lt (by decide)
  | cons e entries ih =>
    rw [List.flatMap_cons, Bytes.chunksExact_append (by decide) (length_entryBytes e), ih,
      List.map_cons]

theorem ofEntries?_eq_some_iff {entries : List (NodeId × UInt64)} {v : VersionVector} :
    ofEntries? entries = some v ↔ entries = v.entries := by
  rw [ofEntries?]
  constructor
  · intro h
    split at h
    · rw [← Option.some.inj h]
      rfl
    · contradiction
  · rintro rfl
    rw [dif_pos ⟨v.counts.sorted, v.positive⟩]
    rfl

theorem ofBytes?_eq_some_iff {bytes : Bytes} {v : VersionVector} :
    ofBytes? bytes = some v ↔ bytes = v.bytes := by
  constructor
  · intro h
    rw [ofBytes?] at h
    dsimp only at h
    split at h <;> rename_i hrest
    · rw [ofEntries?_eq_some_iff] at h
      have hchunks : ((Bytes.chunksExact 24 bytes).1.map entryOfBytes).map entryBytes =
          (Bytes.chunksExact 24 bytes).1 := by
        rw [List.map_map]
        refine Eq.trans (List.map_congr_left fun chunk hchunk ↦ ?_) (List.map_id _)
        exact entryBytes_entryOfBytes (Bytes.length_of_mem_chunks hchunk)
      have hbytes := Bytes.flatten_chunks 24 bytes
      rw [List.isEmpty_iff.1 hrest, List.append_nil, ← hchunks, h] at hbytes
      rw [VersionVector.bytes, List.flatMap_def, hbytes]
    · contradiction
  · rintro rfl
    have hentries : (v.entries.map entryBytes).map entryOfBytes = v.entries := by
      rw [List.map_map]
      exact Eq.trans (List.map_congr_left fun e _ ↦ entryOfBytes_entryBytes e) (List.map_id _)
    rw [ofBytes?, VersionVector.bytes, chunksExact_entryBytes]
    exact ofEntries?_eq_some_iff.2 hentries

theorem bytes_inj {v w : VersionVector} : v.bytes = w.bytes ↔ v = w := by
  refine ⟨fun h ↦ ?_, congrArg bytes⟩
  have hread : ofBytes? w.bytes = some v := ofBytes?_eq_some_iff.2 h.symm
  exact Option.some.inj (hread.symm.trans (ofBytes?_eq_some_iff.2 rfl))

end VersionVector

/-! ## Texts -/

theorem intercalate_comma_blank (x : List Char) (xs : List (List Char)) :
    [',', ' '].intercalate (x :: xs) = [','].intercalate (x :: xs.map (' ' :: ·)) := by
  induction xs generalizing x with
  | nil => rw [List.map_nil, List.intercalate_singleton, List.intercalate_singleton]
  | cons y xs ih =>
    rw [List.intercalate_cons_cons, ih, List.map_cons, List.intercalate_cons_cons,
      List.intercalate_cons_cons_left, List.append_assoc, List.append_assoc]
    rfl

/-- Texts without commas come back when the whole is split at the commas, all but the first with a
blank in front. -/
theorem splitOn_intercalate_comma_blank {x : List Char} {xs : List (List Char)}
    (h : ∀ z ∈ x :: xs, ',' ∉ z) :
    ([',', ' '].intercalate (x :: xs)).splitOn ',' = x :: xs.map (' ' :: ·) := by
  have hpieces : ∀ z ∈ x :: xs.map (' ' :: ·), ',' ∉ z := by
    rw [List.forall_mem_cons] at h ⊢
    refine ⟨h.1, fun z hz hcomma ↦ ?_⟩
    obtain ⟨y, hy, rfl⟩ := List.mem_map.1 hz
    rcases List.mem_cons.1 hcomma with hblank | hcomma
    · exact absurd hblank (by decide)
    · exact h.2 y hy hcomma
  rw [intercalate_comma_blank]
  exact List.splitOn_intercalate ',' hpieces (List.cons_ne_nil _ _)

/-- Joining tells apart texts that are not empty and have no commas. -/
theorem eq_of_intercalate_eq {xs ys : List (List Char)} (hx : ∀ x ∈ xs, x ≠ [] ∧ ',' ∉ x)
    (hy : ∀ y ∈ ys, y ≠ [] ∧ ',' ∉ y)
    (h : [',', ' '].intercalate xs = [',', ' '].intercalate ys) : xs = ys := by
  have hsplit := congrArg (List.splitOn ',') h
  cases xs with
  | nil =>
    cases ys with
    | nil => rfl
    | cons y ys =>
      rw [splitOn_intercalate_comma_blank fun z hz ↦ (hy z hz).2] at hsplit
      exact absurd (List.cons.inj hsplit).1.symm (hy y List.mem_cons_self).1
  | cons x xs =>
    rw [splitOn_intercalate_comma_blank fun z hz ↦ (hx z hz).2] at hsplit
    cases ys with
    | nil => exact absurd (List.cons.inj hsplit).1 (hx x List.mem_cons_self).1
    | cons y ys =>
      rw [splitOn_intercalate_comma_blank fun z hz ↦ (hy z hz).2] at hsplit
      obtain ⟨rfl, hrest⟩ := List.cons.inj hsplit
      rw [List.map_injective_iff.2 List.cons_injective hrest]

namespace VersionVector

theorem toList_entryText (e : NodeId × UInt64) :
    (entryText e).toList = e.1.text.toList ++ ':' :: Nat.toDigits 10 e.2.toNat := by
  rw [entryText, String.toList_append, String.toList_append, List.append_assoc, ← Nat.toList_repr]
  rfl

theorem entryText_inj {d e : NodeId × UInt64} : entryText d = entryText e ↔ d = e := by
  refine ⟨fun h ↦ ?_, congrArg entryText⟩
  have hlist : (entryText d).toList = (entryText e).toList := congrArg String.toList h
  rw [toList_entryText, toList_entryText] at hlist
  obtain ⟨hnode, hcounter⟩ := List.append_inj hlist
    ((NodeId.length_text d.1).trans (NodeId.length_text e.1).symm)
  have hvalue := congrArg (Nat.ofDigitChars 10 · 0) (List.cons.inj hcounter).2
  rw [Nat.ofDigitChars_ten_toDigits, Nat.ofDigitChars_ten_toDigits] at hvalue
  exact Prod.ext (NodeId.text_inj.1 (String.toList_inj.1 hnode)) (UInt64.toNat_inj.1 hvalue)

theorem comma_notMem_entryText (e : NodeId × UInt64) : ',' ∉ (entryText e).toList := by
  intro h
  rw [toList_entryText, List.mem_append, List.mem_cons] at h
  rcases h with h | h | h
  · exact NodeId.comma_notMem_text e.1 h
  · exact absurd h (by decide)
  · exact absurd (Nat.isDigit_of_mem_toDigits (by decide) (by decide) h) (by decide)

theorem text_inj {v w : VersionVector} : v.text = w.text ↔ v = w := by
  refine ⟨fun h ↦ ?_, congrArg text⟩
  have hparts : ∀ entries : List (NodeId × UInt64),
      ∀ cs ∈ (entries.map entryText).map String.toList, cs ≠ [] ∧ ',' ∉ cs := by
    intro entries cs hcs
    rw [List.map_map] at hcs
    obtain ⟨e, -, rfl⟩ := List.mem_map.1 hcs
    refine ⟨?_, comma_notMem_entryText e⟩
    rw [Function.comp_apply, toList_entryText]
    exact List.append_ne_nil_of_right_ne_nil _ (List.cons_ne_nil _ _)
  have hlist : v.text.toList = w.text.toList := congrArg String.toList h
  rw [text, text, String.toList_intercalate, String.toList_intercalate] at hlist
  have hentries := eq_of_intercalate_eq (hparts _) (hparts _) hlist
  rw [List.map_map, List.map_map] at hentries
  have hinjective : Function.Injective (String.toList ∘ entryText) := fun d e hde ↦
    entryText_inj.1 (String.toList_inj.1 hde)
  exact ext_counts (Dict.ext_entries (List.map_injective_iff.2 hinjective hentries))

end VersionVector

/-! ## Members of conflicts -/

theorem Version.encodings_ne_of_concurrent {a b : Version} (h : a.relate b = .concurrent) :
    a.vector.bytes ≠ b.vector.bytes ∧ a.vector.text ≠ b.vector.text := by
  have hne : a.vector ≠ b.vector := fun heq ↦ (relate_eq_concurrent_iff.1 h).1 heq.le
  exact ⟨mt VersionVector.bytes_inj.1 hne, mt VersionVector.text_inj.1 hne⟩

namespace VersionVector

/-- The encodings lose nothing. Two vectors have the same bytes, or the same text, only if they are
equal, and the bytes of a vector are the only ones that are read as it. So no two members of a
conflict are hashed from the same bytes or shown by the same text, however the conflict was built
and whatever was inserted into it. A conflict is, by its specification, a set of versions that are
pairwise concurrent: `c.Built ∨ c.isAntichain = true` is this definition, which holds of all that is
built and is checked of anything else. A value that was read from JSON may hold ordered members and
is then no conflict in this sense; two of its members that are not told apart were members before
all insertions. -/
theorem encodings_tell_vectors_apart :
    (∀ v w : VersionVector, (v.bytes = w.bytes ↔ v = w) ∧ (v.text = w.text ↔ v = w)) ∧
    (∀ (bytes : Bytes) (v : VersionVector), ofBytes? bytes = some v ↔ bytes = v.bytes) ∧
    ∀ (c : Conflict) (us : List Version),
      (c.Built ∨ c.isAntichain = true → (c.insertAll us).members.Pairwise fun a b ↦
        a.vector.bytes ≠ b.vector.bytes ∧ a.vector.text ≠ b.vector.text) ∧
      ∀ a b, [a, b] <+ (c.insertAll us).members →
        a.vector.bytes ≠ b.vector.bytes ∧ a.vector.text ≠ b.vector.text ∨ [a, b] <+ c.members := by
  refine ⟨fun v w ↦ ⟨bytes_inj, text_inj⟩, fun bytes v ↦ ofBytes?_eq_some_iff, fun c us ↦ ?_⟩
  constructor
  · intro hc
    have ha : c.isAntichain = true := hc.elim Conflict.Built.isAntichain id
    have hafter := Conflict.isAntichain_iff.1 (Conflict.isAntichain_insertAll ha us)
    exact hafter.imp Version.encodings_ne_of_concurrent
  · intro a b hab
    exact (Conflict.relate_of_sublist_insertAll us hab).imp_left Version.encodings_ne_of_concurrent

open Conflict (Built crossing insertAll succession)

/-- Two crossing versions, of which the first one is replaced by its successor. -/
theorem encodings_tell_vectors_apart_crossing :
    Built ⟨"d", crossing⟩ ∧
    ((insertAll ⟨"d", crossing⟩ succession).members.Pairwise fun a b ↦
      a.vector.bytes ≠ b.vector.bytes ∧ a.vector.text ≠ b.vector.text) ∧
    [crossing[1], succession[1]] <+ (insertAll ⟨"d", crossing⟩ succession).members ∧
    (crossing[1].vector.bytes ≠ succession[1].vector.bytes ∧
        crossing[1].vector.text ≠ succession[1].vector.text ∨
      [crossing[1], succession[1]] <+ crossing) := by
  have hbuilt : Built ⟨"d", crossing⟩ := Or.inr ⟨"d", crossing, by decide⟩
  have hmembers :
      (insertAll ⟨"d", crossing⟩ succession).members = [crossing[1], succession[1]] := by decide
  obtain ⟨-, -, hapart⟩ := encodings_tell_vectors_apart
  obtain ⟨hpairwise, hthere⟩ := hapart ⟨"d", crossing⟩ succession
  exact ⟨hbuilt, hpairwise (Or.inl hbuilt), hmembers ▸ List.Sublist.refl _,
    hthere _ _ (hmembers ▸ List.Sublist.refl _)⟩

end VersionVector

end CausalReplica
