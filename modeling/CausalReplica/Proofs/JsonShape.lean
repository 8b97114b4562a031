import CausalReplica.Json.Shape
import Mathlib.Data.Int.Notation
import Mathlib.Data.List.Nodup

/-!
# Records and choices are read in the parts they were written in

A look-up finds the last field of a name. In an object whose names are distinct that is the only
one, so the parts of a record are the values that were written, and a name that was left out is
found missing. Taking the tag out of a choice leaves the record of its content.

What is then left for each type is to read back its parts: plain values here, lists item by item.
-/

namespace CausalReplica.Json

/-! ## Fields -/

/-- What a look-up has found counts until a later field of the name is found. -/
theorem foldl_lookup (name : String) (fields : List (String × Json)) (found : Option Json) :
    fields.foldl (fun found f ↦ if f.1 = name then some f.2 else found) found =
      (lookup name fields).or found := by
  induction fields generalizing found with
  | nil => rfl
  | cons f fields ih =>
    rw [lookup, List.foldl_cons, List.foldl_cons, ih, ih, Option.or_assoc]
    congr 1
    split <;> rfl

theorem lookup_cons (name : String) (f : String × Json) (fields : List (String × Json)) :
    lookup name (f :: fields) =
      (lookup name fields).or (if f.1 = name then some f.2 else none) := by
  rw [← foldl_lookup]
  rfl

theorem lookup_eq_none {name : String} {fields : List (String × Json)}
    (h : name ∉ fields.map (·.1)) : lookup name fields = none := by
  induction fields with
  | nil => rfl
  | cons f fields ih =>
    rw [List.map_cons, List.mem_cons, not_or] at h
    rw [lookup_cons, ih h.2, if_neg (Ne.symm h.1), Option.or_none]

theorem lookup_of_mem {fields : List (String × Json)} (h : (fields.map (·.1)).Nodup)
    {f : String × Json} (hf : f ∈ fields) : lookup f.1 fields = some f.2 := by
  induction fields with
  | nil => exact absurd hf List.not_mem_nil
  | cons g fields ih =>
    rw [List.map_cons, List.nodup_cons] at h
    rcases List.mem_cons.1 hf with rfl | hf
    · rw [lookup_cons, lookup_eq_none h.1, if_pos rfl, Option.none_or]
    · rw [lookup_cons, ih h.2 hf, Option.some_or]

theorem parts_object {fields : List (String × Json)} (absent : List String)
    (h : (fields.map (·.1) ++ absent).Nodup) :
    (object fields).parts (fields.map (·.1) ++ absent) =
      some (fields.map (.held ·.2) ++ absent.map fun _ ↦ .unnamed) := by
  obtain ⟨hfields, -, hdisjoint⟩ := List.nodup_append.1 h
  rw [parts, List.map_append, List.map_map]
  congr 2
  · refine List.map_congr_left fun f hf ↦ ?_
    rw [Function.comp_apply, lookup_of_mem hfields hf]
  · refine List.map_congr_left fun name hname ↦ ?_
    rw [lookup_eq_none fun hmem ↦ hdisjoint _ hmem _ hname rfl]

theorem choice?_object {tag : String} {name : Json} {content : List (String × Json)}
    (h : tag ∉ content.map (·.1)) :
    (object ((tag, name) :: content)).choice? tag = some (name, object content) := by
  have hcontent : content.filter (·.1 ≠ tag) = content := by
    rw [List.filter_eq_self]
    intro f hf
    rw [decide_eq_true_iff]
    rintro rfl
    exact h (List.mem_map_of_mem hf)
  rw [choice?, lookup_cons, lookup_eq_none h, if_pos rfl, Option.none_or, Option.map_some,
    List.filter_cons_of_neg (by simp), hcontent]

/-! ## Plain values -/

theorem asNatBelow_nat {bound n : ℕ} (h : n < bound) : (nat n).asNatBelow bound = some n := by
  have within : ((0 : ℤ) ≤ n && (n : ℤ) ≤ bound - 1) = true := by
    rw [Bool.and_eq_true, decide_eq_true_iff, decide_eq_true_iff]
    omega
  rw [asNatBelow, nat, asIntBetween, if_pos within, Option.map_some, Int.toNat_natCast]

@[simp] theorem asUInt64_nat (n : UInt64) : (nat n.toNat).asUInt64 = some n := by
  rw [asUInt64, asNatBelow_nat n.toNat_lt, Option.map_some, UInt64.ofNat_toNat]

@[simp] theorem asInt64_int (n : Int64) : (int n.toInt).asInt64 = some n := by
  have low : Int64.minValue.toInt ≤ n.toInt := n.minValue_le_toInt
  have high : n.toInt ≤ Int64.maxValue.toInt := n.toInt_le
  have within : (Int64.minValue.toInt ≤ n.toInt && n.toInt ≤ Int64.maxValue.toInt) = true := by
    rw [Bool.and_eq_true, decide_eq_true_iff, decide_eq_true_iff]
    exact ⟨low, high⟩
  rw [asInt64, asIntBetween, if_pos within, Option.map_some, Int64.ofInt_toInt]

/-! ## Lists -/

theorem asList_map {α β : Type} {decode : Json → Option β} {encode : α → Json} {f : α → β}
    {xs : List α} (h : ∀ x ∈ xs, decode (encode x) = some (f x)) :
    (list (xs.map encode)).asList decode = some (xs.map f) := by
  rw [asList]
  induction xs with
  | nil => rfl
  | cons x xs ih =>
    rw [List.forall_mem_cons] at h
    rw [List.map_cons, List.mapM_cons, h.1, ih h.2]
    rfl

theorem asList_map_self {α : Type} {decode : Json → Option α} {encode : α → Json} {xs : List α}
    (h : ∀ x ∈ xs, decode (encode x) = some x) :
    (list (xs.map encode)).asList decode = some xs := by
  rw [asList_map h, List.map_id']

@[simp] theorem asBytes_ofBytes (bytes : Bytes) : (ofBytes bytes).asBytes = some bytes := by
  have hbyte : ∀ b ∈ bytes, ((nat b.toNat).asNatBelow UInt8.size).map UInt8.ofNat = some b :=
    fun b _ ↦ by rw [asNatBelow_nat b.toNat_lt, Option.map_some, UInt8.ofNat_toNat]
  rw [asBytes, ofBytes, asList_map_self hbyte]

end CausalReplica.Json
