/-!
# Dictionaries

A dictionary is a list of keyed values in strictly increasing key order. The order makes the
representation canonical: two dictionaries with the same look-ups are equal, and listing one gives
its keys in order. Version vectors, the conflict registry, document stores and policies are built on
it.
-/

namespace CausalReplica

/-- Values under distinct keys, in increasing key order. -/
structure Dict (κ : Type) (α : Type) [Ord κ] where
  /-- The keyed values. -/
  entries : List (κ × α)
  /-- The keys increase strictly. -/
  sorted : entries.Pairwise fun a b ↦ compare a.1 b.1 = .lt

namespace Dict

variable {κ α β : Type} [Ord κ]

instance [DecidableEq κ] [DecidableEq α] : DecidableEq (Dict κ α) := fun a b ↦
  decidable_of_iff (a.entries = b.entries) ⟨fun h ↦ by cases a; cases b; simp_all, fun h ↦ h ▸ rfl⟩

@[ext] theorem ext_entries {a b : Dict κ α} (h : a.entries = b.entries) : a = b := by
  cases a; cases b; simp_all

/-- The dictionary without keys. -/
def empty : Dict κ α := ⟨[], .nil⟩

instance : EmptyCollection (Dict κ α) := ⟨empty⟩

instance : Inhabited (Dict κ α) := ⟨empty⟩

def keys (d : Dict κ α) : List κ := d.entries.map (·.1)

/-- The values in key order. -/
def values (d : Dict κ α) : List α := d.entries.map (·.2)

def size (d : Dict κ α) : Nat := d.entries.length

def isEmpty (d : Dict κ α) : Bool := d.entries.isEmpty

/-! ## Looking up -/

/-- The value under `k` in a list of keyed values. -/
def lookup (k : κ) : List (κ × α) → Option α
  | [] => none
  | e :: rest => if compare k e.1 = .eq then some e.2 else lookup k rest

/-- The value under `k`. -/
def find? (d : Dict κ α) (k : κ) : Option α := lookup k d.entries

@[simp] theorem find?_empty (k : κ) : (empty : Dict κ α).find? k = none := rfl

/-! ## Inserting and erasing -/

/-- The list with `a` under `k`, in order. -/
def insertEntry (k : κ) (a : α) : List (κ × α) → List (κ × α)
  | [] => [(k, a)]
  | e :: rest =>
    match compare k e.1 with
    | .lt => (k, a) :: e :: rest
    | .eq => (k, a) :: rest
    | .gt => e :: insertEntry k a rest

/-- The list without the key `k`. -/
def eraseEntry (k : κ) (es : List (κ × α)) : List (κ × α) :=
  es.filter fun e ↦ compare k e.1 != .eq

theorem mem_insertEntry {k : κ} {a : α} {es : List (κ × α)} {x : κ × α}
    (h : x ∈ insertEntry k a es) : x = (k, a) ∨ x ∈ es := by
  induction es with
  | nil => exact Or.inl (by simpa [insertEntry] using h)
  | cons e rest ih =>
    rw [insertEntry] at h
    split at h
    · simpa using h
    · rcases List.mem_cons.1 h with h | h
      · exact Or.inl h
      · exact Or.inr (List.mem_cons_of_mem _ h)
    · rcases List.mem_cons.1 h with h | h
      · exact Or.inr (h ▸ List.mem_cons_self)
      · exact (ih h).imp_right (List.mem_cons_of_mem _)

section Lawful

variable [Std.TransOrd κ]

theorem pairwise_insertEntry (k : κ) (a : α) {es : List (κ × α)}
    (h : es.Pairwise fun a b ↦ compare a.1 b.1 = .lt) :
    (insertEntry k a es).Pairwise fun a b ↦ compare a.1 b.1 = .lt := by
  induction es with
  | nil => simp [insertEntry]
  | cons e rest ih =>
    obtain ⟨he, hrest⟩ := List.pairwise_cons.1 h
    rw [insertEntry]
    split <;> rename_i hk
    · refine List.pairwise_cons.2 ⟨fun x hx ↦ ?_, h⟩
      rcases List.mem_cons.1 hx with rfl | hx
      · exact hk
      · exact Std.TransCmp.lt_trans hk (he x hx)
    · exact List.pairwise_cons.2 ⟨fun x hx ↦ Std.TransCmp.lt_of_eq_of_lt hk (he x hx), hrest⟩
    · refine List.pairwise_cons.2 ⟨fun x hx ↦ ?_, ih hrest⟩
      rcases mem_insertEntry hx with rfl | hx
      · exact Std.OrientedCmp.lt_of_gt hk
      · exact he x hx

/-- The dictionary with `a` under `k`. -/
def insert (d : Dict κ α) (k : κ) (a : α) : Dict κ α :=
  ⟨insertEntry k a d.entries, pairwise_insertEntry k a d.sorted⟩

/-- The dictionary of a list of keyed values; of two values under one key the later one counts. -/
def ofList (es : List (κ × α)) : Dict κ α :=
  es.foldl (fun d e ↦ d.insert e.1 e.2) empty

end Lawful

/-- The dictionary without the key `k`. -/
def erase (d : Dict κ α) (k : κ) : Dict κ α := ⟨eraseEntry k d.entries, d.sorted.filter _⟩

/-- The dictionary with what `slot` holds under `k`, or without `k` where the slot is empty. -/
def put [Std.TransOrd κ] (d : Dict κ α) (k : κ) (slot : Option α) : Dict κ α :=
  match slot with
  | some a => d.insert k a
  | none => d.erase k

end Dict

end CausalReplica
