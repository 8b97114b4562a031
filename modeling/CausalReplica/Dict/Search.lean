import CausalReplica.Dict.Basic

/-!
# Searching by bisection

A list whose keys increase need not be walked through to find a key: halving the range of positions
where the key can stand leads to its position, or to the position at which it would have to be
inserted. The walk of `lookup` finds the same value after as many comparisons as there are smaller
keys.
-/

namespace CausalReplica.Dict

variable {κ α : Type}

/-- Where a search in a list of `n` keyed values has ended. -/
inductive Place (n : Nat) where
  /-- The key stands at this position. -/
  | found (position : Fin n)
  /-- The key is missing and would have to be inserted at this position. -/
  | missing (position : Fin (n + 1))
  deriving DecidableEq, Repr

/-- The middle of a range of positions is one at which an entry stands. -/
theorem middle_lt {es : List (κ × α)} {low : Nat} {high : Fin (es.length + 1)} (h : low < high) :
    low + (high - low) / 2 < es.length := by
  have hhigh : high.val ≤ es.length := Nat.le_of_lt_succ high.isLt
  omega

variable [Ord κ]

/-- The search for `k` among the positions from `low` up to and without `high`. -/
def bisect (k : κ) (es : List (κ × α)) (low : Nat) (high : Fin (es.length + 1)) :
    Place es.length :=
  if h : low < high then
    let middle : Fin es.length := ⟨low + (high - low) / 2, middle_lt h⟩
    match compare (es.get middle).1 k with
    | .lt => bisect k es (middle + 1) high
    | .eq => .found middle
    | .gt => bisect k es low middle.castSucc
  else
    .missing high
termination_by high.val - low

/-- The search for `k` in a whole list. -/
def search (k : κ) (es : List (κ × α)) : Place es.length := bisect k es 0 (Fin.last es.length)

/-- The value that the search for `k` finds. -/
def searched? (k : κ) (es : List (κ × α)) : Option α :=
  match search k es with
  | .found i => some (es.get i).2
  | .missing _ => none

end CausalReplica.Dict
