import CausalReplica.Hash.Word
import CausalReplica.Text.Hex

/-!
# Nodes

A node is named by 128 bits, ordered as a number. Its text has thirty-two lower-case hexadecimal
digits in groups of 8, 4, 4, 4 and 12 with hyphens between them; reading also takes the digits
without hyphens, the grouped form in braces or behind `urn:uuid:`, and letters of either case.
-/

namespace CausalReplica

/-- The identifier of a replicating node. -/
structure NodeId where
  bits : BitVec 128
  deriving DecidableEq

namespace NodeId

/-- The identifier as a number below `2 ^ 128`. -/
def toNat (n : NodeId) : Nat := n.bits.toNat

theorem toNat_inj {a b : NodeId} : a.toNat = b.toNat ↔ a = b := by
  refine ⟨fun h ↦ ?_, congrArg toNat⟩
  cases a
  cases b
  exact congrArg NodeId.mk (BitVec.eq_of_toNat_eq h)

instance : Ord NodeId := ⟨compareOn toNat⟩

instance : Std.TransOrd NodeId := inferInstanceAs (Std.TransCmp (compareOn toNat))

instance : Std.LawfulEqOrd NodeId where
  compare_self {a} := Nat.compare_eq_eq.2 (Eq.refl a.toNat)
  eq_of_compare h := toNat_inj.1 (Nat.compare_eq_eq.1 h)

/-- The node whose bits are all zero. -/
def zero : NodeId := ⟨0⟩

/-- The node of sixteen bytes, most significant first. -/
def ofBytes (bytes : Bytes) : NodeId :=
  ⟨BitVec.ofNat 128 (Bytes.toNatLE bytes.reverse)⟩

/-- The node whose sixteen bytes all are `b`. -/
def ofByte (b : UInt8) : NodeId := ofBytes (List.replicate 16 b)

/-- The sixteen bytes, most significant first. -/
def bytes (n : NodeId) : Bytes := (Bytes.ofNatLE 16 n.toNat).reverse

/-! ## Text -/

/-- The digits in groups with hyphens between them. -/
def grouped (digits : List Char) : List Char :=
  digits.take 8 ++ '-' :: (digits.drop 8).take 4 ++ '-' :: (digits.drop 12).take 4 ++
    '-' :: (digits.drop 16).take 4 ++ '-' :: digits.drop 20

def text (n : NodeId) : String := String.ofList (grouped (Hex.encode n.bytes))

instance : ToString NodeId := ⟨text⟩

/-- The node of thirty-two digits. -/
def ofDigits (digits : List Char) : Option NodeId :=
  if digits.length = 32 then (Hex.number? digits).map fun n ↦ ⟨BitVec.ofNat 128 n⟩ else none

/-- The digits of a hyphenated text of thirty-six characters. -/
def ungrouped (cs : List Char) : Option (List Char) :=
  let digits := cs.filter (· != '-')
  if grouped digits = cs then some digits else none

/-- The node that a text in one of the four forms names. -/
def parse? (s : String) : Option NodeId :=
  let cs := s.toList
  match cs.length with
  | 32 => ofDigits cs
  | 36 => (ungrouped cs).bind ofDigits
  | 38 =>
    if cs.head? == some '\x7b' && cs.getLast? == some '\x7d' then
      (ungrouped (cs.drop 1).dropLast).bind ofDigits
    else none
  | 45 =>
    if (cs.take 9).map Char.toLower == "urn:uuid:".toList then
      (ungrouped (cs.drop 9)).bind ofDigits
    else none
  | _ => none

end NodeId

end CausalReplica
