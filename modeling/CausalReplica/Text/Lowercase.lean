import CausalReplica.Text.LowercaseTable

/-!
# Lower case

The full lower-case mapping of a text: every character by itself, but for a capital sigma, which
becomes the final form where it ends a word.
-/

namespace CausalReplica.Text

/-- The lower-case form of one character outside any word; the dotted capital I has two characters.
-/
def lowercaseChar (c : Char) : List Char :=
  if c.toNat < 128 then
    [c.toLower]
  else if c = 'İ' then
    ['i', '\u0307']
  else
    match lowercaseRuns.find? fun r ↦
      r.1 ≤ c.toNat && c.toNat ≤ r.2.1 && (c.toNat - r.1) % r.2.2.1 == 0 with
    | some r => [Char.ofNat (c.toNat + r.2.2.2).toNat]
    | none => [c]

/-- After characters that case mappings pass over comes a cased one. -/
def startsCased (cs : List Char) : Bool :=
  match cs.dropWhile caseIgnorableRanges.has with
  | c :: _ => casedRanges.has c
  | [] => false

/-- The lower-case form of the characters `cs` that follow `before`, which is given last first. -/
def lowercaseFrom (before : List Char) : List Char → List Char
  | [] => []
  | c :: cs =>
    (if c = 'Σ' then [if startsCased before && !startsCased cs then 'ς' else 'σ']
      else lowercaseChar c) ++ lowercaseFrom (c :: before) cs

def lowercase (s : String) : String := String.ofList (lowercaseFrom [] s.toList)

end CausalReplica.Text
