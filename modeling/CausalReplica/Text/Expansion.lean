import CausalReplica.Text.Alphanumeric

/-!
# Expansion of paths

A path may name environment variables as `$NAME`, `${NAME}` or `${NAME:-default}`, and start with a
tilde for the home directory. A doubled dollar sign stands for one. A default counts only where the
variable is not set; an empty variable is set. The tilde is expanded last, and only where the path
as it was written starts with one.
-/

namespace CausalReplica.Expansion

/-- The variable that a path names and the environment lacks. -/
structure Unset where
  name : String
  deriving DecidableEq, Repr

def isNameChar (c : Char) : Bool := Text.isAlphanumeric c || c == '_'

/-- What stands before and after the first closing brace. -/
def splitBrace : List Char → Option (List Char × List Char)
  | [] => none
  | '}' :: rest => some ([], rest)
  | c :: rest => (splitBrace rest).map fun s ↦ (c :: s.1, s.2)

/-- What stands before and after the first `:-`. -/
def splitDefault : List Char → Option (List Char × List Char)
  | [] => none
  | ':' :: '-' :: rest => some ([], rest)
  | c :: rest => (splitDefault rest).map fun s ↦ (c :: s.1, s.2)

/-- The name between braces, and its default; a default needs a name before it. -/
def nameAndDefault (inside : List Char) : List Char × Option (List Char) :=
  match splitDefault inside with
  | some (name, value) => if name.isEmpty then (inside, none) else (name, some value)
  | none => (inside, none)

theorem length_splitBrace {cs inside after : List Char} (h : splitBrace cs = some (inside, after)) :
    after.length < cs.length := by
  induction cs generalizing inside with
  | nil => simp [splitBrace] at h
  | cons c rest ih =>
    by_cases hc : c = '}'
    · subst hc
      simp [splitBrace] at h
      simp [← h.2]
    · rw [splitBrace] at h
      · obtain ⟨s, hs, he⟩ := Option.map_eq_some_iff.1 h
        have := @ih s.1 (by rw [hs, ← (Prod.mk.inj he).2])
        simp only [List.length_cons]
        omega
      · exact hc

theorem length_dropWhile_le (p : Char → Bool) (cs : List Char) :
    (cs.dropWhile p).length ≤ cs.length := by
  induction cs with
  | nil => simp
  | cons c rest ih =>
    rw [List.dropWhile_cons]
    split
    · simp only [List.length_cons]; omega
    · simp

/-- What stands for a variable between braces, given its value in the environment. -/
def replacement (value : Option String) (inside : List Char) : Except Unset (List Char) :=
  let (name, fallback) := nameAndDefault inside
  match value, fallback with
  | some value, _ => .ok value.toList
  | none, some fallback => .ok fallback
  | none, none => .error ⟨String.ofList name⟩

/-- The path with its variables replaced by what `lookup` knows. -/
def substitute (lookup : String → Option String) : List Char → Except Unset (List Char)
  | [] => .ok []
  | '$' :: '{' :: rest =>
    match h : splitBrace rest with
    | some (inside, after) =>
      have := length_splitBrace h
      match replacement (lookup (String.ofList (nameAndDefault inside).1)) inside with
      | .ok value => (substitute lookup after).map (value ++ ·)
      | .error unset => .error unset
    | none => (substitute lookup rest).map ('$' :: '{' :: ·)
  | '$' :: '$' :: rest => (substitute lookup rest).map ('$' :: ·)
  | '$' :: c :: rest =>
    if isNameChar c then
      let name := String.ofList (c :: rest.takeWhile isNameChar)
      have := length_dropWhile_le isNameChar rest
      match lookup name with
      | some value => (substitute lookup (rest.dropWhile isNameChar)).map (value.toList ++ ·)
      | none => .error ⟨name⟩
    else (substitute lookup (c :: rest)).map ('$' :: ·)
  | c :: rest => (substitute lookup rest).map (c :: ·)
  termination_by cs => cs.length
  decreasing_by all_goals simp only [List.length_cons]; omega

/-- A leading tilde, alone or before a slash, replaced by the home directory. -/
def tilde (home : Option String) : List Char → List Char
  | '~' :: rest =>
    if rest.isEmpty || rest.head? == some '/' then
      match home with
      | some dir => dir.toList ++ rest
      | none => '~' :: rest
    else '~' :: rest
  | cs => cs

/-- The path with its variables and then its tilde expanded. -/
def expand (home : Option String) (lookup : String → Option String) (path : String) :
    Except Unset String := do
  let cs ← substitute lookup path.toList
  let fromVariable := cs.head? == some '~' && path.toList.head? != some '~'
  return String.ofList (if fromVariable then cs else tilde home cs)

end CausalReplica.Expansion
