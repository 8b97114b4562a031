/-!
# TOML values

The values of a TOML document. Numbers with a fraction are only recognized: they are kept as they
were written. Times are kept in one spelling.
-/

namespace CausalReplica

inductive Toml where
  | text (s : String)
  | int (n : Int)
  | bool (b : Bool)
  | float (written : String)
  | time (text : String)
  | list (items : List Toml)
  | table (fields : List (String × Toml))

namespace Toml

instance : Inhabited Toml := ⟨.table []⟩

/-- The key under which a time has its text where a table is expected. -/
def timeKey : String := "$__toml_private_datetime"

/-- The fields of a table; a time counts as a table with its text in it. -/
def fields? : Toml → Option (List (String × Toml))
  | .table fields => some fields
  | .time t => some [(timeKey, .text t)]
  | _ => none

def lookup (key : String) (fields : List (String × Toml)) : Option Toml :=
  (fields.find? (·.1 = key)).map (·.2)

/-- A character of a key that needs no quotes. -/
def isBareChar (c : Char) : Bool := c.isAlphanum || c == '_' || c == '-'

end Toml

end CausalReplica
