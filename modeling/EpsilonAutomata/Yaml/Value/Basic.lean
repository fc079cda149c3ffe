import EpsilonAutomata.Yaml.Value.Number

/-!
# Values

What a YAML document says, free of spelling: strings, numbers, sequences and mappings in the order
they were written, and values that carry a tag of the document's own.
-/

namespace EpsilonAutomata.Yaml

/-- A number. -/
inductive Number where
  | integer (n : Int)
  | double (d : Double)
deriving DecidableEq

/-- A YAML value. -/
inductive Value where
  | null
  | bool (b : Bool)
  | number (n : Number)
  | string (s : String)
  | sequence (items : List Value)
  | mapping (entries : List (Value × Value))
  | tagged (tag : String) (content : Value)

namespace Value

/-! ## Equality

Two mappings are the same if they have the same entries in any order. The keys of each are taken to
be different from one another. -/

mutual

/-- The values are the same. -/
def same : Value → Value → Bool
  | null, null => true
  | bool a, bool b => a = b
  | number a, number b => a = b
  | string a, string b => a = b
  | sequence as, sequence bs => sameItems as bs
  | mapping as, mapping bs => as.length = bs.length && sameEntries as bs
  | tagged t a, tagged u b => t = u && same a b
  | _, _ => false

/-- The items are the same, one by one. -/
def sameItems : List Value → List Value → Bool
  | [], [] => true
  | a :: as, b :: bs => same a b && sameItems as bs
  | _, _ => false

/-- Every entry of the first list is in the second. -/
def sameEntries : List (Value × Value) → List (Value × Value) → Bool
  | [], _ => true
  | (k, v) :: as, bs => bs.any (fun (l, w) => same k l && same v w) && sameEntries as bs

end

/-- No key of the entries occurs twice. -/
def distinctKeys : List (Value × Value) → Bool
  | [] => true
  | (k, _) :: rest => rest.all (fun (l, _) => !same k l) && distinctKeys rest

end Value

end EpsilonAutomata.Yaml
