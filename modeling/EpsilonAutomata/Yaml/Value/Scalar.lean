import EpsilonAutomata.Yaml.Node.Basic
import EpsilonAutomata.Yaml.Value.Basic

/-!
# The value of a scalar

A plain scalar is a null, a truth value or a number if its text spells one, and a string otherwise;
any other scalar is a string. A tag can change this: a tag of the document's own makes a tagged
value, and the tags of the common schema ask for one type.
-/

namespace EpsilonAutomata.Yaml

/-! ## 1. Plain scalars -/

/-- The text spells the null. -/
def isNullText (s : String) : Bool := s = "~" || s = "null" || s = "Null" || s = "NULL"

/-- The truth value a text spells. -/
def boolText? (s : String) : Option Bool :=
  if s = "true" || s = "True" || s = "TRUE" then some true
  else if s = "false" || s = "False" || s = "FALSE" then some false
  else none

/-- An integer as a value. Integers of 64 bits are numbers; those that need 65 to 128 bits are
    refused; larger ones are no integers. -/
inductive IntegerRange where
  | number (n : Int)
  | refused
  | beyond

/-- Where an integer belongs. -/
def IntegerRange.of (n : Int) : IntegerRange :=
  if -0x8000000000000000 ≤ n && n ≤ 0xffffffffffffffff then .number n
  else if -0x80000000000000000000000000000000 ≤ n && n ≤ 0xffffffffffffffffffffffffffffffff then
    .refused
  else .beyond

/-- The integer range of a text; `beyond` if it spells no integer. -/
def integerRange (text : List Char) : IntegerRange :=
  match integer? text with
  | some n => .of n
  | none => .beyond

/-- The value of a plain scalar. -/
def plainValue? (s : String) : Option Value :=
  if s.isEmpty || isNullText s then some .null
  else match boolText? s with
    | some b => some (.bool b)
    | none =>
      match integerRange s.toList with
      | .number n => some (.number (.integer n))
      | .refused => none
      | .beyond =>
        if hasNeedlessZero s.toList then some (.string s)
        else match double? s.toList with
          | some d => some (.number (.double d))
          | none => some (.string s)

/-- The value of a scalar without a tag. -/
def untaggedValue? (style : ScalarStyle) (s : String) : Option Value :=
  if style = .plain then plainValue? s else some (.string s)

/-! ## 2. Tags -/

/-- Takes a leading `!` away, unless there is nothing behind it. -/
def dropBang (tag : List Octet) : List Octet :=
  match tag with
  | b :: rest => if b = '!'.toUInt8 && !rest.isEmpty then rest else tag
  | [] => []

/-- The name of a tag of the document's own: it begins with `!` and is a text. Names that differ by
    a further `!` in front are one. -/
def ownTag? (tag : List Octet) : Option String :=
  if tag.head? = some '!'.toUInt8 then
    String.fromUTF8? ⟨(dropBang (dropBang tag)).toArray⟩
  else none

/-- A tag of the common schema. -/
def commonTag (name : String) : List Octet := ("tag:yaml.org,2002:" ++ name).toUTF8.toList

/-- The value of a scalar with a tag that is not the document's own. -/
def commonValue? (tag : List Octet) (style : ScalarStyle) (s : String) : Option Value :=
  if tag = commonTag "bool" then (boolText? s).map .bool
  else if tag = commonTag "int" then
    match integerRange s.toList with
    | .number n => some (.number (.integer n))
    | _ => none
  else if tag = commonTag "float" then (double? s.toList).map fun d => .number (.double d)
  else if tag = commonTag "null" then if isNullText s then some .null else none
  else if tag.head? = some '!'.toUInt8 then untaggedValue? style s
  else some (.string s)

/-- The value of a scalar. -/
def scalarValue? (tag : Option (List Octet)) (style : ScalarStyle) (s : String) : Option Value :=
  match tag with
  | none => untaggedValue? style s
  | some tag =>
    match ownTag? tag with
    | some name => (untaggedValue? style s).map (.tagged name)
    | none => commonValue? tag style s

/-- The value of a collection: only a tag of the document's own changes it. -/
def collectionValue (tag : Option (List Octet)) (v : Value) : Value :=
  match tag.bind ownTag? with
  | some name => .tagged name v
  | none => v

end EpsilonAutomata.Yaml
