import EpsilonAutomata.Yaml.Character

/-!
# Tokens

The signs a YAML text is read as. Where block collections begin and end is not written but follows
from indentation; the reader of tokens makes it explicit (`blockSequence`, `blockMapping`,
`blockEnd`), and puts a `key` in front of what turns out to be the key of a mapping.
-/

namespace EpsilonAutomata.Yaml

/-- A byte of a tag, which may be written by escapes. -/
abbrev Octet := UInt8

/-- How a scalar was written; only plain scalars can be anything but strings. -/
inductive ScalarStyle where
  | plain
  | quoted
  | block
deriving DecidableEq

/-- A sign of a YAML text. -/
inductive Token where
  | version (major minor : Nat)
  | tagShorthand (handle : String) (lead : List Octet)
  | documentStart
  | documentEnd
  | blockSequence
  | blockMapping
  | blockEnd
  | flowSequence
  | flowSequenceEnd
  | flowMapping
  | flowMappingEnd
  | blockEntry
  | flowEntry
  | key
  | value
  | anchor (name : String)
  | aliasOf (name : String)
  | tag (handle : String) (suffix : List Octet)
  | scalar (style : ScalarStyle) (text : String)
  | streamEnd
deriving DecidableEq

end EpsilonAutomata.Yaml
