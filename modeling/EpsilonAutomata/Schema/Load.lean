import EpsilonAutomata.Schema.Basic
import EpsilonAutomata.Yaml.Value.Document

/-!
# Loading a schema

A node of a schema is the string `empty`, or a mapping with one entry whose key is the kind of the
node: `symbol` with a string of one character, `iterate` with a node, `union` and `concat` with a
sequence of at least two nodes, which lean to the left. Nodes are checked from the outside in and
from left to right, and the first fault is the answer.
-/

namespace EpsilonAutomata.Schema

open Yaml (Value Document)

/-- The symbol of a text, which must be one character. -/
def symbolOf (text : String) : Except LoadError Regex :=
  match text.toList with
  | [c] => .ok (.symbol c)
  | _ => .error (.invalidSymbol text)

mutual

/-- The expression of a node. -/
def loadNode : Value → Except LoadError Regex
  | .string kind =>
    if kind = "empty" then .ok .epsilon else .error (.unsupportedExpression kind)
  | .mapping entries => loadEntries entries
  | _ => .error (.invalidSchema .notNode)

/-- The expression of a mapping with these entries. -/
def loadEntries : List (Value × Value) → Except LoadError Regex
  | [entry] => loadEntry entry
  | _ => .error (.invalidSchema .notOneKind)

/-- The expression of an operand under its kind. -/
def loadEntry : Value × Value → Except LoadError Regex
  | (.string kind, operand) =>
    if kind = "symbol" then
      match operand with
      | .string text => symbolOf text
      | _ => .error (.invalidSchema .symbolNotString)
    else if kind = "iterate" then (loadNode operand).map .star
    else if kind = "union" then loadOperands .union operand
    else if kind = "concat" then loadOperands .concat operand
    else .error (.unsupportedExpression kind)
  | _ => .error (.invalidSchema .kindNotString)

/-- The operands of a sequence, joined from the left. -/
def loadOperands (join : Regex → Regex → Regex) : Value → Except LoadError Regex
  | .sequence items => loadItems join items
  | _ => .error (.invalidSchema .operandsNotSequence)

/-- At least two operands, joined from the left. -/
def loadItems (join : Regex → Regex → Regex) : List Value → Except LoadError Regex
  | first :: second :: rest => (loadNode first).bind fun e => loadMore join e (second :: rest)
  | _ => .error (.invalidSchema .tooFewOperands)

/-- Joins further operands to `joined`. -/
def loadMore (join : Regex → Regex → Regex) (joined : Regex) : List Value → Except LoadError Regex
  | [] => .ok joined
  | next :: rest => (loadNode next).bind fun e => loadMore join (join joined e) rest

end

/-- A named expression. The name is checked before its node. -/
def loadNamed : Value × Value → Except LoadError (String × Regex)
  | (.string name, node) => (loadNode node).map fun e => (name, e)
  | _ => .error (.invalidSchema .nameNotString)

/-- **The schema of a document.** -/
def ofDocument (d : Document) : Except LoadError Schema :=
  match d.get? expressionsKey with
  | none => .error (.missingKey expressionsKey)
  | some (.mapping entries) => (entries.mapM loadNamed).map Schema.mk
  | some _ => .error (.invalidSchema .notMapping)

/-- The schema of a YAML text. -/
def parse (text : String) : Except LoadError Schema :=
  match Document.read? text with
  | none => .error .notYaml
  | some d => ofDocument d

/-- The schema of a file, given what reading the file brought. -/
def ofFile (contents : Except FileFault ByteArray) : Except LoadError Schema :=
  match contents with
  | .error fault => .error (.file fault)
  | .ok bytes =>
    match String.fromUTF8? bytes with
    | none => .error (.file .notText)
    | some text => parse text

end EpsilonAutomata.Schema
