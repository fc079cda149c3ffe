import EpsilonAutomata.Session.Basic

/-!
# Running a session

Each step maps the state of the session to the next one and a reply. Replies to edits are the height
of the stack.
-/

namespace EpsilonAutomata

/-- The stack of expressions, the top first, and the automaton compiled last. -/
structure Session where
  stack : List Regex
  automaton : Option Automaton

namespace Session

/-- Nothing on the stack, and nothing compiled. -/
def start : Session := ⟨[], none⟩

/-! ## 1. Edits -/

/-- The stack after an edit. -/
def Edit.apply (stack : List Regex) : Edit → Except Failure (List Regex)
  | .symbol text =>
    match Schema.symbolOf text with
    | .ok e => .ok (e :: stack)
    | .error e => .error (.load e)
  | .empty => .ok (.epsilon :: stack)
  | .iterate =>
    match stack with
    | e :: rest => .ok (.star e :: rest)
    | _ => .error .underflow
  | .union =>
    match stack with
    | r :: l :: rest => .ok (.union l r :: rest)
    | _ => .error .underflow
  | .concat =>
    match stack with
    | r :: l :: rest => .ok (.concat l r :: rest)
    | _ => .error .underflow
  | .duplicate =>
    match stack with
    | e :: rest => .ok (e :: e :: rest)
    | _ => .error .underflow
  | .swap =>
    match stack with
    | a :: b :: rest => .ok (b :: a :: rest)
    | _ => .error .underflow
  | .drop =>
    match stack with
    | _ :: rest => .ok rest
    | _ => .error .underflow
  | .pick depth =>
    match stack[depth]? with
    | some e => .ok (e :: stack)
    | none => .error .underflow
  | .split =>
    match stack with
    | e :: rest =>
      if e.operands.isEmpty then .ok (e :: rest) else .ok (e.operands.reverse ++ rest)
    | _ => .error .underflow
  | .load text =>
    match Schema.parse text with
    | .ok s => .ok ((s.entries.map (·.2)).reverse ++ stack)
    | .error e => .error (.load e)

/-! ## 2. Questions -/

/-- The answer to a question about an expression. -/
def TreeQuestion.answer (e : Regex) : TreeQuestion → Reply
  | .kind => .kind e.kind
  | .nodeCount => .count e.nodeCount
  | .pattern => .text e.patternText
  | .term => .text e.termText
  | .builder => .text ("Builder \x7b expression: " ++ e.termText ++ " \x7d")

/-- The answer to a question about an automaton. -/
def GraphQuestion.answer (a : Automaton) : GraphQuestion → Reply
  | .transitions => .transitions a.transitions
  | .originKinds => .kinds a.originKinds
  | .origin s =>
    match a.origin? s with
    | some e => .text e.patternText
    | none => .noText
  | .alphabet => .characters a.alphabet
  | .state s => .state s ((a.origin? s).map (·.kind)) (a.outgoing s)
  | .closure states => .states (a.closure states)
  | .dump => .text a.dump
  | .listing => .text a.listing
  | .accepts word => .verdict (a.accepts word.toList)

/-- Which expressions of a list are equal, row by row. -/
def equalities (es : List Regex) : List (List Bool) :=
  es.map fun e => es.map fun f => e = f

/-! ## 3. Steps -/

/-- The session after an edit. -/
def edit (e : Edit) (s : Session) : Session × Reply :=
  match e.apply s.stack with
  | .ok stack => ({ s with stack }, .height stack.length)
  | .error f => (s, .failure f)

/-- The answer to a question about the top of the stack. -/
def askTree (q : TreeQuestion) (s : Session) : Reply :=
  match s.stack with
  | e :: _ => q.answer e
  | [] => .failure .underflow

/-- The answer to a question about the automaton. -/
def askGraph (q : GraphQuestion) (s : Session) : Reply :=
  match s.automaton with
  | some a => q.answer a
  | none => .failure .noAutomaton

/-- Compiles the top of the stack. -/
def compileTop (s : Session) : Session × Reply :=
  match s.stack with
  | e :: _ => let a := e.compile; ({ s with automaton := some a }, .compiled a)
  | [] => (s, .failure .underflow)

mutual

/-- The session after a step, and its reply. A repetition answers what its last step answered. -/
def run : Command → Session → Session × Reply
  | .edit e, s => s.edit e
  | .tree q, s => (s, s.askTree q)
  | .graph q, s => (s, s.askGraph q)
  | .compile, s => s.compileTop
  | .compare, s => (s, .equalities (equalities s.stack.reverse))
  | .times count steps, s =>
    match Nat.repeat (runLast steps) count (s, none) with
    | (s, some reply) => (s, reply)
    | (s, none) => (s, .height s.stack.length)

/-- The session after some steps, and the reply of the last of them. -/
def runLast : List Command → Session × Option Reply → Session × Option Reply
  | [], last => last
  | c :: rest, (s, _) =>
    let (s, reply) := run c s
    runLast rest (s, some reply)

end

/-- The replies to some steps, one by one. -/
def replies : List Command → Session → List Reply
  | [], _ => []
  | c :: rest, s =>
    let (s, reply) := run c s
    reply :: replies rest s

end Session

end EpsilonAutomata
