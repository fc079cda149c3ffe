import EpsilonAutomata.Yaml.Node.Frame
import EpsilonAutomata.Yaml.Token.Stream

/-!
# The document of a stream

A stream holds at most one document, with directives in front of it. Its tokens are given to the
stack of open frames one at a time: frames that a token completes hand their node down, and the
first frame that is not complete uses the token up.
-/

namespace EpsilonAutomata.Yaml

/-! ## 1. One token -/

/-- Gives a token to the stack of frames. -/
def feed (scope : Scope) (t : Token) : List Frame → Frame → Option Stack
  | [], top => if (top.completedBy t).isSome then none else top.take scope t []
  | f :: below, top =>
    match top.completedBy t with
    | none => top.take scope t (f :: below)
    | some n => (f.accept n).bind (feed scope t below)

/-- Where in a stream the reader is. -/
inductive Stage where
  /-- In front of the document. -/
  | prologue (directives versioned : Bool)
  /-- Inside the document, or behind it. -/
  | inside (top : Frame) (below : List Frame)

/-- What has been read of a stream. -/
structure Assembly where
  stage : Stage
  scope : Scope

namespace Assembly

/-- The handles every document knows, unless it declares them itself. -/
def commonHandles : List (String × List Octet) :=
  [("!", octets ['!']), ("!!", octets "tag:yaml.org,2002:".toList)]

/-- In front of everything. -/
def start : Assembly := ⟨.prologue false false, ⟨[], [], 0⟩⟩

/-- The document begins; `explicit` if a marker said so. -/
def begin (explicit : Bool) (a : Assembly) : Assembly :=
  ⟨.inside (.document explicit) [], { a.scope with handles := a.scope.handles ++ commonHandles }⟩

/-- Gives a token to the document. -/
def read (t : Token) (a : Assembly) : Option Assembly :=
  match a.stage with
  | .prologue _ _ => none
  | .inside top below =>
    let scope := match t with
      | .anchor name => a.scope.define name
      | _ => a.scope
    (feed scope t below top).map fun (top, below) => ⟨.inside top below, scope⟩

/-- Gives a token to the stream. Only versions 1.1 and 1.2 are read, and no directive may be
    repeated; directives need a document with a marker behind them. -/
def step (a : Assembly) (t : Token) : Option Assembly :=
  match a.stage, t with
  | .prologue _ versioned, .version major minor =>
    if versioned || major ≠ 1 || (minor ≠ 1 && minor ≠ 2) then none
    else some { a with stage := .prologue true true }
  | .prologue _ versioned, .tagShorthand handle lead =>
    if (a.scope.handles.lookup handle).isSome then none
    else some ⟨.prologue true versioned,
      { a.scope with handles := (handle, lead) :: a.scope.handles }⟩
  | .prologue _ _, .documentStart => some (a.begin true)
  | .prologue directives _, .streamEnd => if directives then none else some a
  | .prologue directives _, t => if directives then none else (a.begin false).read t
  | .inside _ _, t => a.read t

/-- The root of the document, or `none` inside if the stream has no document. -/
def finish (a : Assembly) : Option (Option Node) :=
  match a.stage with
  | .prologue _ _ => some none
  | .inside (.root n) [] => some (some n)
  | .inside _ _ => none

end Assembly

/-! ## 2. All tokens -/

/-- The document that the tokens of a stream hold, if there is one. -/
def document? (ts : List Token) : Option (Option Node) :=
  (ts.foldlM Assembly.step Assembly.start).bind Assembly.finish

end EpsilonAutomata.Yaml
