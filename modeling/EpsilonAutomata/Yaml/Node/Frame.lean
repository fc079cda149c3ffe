import EpsilonAutomata.Yaml.Node.Basic

/-!
# Open collections

While a document is read, the collections that are still open form a stack of frames. A frame knows
what has been read of its collection and what it expects next: a node, or a sign of its own.

Signs may be left out: the end of a block sequence that is not indented, the value of a key, a whole
node. So a frame answers two questions about a token: is it complete before it
(`Frame.completedBy`), and if not, what does it make of it (`Frame.take`).
-/

namespace EpsilonAutomata.Yaml

/-! ## 1. Frames -/

/-- A collection that is open, and what it expects. Items and entries are kept latest first. -/
inductive Frame where
  /-- The root of a document; behind `---` it may be left out. -/
  | document (mayBeAbsent : Bool)
  /-- A complete document: its end marker or the end of the stream. -/
  | root (n : Node)
  /-- The content of a node behind its properties; `block` and `indentless` say whether it may be a
      block collection or a sequence that is not indented. -/
  | properties (block indentless : Bool) (p : Properties)
  /-- A block sequence: a dash or the end. -/
  | blockItems (p : Properties) (items : List Node)
  /-- A block sequence: the item behind a dash. -/
  | blockItem (p : Properties) (items : List Node)
  /-- A block sequence that is not indented: a dash, or it is complete. -/
  | looseItems (p : Properties) (items : List Node)
  /-- A block sequence that is not indented: the item behind a dash. -/
  | looseItem (p : Properties) (items : List Node)
  /-- A block mapping: a key sign or the end. -/
  | blockKeys (p : Properties) (entries : List (Node × Node))
  /-- A block mapping: the key. -/
  | blockKey (p : Properties) (entries : List (Node × Node))
  /-- A block mapping: the colon behind a key. -/
  | blockColon (p : Properties) (entries : List (Node × Node)) (key : Node)
  /-- A block mapping: the value behind a colon. -/
  | blockValue (p : Properties) (entries : List (Node × Node)) (key : Node)
  /-- A flow sequence behind its bracket or a comma: an item or the end. -/
  | flowItem (p : Properties) (items : List Node)
  /-- A flow sequence behind an item: a comma or the end. -/
  | flowItems (p : Properties) (items : List Node)
  /-- A mapping of one entry written as an item of a flow sequence: its key. -/
  | pairKey
  /-- A mapping of one entry: the colon behind the key. -/
  | pairColon (key : Node)
  /-- A mapping of one entry: the value. -/
  | pairValue (key : Node)
  /-- A mapping of one entry, complete. -/
  | pairEnd (key value : Node)
  /-- A flow mapping behind its brace or a comma: a key sign, a key without a value, or the end. -/
  | flowKeys (p : Properties) (entries : List (Node × Node))
  /-- A flow mapping: the key behind a key sign. -/
  | flowKey (p : Properties) (entries : List (Node × Node))
  /-- A flow mapping: the colon behind a key. -/
  | flowColon (p : Properties) (entries : List (Node × Node)) (key : Node)
  /-- A flow mapping: the value behind a colon. -/
  | flowValue (p : Properties) (entries : List (Node × Node)) (key : Node)
  /-- A flow mapping behind an entry: a comma or the end. -/
  | flowEntries (p : Properties) (entries : List (Node × Node))

/-- The innermost frame and those around it. -/
abbrev Stack := Frame × List Frame

/-- What names stand for at some place of a document. -/
structure Scope where
  /-- The text each tag handle is short for. -/
  handles : List (String × List Octet)
  /-- The number of each anchor, the latest first. -/
  anchors : List (String × Nat)
  /-- How many different names anchors have had. -/
  distinct : Nat

namespace Scope

/-- A new anchor gets the number of different names before it. -/
def define (name : String) (s : Scope) : Scope :=
  { s with
    anchors := (name, s.distinct) :: s.anchors
    distinct := if (s.anchors.lookup name).isSome then s.distinct else s.distinct + 1 }

/-- The full tag. A handle must have been declared; a tag without a handle is its suffix. -/
def resolveTag (handle : String) (suffix : List Octet) (s : Scope) : Option (List Octet) :=
  if handle.isEmpty then some suffix else (s.handles.lookup handle).map (· ++ suffix)

end Scope

/-! ## 2. Tokens that stand for more than themselves -/

/-- The content of a node begins with the token. -/
def beginsContent (block indentless : Bool) : Token → Bool
  | .scalar _ _ | .flowSequence | .flowMapping => true
  | .blockSequence | .blockMapping => block
  | .blockEntry => indentless
  | _ => false

/-- The token shows that a node of a block mapping was left out. -/
def endsBlockNode : Token → Bool
  | .key | .value | .blockEnd => true
  | _ => false

/-- The token shows that the value of a flow mapping was left out. -/
def endsFlowValue : Token → Bool
  | .flowEntry | .flowMappingEnd => true
  | _ => false

/-- The token shows that the value of a pair in a flow sequence was left out. -/
def endsPairValue : Token → Bool
  | .flowEntry | .flowSequenceEnd => true
  | _ => false

/-- The token shows that the root of a document was left out. -/
def endsRoot : Token → Bool
  | .version _ _ | .tagShorthand _ _ | .documentStart | .documentEnd | .streamEnd => true
  | _ => false

namespace Frame

/-! ## 3. Complete nodes -/

/-- How many collections may be open at once. -/
def depthLimit : Nat := 128

/-- The frame after it got the node it expects. -/
def accept (n : Node) : Frame → Option Frame
  | document _ => some (root n)
  | blockItem p items => some (blockItems p (n :: items))
  | looseItem p items => some (looseItems p (n :: items))
  | blockKey p entries => some (blockColon p entries n)
  | blockValue p entries key => some (blockKeys p ((key, n) :: entries))
  | flowItem p items => some (flowItems p (n :: items))
  | pairKey => some (pairColon n)
  | pairValue key => some (pairEnd key n)
  | flowKeys p entries => some (flowEntries p ((n, .absent .none) :: entries))
  | flowKey p entries => some (flowColon p entries n)
  | flowValue p entries key => some (flowEntries p ((key, n) :: entries))
  | _ => none

/-- Gives a complete node to the innermost of the frames. -/
def close (n : Node) : List Frame → Option Stack
  | [] => none
  | f :: below => (f.accept n).map (·, below)

/-- Opens a collection inside the frames `below`. -/
def openInside (f : Frame) (below : List Frame) : Option Stack :=
  if below.length ≤ depthLimit then some (f, below) else none

/-- The token shows that the frame is complete; its node. The token is not used up. -/
def completedBy (t : Token) : Frame → Option Node
  | properties block indentless p =>
    match t, p with
    | .anchor _, ⟨none, _⟩ => none
    | .tag _ _, ⟨_, none⟩ => none
    | t, p => if beginsContent block indentless t then none else some (.absent p)
  | looseItems p items => if t = .blockEntry then none else some (.sequence p items.reverse)
  | looseItem p items =>
    if endsBlockNode t then some (.sequence p (.absent .none :: items).reverse) else none
  | pairColon key => if t = .value then none else some (.mapping .none [(key, .absent .none)])
  | pairValue key =>
    if endsPairValue t then some (.mapping .none [(key, .absent .none)]) else none
  | pairEnd key value => some (.mapping .none [(key, value)])
  | _ => none

/-! ## 4. Tokens -/

/-- The frame `f` expects a node with the properties `p`, and its content begins with the token. -/
def startContent (p : Properties) (f : Frame) (below : List Frame) : Token → Option Stack
  | .scalar style text => close (.scalar p style text) (f :: below)
  | .flowSequence => openInside (flowItem p []) (f :: below)
  | .flowMapping => openInside (flowKeys p []) (f :: below)
  | .blockSequence => openInside (blockItems p []) (f :: below)
  | .blockMapping => openInside (blockKeys p []) (f :: below)
  | .blockEntry => openInside (looseItem p []) (f :: below)
  | _ => none

/-- The frame `f` expects a node, and it begins with the token. -/
def startNode (scope : Scope) (block indentless : Bool) (f : Frame) (below : List Frame)
    (t : Token) : Option Stack :=
  match t with
  | .aliasOf name => (scope.anchors.lookup name).bind fun number =>
    close (.aliasOf number) (f :: below)
  | .anchor name => (scope.anchors.lookup name).map fun number =>
    (properties block indentless ⟨some number, none⟩, f :: below)
  | .tag handle suffix => (scope.resolveTag handle suffix).map fun tag =>
    (properties block indentless ⟨none, some tag⟩, f :: below)
  | t => if beginsContent block indentless t then startContent .none f below t else none

/-- A complete document, and the token behind it. -/
def takeEnd (n : Node) : Token → Option Stack
  | .documentEnd | .streamEnd => some (root n, [])
  | _ => none

/-- The content of a node behind its properties, or one more property. -/
def takeProperty (scope : Scope) (block indentless : Bool) (p : Properties) (f : Frame)
    (below : List Frame) : Token → Option Stack
  | .anchor name => (scope.anchors.lookup name).map fun number =>
    (properties block indentless { p with anchor := some number }, f :: below)
  | .tag handle suffix => (scope.resolveTag handle suffix).map fun tag =>
    (properties block indentless { p with tag := some tag }, f :: below)
  | t => startContent p f below t

/-- A block sequence, at a dash or its end. -/
def takeItem (p : Properties) (items : List Node) (below : List Frame) : Token → Option Stack
  | .blockEntry => some (blockItem p items, below)
  | .blockEnd => close (.sequence p items.reverse) below
  | _ => none

/-- A block mapping, at a key sign or its end. -/
def takeKey (p : Properties) (entries : List (Node × Node)) (below : List Frame) :
    Token → Option Stack
  | .key => some (blockKey p entries, below)
  | .blockEnd => close (.mapping p entries.reverse) below
  | _ => none

/-- A block mapping behind the key `key`, whose value may be left out. -/
def takeColon (p : Properties) (entries : List (Node × Node)) (key : Node) (below : List Frame) :
    Token → Option Stack
  | .value => some (blockValue p entries key, below)
  | t => takeKey p ((key, .absent .none) :: entries) below t

/-- A flow mapping, at a comma or its end. -/
def takeComma (p : Properties) (entries : List (Node × Node)) (below : List Frame) :
    Token → Option Stack
  | .flowEntry => some (flowKeys p entries, below)
  | .flowMappingEnd => close (.mapping p entries.reverse) below
  | _ => none

/-- A flow mapping behind the key `key`, whose value may be left out. -/
def takeFlowColon (p : Properties) (entries : List (Node × Node)) (key : Node)
    (below : List Frame) : Token → Option Stack
  | .value => some (flowValue p entries key, below)
  | t => takeComma p ((key, .absent .none) :: entries) below t

/-- What the frame makes of a token that does not complete it. A pair whose key is left out uses up
    the sign behind the place of the key. -/
def take (scope : Scope) (t : Token) (below : List Frame) : Frame → Option Stack
  | document mayBeAbsent =>
    if mayBeAbsent && endsRoot t then takeEnd (.absent .none) t
    else startNode scope true false (document mayBeAbsent) below t
  | root n => takeEnd n t
  | properties block indentless p =>
    match below with
    | [] => none
    | f :: below => takeProperty scope block indentless p f below t
  | blockItems p items => takeItem p items below t
  | blockItem p items =>
    if t = .blockEntry || t = .blockEnd then takeItem p (.absent .none :: items) below t
    else startNode scope true false (blockItem p items) below t
  | looseItems p items => some (looseItem p items, below)
  | looseItem p items =>
    if t = .blockEntry then some (looseItem p (.absent .none :: items), below)
    else startNode scope true false (looseItem p items) below t
  | blockKeys p entries => takeKey p entries below t
  | blockKey p entries =>
    if endsBlockNode t then takeColon p entries (.absent .none) below t
    else startNode scope true true (blockKey p entries) below t
  | blockColon p entries key => takeColon p entries key below t
  | blockValue p entries key =>
    if endsBlockNode t then takeKey p ((key, .absent .none) :: entries) below t
    else startNode scope true true (blockValue p entries key) below t
  | flowItem p items =>
    if t = .flowSequenceEnd then close (.sequence p items.reverse) below
    else if t = .key then openInside pairKey (flowItem p items :: below)
    else startNode scope false false (flowItem p items) below t
  | flowItems p items =>
    if t = .flowEntry then some (flowItem p items, below)
    else if t = .flowSequenceEnd then close (.sequence p items.reverse) below
    else none
  | pairKey =>
    if t = .value || endsPairValue t then some (pairColon (.absent .none), below)
    else startNode scope false false pairKey below t
  | pairColon key => some (pairValue key, below)
  | pairValue key => startNode scope false false (pairValue key) below t
  | pairEnd _ _ => none
  | flowKeys p entries =>
    if t = .flowMappingEnd then close (.mapping p entries.reverse) below
    else if t = .key then some (flowKey p entries, below)
    else startNode scope false false (flowKeys p entries) below t
  | flowKey p entries =>
    if t = .value || endsFlowValue t then takeFlowColon p entries (.absent .none) below t
    else startNode scope false false (flowKey p entries) below t
  | flowColon p entries key => takeFlowColon p entries key below t
  | flowValue p entries key =>
    if endsFlowValue t then takeComma p ((key, .absent .none) :: entries) below t
    else startNode scope false false (flowValue p entries key) below t
  | flowEntries p entries => takeComma p entries below t

end Frame

end EpsilonAutomata.Yaml
