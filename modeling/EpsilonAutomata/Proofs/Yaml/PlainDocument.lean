import EpsilonAutomata.Proofs.Yaml.BlockText
import EpsilonAutomata.Proofs.Yaml.DistinctKeys

/-!
# Documents without anchors and tags

From the tokens of a block mapping to its node, and from the node to its values, for documents that
use neither aliases nor properties. Both are said part by part: `Assembles` follows the open frames
over a piece of the tokens, and `Node.ReadsIff` says when a part of the document is read as a value.
-/

namespace EpsilonAutomata.Yaml

/-! ## 1. Frames over tokens -/

/-- The tokens lead from one stack of open frames to another. -/
def Assembles (s : Stack) (ts : List Token) (s' : Stack) : Prop :=
  ∀ scope, ts.foldlM Assembly.step ⟨.inside s.1 s.2, scope⟩ = some ⟨.inside s'.1 s'.2, scope⟩

/-- A frame that a token does not complete uses it up. -/
theorem feed_of_open {scope : Scope} {t : Token} {top : Frame} {below : List Frame}
    (hopen : top.completedBy t = none) : feed scope t below top = top.take scope t below := by
  cases below with
  | nil => rw [feed, hopen]; rfl
  | cons f below => rw [feed, hopen]

namespace Assembles

variable {s s' s'' : Stack} {t : Token} {ts us : List Token} {top : Frame} {below : List Frame}

theorem nil (s : Stack) : Assembles s [] s := fun _ => rfl

theorem append (h : Assembles s ts s') (h' : Assembles s' us s'') : Assembles s (ts ++ us) s'' :=
  fun scope => by
    rw [List.foldlM_append, h scope]
    exact h' scope

/-- The first token, which sets no anchor. -/
theorem of_feed (hanchor : ∀ name, t ≠ .anchor name)
    (hfeed : ∀ scope, feed scope t s.2 s.1 = some s') (h : Assembles s' ts s'') :
    Assembles s (t :: ts) s'' := fun scope => by
  have hstep : Assembly.step ⟨.inside s.1 s.2, scope⟩ t = some ⟨.inside s'.1 s'.2, scope⟩ := by
    rw [Assembly.step.eq_def]
    unfold Assembly.read
    cases t with
    | anchor name => exact absurd rfl (hanchor name)
    | _ => simp only [hfeed, Option.map_some]
  rw [List.foldlM_cons, hstep]
  exact h scope

/-- The innermost frame uses the first token up. -/
theorem take (hanchor : ∀ name, t ≠ .anchor name) (hopen : top.completedBy t = none)
    (htake : ∀ scope, top.take scope t below = some s') (h : Assembles s' ts s'') :
    Assembles (top, below) (t :: ts) s'' :=
  of_feed hanchor (fun scope => (feed_of_open hopen).trans (htake scope)) h

end Assembles

/-! ## 2. Block mappings and sequences -/

/-- A node that is a plain scalar. -/
def plainNode (s : String) : Node := .scalar .none .plain s

namespace Assembles

variable {s : Stack} {ts : List Token} {f f' : Frame} {below : List Frame}
  {entries : List (Node × Node)}

/-- A key, up to its value. -/
theorem key (name : String)
    (h : Assembles (.blockValue .none entries (plainNode name), below) ts s) :
    Assembles (.blockKeys .none entries, below) (.key :: .scalar .plain name :: .value :: ts) s :=
  .take nofun rfl (fun _ => rfl) (.take nofun rfl (fun _ => rfl) (.take nofun rfl (fun _ => rfl) h))

/-- An entry whose value is a scalar. -/
theorem entry (name : String) (style : ScalarStyle) (text : String)
    (h : Assembles
      (.blockKeys .none ((plainNode name, .scalar .none style text) :: entries), below) ts s) :
    Assembles (.blockKeys .none entries, below)
      (.key :: .scalar .plain name :: .value :: .scalar style text :: ts) s :=
  key name (.take nofun rfl (fun _ => rfl) h)

theorem take_blockEnd (scope : Scope)
    (haccept : f.accept (.mapping .none entries.reverse) = some f') :
    (Frame.blockKeys .none entries).take scope .blockEnd (f :: below) = some (f', below) := by
  show (f.accept (.mapping .none entries.reverse)).map (·, below) = some (f', below)
  rw [haccept]
  rfl

/-- The end of a mapping. -/
theorem endMapping (haccept : f.accept (.mapping .none entries.reverse) = some f')
    (h : Assembles (f', below) ts s) :
    Assembles (.blockKeys .none entries, f :: below) (.blockEnd :: ts) s :=
  .take nofun rfl (fun scope => take_blockEnd scope haccept) h

/-- A block mapping, up to its first key. -/
theorem openMapping {items : List Node} (hdepth : below.length < Frame.depthLimit)
    (h : Assembles (.blockKeys .none [], .looseItem .none items :: below) ts s) :
    Assembles (.looseItem .none items, below) (.blockMapping :: ts) s :=
  .take nofun rfl (fun _ => if_pos hdepth) h

/-- Further items of a sequence. -/
theorem looseItems {α : Type} {tokens : α → List Token} {node : α → Node}
    (hitem : ∀ x items, Assembles (.looseItem .none items, below) (tokens x)
      (.looseItems .none (node x :: items), below))
    (xs : List α) (items : List Node) :
    Assembles (.looseItems .none items, below) (xs.flatMap fun x => .blockEntry :: tokens x)
      (.looseItems .none ((xs.map node).reverse ++ items), below) := by
  induction xs generalizing items with
  | nil => exact .nil _
  | cons x xs ih =>
      have hfirst := (hitem x items).append (ih (node x :: items))
      rw [List.map_cons, List.reverse_cons, List.append_assoc]
      exact .take nofun rfl (fun _ => rfl) hfirst

/-- **The last entry of a mapping, whose value is a sequence.** The sequence is not indented, so
    what ends the mapping ends it too. -/
theorem endSequence {α : Type} {tokens : α → List Token} {node : α → Node} {name : Node}
    (hitem : ∀ x items, Assembles
      (.looseItem .none items, .blockValue .none entries name :: f :: below) (tokens x)
      (.looseItems .none (node x :: items), .blockValue .none entries name :: f :: below))
    (xs : List α) (hdepth : below.length + 1 < Frame.depthLimit)
    (haccept : f.accept (.mapping .none
      ((name, .sequence .none (xs.map node)) :: entries).reverse) = some f')
    (h : Assembles (f', below) ts s) :
    Assembles (.blockValue .none entries name, f :: below)
      (sequenceTokens tokens xs ++ .blockEnd :: ts) s := by
  cases xs with
  | nil =>
      refine .take nofun rfl (fun _ => if_pos hdepth) (.take nofun rfl (fun _ => rfl) ?_)
      exact endMapping haccept h
  | cons x xs =>
      have hitems := (hitem x []).append (looseItems hitem xs [node x])
      have hopen : Assembles (.blockValue .none entries name, f :: below)
          (sequenceTokens tokens (x :: xs))
          (.looseItems .none ((xs.map node).reverse ++ [node x]),
            .blockValue .none entries name :: f :: below) :=
        .take nofun rfl (fun _ => if_pos hdepth) hitems
      refine hopen.append (of_feed nofun (fun scope => ?_) h)
      have hsequence : ((xs.map node).reverse ++ [node x]).reverse = (x :: xs).map node := by
        simp
      show feed scope .blockEnd (f :: below) (.blockKeys .none ((name, .sequence .none
        ((xs.map node).reverse ++ [node x]).reverse) :: entries)) = _
      rw [hsequence, feed_of_open rfl]
      exact take_blockEnd scope haccept

end Assembles

/-- The document of a stream without directives and markers. -/
theorem document?_of_assembles {ts : List Token} {n : Node}
    (h : Assembles (.document false, []) (.blockMapping :: ts) (.root n, [])) :
    document? (.blockMapping :: ts) = some (some n) := by
  have hrun : (Token.blockMapping :: ts).foldlM Assembly.step Assembly.start =
      some ⟨.inside (.root n) [], ⟨Assembly.commonHandles, [], 0⟩⟩ := h _
  rw [document?, hrun]
  rfl

/-! ## 3. Values of nodes -/

/-- The node is read without following an alias, and as `v` exactly if `p`. -/
def Node.ReadsIff (n : Node) (depth : Nat) (v : Value) (p : Prop) : Prop :=
  ∀ a : Aliases, ∃ x : Option Value, a.value depth n = StateT.lift x ∧ (x = some v ↔ p)

theorem Aliases.value_sequence (a : Aliases) (depth : Nat) (ns : List Node) :
    a.value (depth + 1) (.sequence .none ns) =
      ns.mapM (a.value depth) >>= fun values => pure (.sequence values) :=
  rfl

theorem Aliases.value_mapping (a : Aliases) (depth : Nat) (entries : List (Node × Node)) :
    a.value (depth + 1) (.mapping .none entries) =
      (entries.mapM fun entry => do
        let key ← a.value depth entry.1
        let value ← a.value depth entry.2
        return (key, value)) >>= fun values =>
      if Value.distinctKeys values then pure (.mapping values) else failure :=
  rfl

/-- Readings one behind the other, none of which follows an alias. -/
theorem mapM_lift_iff {α β γ : Type} {part : α → γ} {f : γ → Reading β} {g : α → β} {p : α → Prop}
    {xs : List α} (h : ∀ x ∈ xs, ∃ y, f (part x) = StateT.lift y ∧ (y = some (g x) ↔ p x)) :
    ∃ ys, (xs.map part).mapM f = StateT.lift ys ∧ (ys = some (xs.map g) ↔ ∀ x ∈ xs, p x) := by
  induction xs with
  | nil => exact ⟨some [], rfl, by simp⟩
  | cons x xs ih =>
      obtain ⟨y, hread, hy⟩ := h x List.mem_cons_self
      obtain ⟨ys, hreads, hys⟩ := ih fun x' hx' => h x' (List.mem_cons_of_mem x hx')
      refine ⟨y.bind fun v => ys.map (v :: ·), ?_, ?_⟩
      · rw [List.map_cons, List.mapM_cons, hread, hreads]
        cases y with
        | none => rfl
        | some v => cases ys <;> rfl
      · rw [List.forall_mem_cons, ← hy, ← hys]
        cases y with
        | none => simp
        | some v => cases ys <;> simp

namespace Node.ReadsIff

variable {depth : Nat} {v : Value} {p : Prop}

/-- A scalar. -/
theorem scalar {style : ScalarStyle} {text : String} (h : untaggedValue? style text = some v ↔ p) :
    (Node.scalar .none style text).ReadsIff depth v p := fun a => by
  refine ⟨untaggedValue? style text, ?_, h⟩
  cases depth <;> rfl

/-- A sequence. -/
theorem sequence {α : Type} {node : α → Node} {value : α → Value} {p : α → Prop} {xs : List α}
    (h : ∀ x ∈ xs, (node x).ReadsIff depth (value x) (p x)) :
    (Node.sequence .none (xs.map node)).ReadsIff (depth + 1) (.sequence (xs.map value))
      (∀ x ∈ xs, p x) := fun a => by
  obtain ⟨ys, hread, hys⟩ := mapM_lift_iff fun x hx => h x hx a
  refine ⟨ys.map .sequence, ?_, ?_⟩
  · rw [Aliases.value_sequence, hread]
    cases ys <;> rfl
  · rw [← hys]
    cases ys <;> simp

end Node.ReadsIff

/-- An entry of a mapping: its name, its node, the value of that, and when it is read as it. -/
structure Field where
  name : String
  node : Node
  value : Value
  condition : Prop

namespace Field

/-- The entry as nodes. -/
def nodes (f : Field) : Node × Node := (plainNode f.name, f.node)

/-- What holds of an entry that is read as it should be. -/
structure Reads (f : Field) (depth : Nat) : Prop where
  name : plainValue? f.name = some (.string f.name)
  value : f.node.ReadsIff depth f.value f.condition

theorem distinctKeys {fs : List Field} (h : (fs.map (·.name)).Nodup) :
    Value.distinctKeys (fs.map fun f => (.string f.name, f.value)) = true := by
  refine (distinctKeys_iff_nodup ?_).mpr h
  rw [List.map_map, List.map_map]
  rfl

end Field

/-- A mapping with names as keys. -/
theorem Node.ReadsIff.mapping {depth : Nat} {fs : List Field} (h : ∀ f ∈ fs, f.Reads depth)
    (hnodup : (fs.map (·.name)).Nodup) :
    (Node.mapping .none (fs.map (·.nodes))).ReadsIff (depth + 1)
      (.mapping (fs.map fun f => (.string f.name, f.value))) (∀ f ∈ fs, f.condition) := fun a => by
  let readEntry (entry : Node × Node) : Reading (Value × Value) := do
    let key ← a.value depth entry.1
    let value ← a.value depth entry.2
    return (key, value)
  have hentry : ∀ f ∈ fs, ∃ y, readEntry f.nodes = StateT.lift y ∧
      (y = some (.string f.name, f.value) ↔ f.condition) := fun f hf => by
    have hname : untaggedValue? .plain f.name = some (.string f.name) := (h f hf).name
    have hscalar : (plainNode f.name).ReadsIff depth (.string f.name) True :=
      .scalar (iff_true_intro hname)
    obtain ⟨key, hkey, hstring⟩ := hscalar a
    obtain ⟨y, hread, hy⟩ := (h f hf).value a
    refine ⟨y.map (.string f.name, ·), ?_, ?_⟩
    · show (a.value depth (plainNode f.name) >>= fun key => a.value depth f.node >>= _) = _
      rw [hkey, hstring.mpr trivial, hread]
      cases y <;> rfl
    · rw [← hy]
      cases y <;> simp
  obtain ⟨ys, hread, hys⟩ := mapM_lift_iff hentry
  refine ⟨ys.bind fun values =>
    if Value.distinctKeys values then some (.mapping values) else none, ?_, ?_⟩
  · rw [Aliases.value_mapping, hread]
    cases ys with
    | none => rfl
    | some values =>
        show (if _ then _ else _ : Reading Value) = StateT.lift (if _ then _ else _)
        split <;> rfl
  · rw [← hys]
    constructor
    · intro hsome
      obtain ⟨values, hvalues, hite⟩ := Option.bind_eq_some_iff.mp hsome
      rw [hvalues]
      split at hite
      · simpa using hite
      · exact absurd hite (by simp)
    · intro hsome
      rw [hsome, Option.bind_some, if_pos (Field.distinctKeys hnodup)]

/-- **The root of a document.** -/
theorem Document.ofNode?_iff {fs : List Field}
    (h : ∀ f ∈ fs, f.node.ReadsIff (Frame.depthLimit - 1) f.value f.condition) :
    Document.ofNode? (some (.mapping .none (fs.map (·.nodes)))) =
      some ⟨fs.map fun f => (f.name, f.value)⟩ ↔ ∀ f ∈ fs, f.condition := by
  let a := Aliases.of (.mapping .none (fs.map (·.nodes)))
  let readEntry (entry : Node × Node) : Reading (String × Value) := do
    let key ← a.rootKey entry.1
    let value ← a.value (Frame.depthLimit - 1) entry.2
    return (key, value)
  have hentry : ∀ f ∈ fs, ∃ y, readEntry f.nodes = StateT.lift y ∧
      (y = some (f.name, f.value) ↔ f.condition) := fun f hf => by
    obtain ⟨y, hread, hy⟩ := h f hf a
    refine ⟨y.map (f.name, ·), ?_, ?_⟩
    · show (a.rootKey (plainNode f.name) >>= fun key =>
        a.value (Frame.depthLimit - 1) f.node >>= _) = _
      rw [hread]
      cases y <;> rfl
    · rw [← hy]
      cases y <;> simp
  obtain ⟨ys, hread, hys⟩ := mapM_lift_iff hentry
  have hroot : Document.ofNode? (some (.mapping .none (fs.map (·.nodes)))) =
      ys.map Document.mk := by
    show Option.map Document.mk (StateT.run' ((fs.map (·.nodes)).mapM readEntry) 0) = _
    rw [hread]
    cases ys <;> rfl
  rw [hroot, ← hys]
  cases ys <;> simp

end EpsilonAutomata.Yaml
