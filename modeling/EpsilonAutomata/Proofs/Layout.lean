import EpsilonAutomata.Automaton.Construction

/-!
# The layout of a compiled expression

The construction works through a list of tasks and changes states it made before. This file says in
one equation what it leaves behind: the states of an expression form a *block* of consecutive
states, the block of an operand is part of the block of its node, and the exit of a block is its
last state. The only thing a block does not settle by itself is where its exit leads; that is the
argument `next` of `Regex.block`.

* `run_visit` -- performing `visit e` appends the block of `e` and pushes its fragment;
* `compile_eq` -- a compiled expression is its block from state zero on, with nothing behind its
  exit.
-/

namespace EpsilonAutomata

/-! ## 1. Blocks -/

namespace Regex

/-- The place of the exit in the block of an expression. The exit is the last state of the block, so
    a block has `exitOffset + 1` states. -/
def exitOffset : Regex → Nat
  | epsilon => 1
  | symbol _ => 1
  | union l r => l.exitOffset + r.exitOffset + 3
  | concat l r => l.exitOffset + r.exitOffset + 1
  | star b => b.exitOffset + 2

/-- The place of the entry in the block of an expression. -/
def entryOffset : Regex → Nat
  | epsilon => 0
  | symbol _ => 0
  | union l r => l.exitOffset + r.exitOffset + 2
  | concat l _ => l.entryOffset
  | star b => b.exitOffset + 1

/-- The entry comes before the exit. -/
theorem entryOffset_lt_exitOffset (e : Regex) : e.entryOffset < e.exitOffset := by
  induction e with
  | epsilon => exact Nat.zero_lt_one
  | symbol c => exact Nat.zero_lt_one
  | union l r _ _ => exact Nat.lt_succ_self _
  | concat l r ihl _ =>
      show l.entryOffset < l.exitOffset + r.exitOffset + 1
      omega
  | star b _ => exact Nat.lt_succ_self _

end Regex

/-- A state with silent transitions only. -/
def silentNode (origin : Regex) (s : State) (targets : List State) : Node :=
  ⟨origin, targets.map (⟨s, none, ·⟩)⟩

/-- The two states a union or an iteration has of its own, its entry and its exit. -/
def ownStates (origin : Regex) (entry : State) (targets next : List State) : List Node :=
  [silentNode origin entry targets, silentNode origin (entry + 1) next]

/-- **The states of an expression, laid out from state `k` on.** Its exit leads silently to the
    states `next`. -/
def Regex.block : Regex → State → List State → List Node
  | .epsilon, k, next => ownStates .epsilon k [k + 1] next
  | .symbol c, k, next =>
    [⟨.symbol c, [⟨k, some c, k + 1⟩]⟩, silentNode (.symbol c) (k + 1) next]
  | .union l r, k, next =>
    let m := k + l.exitOffset + 1
    let entry := m + r.exitOffset + 1
    l.block k [entry + 1] ++ (r.block m [entry + 1] ++
      ownStates (.union l r) entry [k + l.entryOffset, m + r.entryOffset] next)
  | .concat l r, k, next =>
    let m := k + l.exitOffset + 1
    l.block k [m + r.entryOffset] ++ r.block m next
  | .star b, k, next =>
    let entry := k + b.exitOffset + 1
    b.block k [entry, entry + 1] ++ ownStates (.star b) entry [k + b.entryOffset, entry + 1] next

namespace Regex

@[simp] theorem length_ownStates (e : Regex) (s : State) (targets next : List State) :
    (ownStates e s targets next).length = 2 := rfl

/-- A block has as many states as its exit offset says. -/
@[simp] theorem length_block (e : Regex) (k : State) (next : List State) :
    (e.block k next).length = e.exitOffset + 1 := by
  induction e generalizing k next with
  | epsilon => rfl
  | symbol c => rfl
  | union l r ihl ihr =>
      simp only [block, List.length_append, ihl, ihr, length_ownStates, exitOffset]
      omega
  | concat l r ihl ihr =>
      simp only [block, List.length_append, ihl, ihr, exitOffset]
      omega
  | star b ih =>
      simp only [block, List.length_append, ih, length_ownStates, exitOffset]

/-- The states of a block before its exit, and the origin of the exit, do not depend on where the
    exit leads. -/
theorem block_split (e : Regex) (k : State) : ∃ body origin, body.length = e.exitOffset ∧
    ∀ next, e.block k next = body ++ [silentNode origin (k + e.exitOffset) next] := by
  induction e generalizing k with
  | epsilon => exact ⟨[silentNode .epsilon k [k + 1]], .epsilon, rfl, fun _ => rfl⟩
  | symbol c => exact ⟨[⟨.symbol c, [⟨k, some c, k + 1⟩]⟩], .symbol c, rfl, fun _ => rfl⟩
  | union l r _ _ =>
      let m := k + l.exitOffset + 1
      let entry := m + r.exitOffset + 1
      refine ⟨l.block k [entry + 1] ++ (r.block m [entry + 1] ++
        [silentNode (.union l r) entry [k + l.entryOffset, m + r.entryOffset]]),
        .union l r, ?_, fun next => ?_⟩
      · simp only [List.length_append, length_block, List.length_cons, List.length_nil, exitOffset]
        lia
      · have hexit : k + (l.union r).exitOffset = entry + 1 := by
          simp only [exitOffset]
          lia
        rw [hexit, List.append_assoc, List.append_assoc]
        rfl
  | concat l r _ ihr =>
      obtain ⟨body, origin, hlen, heq⟩ := ihr (k + l.exitOffset + 1)
      refine ⟨l.block k [k + l.exitOffset + 1 + r.entryOffset] ++ body, origin, ?_, fun next => ?_⟩
      · simp only [List.length_append, length_block, hlen, exitOffset]
        lia
      · have hexit : k + (l.concat r).exitOffset = k + l.exitOffset + 1 + r.exitOffset := by
          simp only [exitOffset]
          lia
        rw [hexit, List.append_assoc, ← heq next]
        rfl
  | star b _ =>
      let entry := k + b.exitOffset + 1
      refine ⟨b.block k [entry, entry + 1] ++
        [silentNode (.star b) entry [k + b.entryOffset, entry + 1]], .star b, ?_, fun next => ?_⟩
      · simp only [List.length_append, length_block, List.length_cons, List.length_nil, exitOffset]
      · rw [List.append_assoc]
        rfl

end Regex

/-! ## 2. Adding transitions -/

namespace Construction

/-- A transition is added to the state at its source and to no other. -/
theorem connect_node {s t : State} {label : Option Char} (pre post : List Node) (origin : Regex)
    (ts : List Transition) (hs : pre.length = s)
    (ht : t < (pre ++ ⟨origin, ts⟩ :: post).length) :
    connect s label t (pre ++ ⟨origin, ts⟩ :: post).toArray =
      some (pre ++ ⟨origin, ts ++ [⟨s, label, t⟩]⟩ :: post).toArray := by
  subst hs
  have hs : pre.length < (pre ++ (⟨origin, ts⟩ : Node) :: post).length := by simp
  unfold connect
  rw [if_pos ⟨hs, ht⟩, List.modify_toArray, List.modify_eq_take_cons_drop hs]
  simp

/-- A silent transition from the exit of a block is one more state its exit leads to. -/
theorem connect_exit {k t : State} (pre post : List Node) (e : Regex) (next : List State)
    (hk : pre.length = k) (ht : t < (pre ++ (e.block k next ++ post)).length) :
    connect (k + e.exitOffset) none t (pre ++ (e.block k next ++ post)).toArray =
      some (pre ++ (e.block k (next ++ [t]) ++ post)).toArray := by
  obtain ⟨body, origin, hlen, hsplit⟩ := e.block_split k
  rw [hsplit] at ht
  have hs : (pre ++ body).length = k + e.exitOffset := by rw [List.length_append, hk, hlen]
  have : connect (k + e.exitOffset) none t _ = _ :=
    connect_node (pre ++ body) post origin (next.map (⟨k + e.exitOffset, none, ·⟩)) hs
      (by simpa [silentNode] using ht)
  simpa [hsplit, silentNode] using this

/-- A silent transition from the entry of a node that is being joined. -/
theorem connect_entry {s t : State} (pre : List Node) (e : Regex) (targets next : List State)
    (hs : pre.length = s) (ht : t < s + 2) :
    connect s none t (pre ++ ownStates e s targets next).toArray =
      some (pre ++ ownStates e s (targets ++ [t]) next).toArray := by
  have hlen : t < (pre ++ ownStates e s targets next).length := by
    rw [List.length_append, Regex.length_ownStates, hs]
    exact ht
  have : connect s none t _ = _ :=
    connect_node pre [silentNode e (s + 1) next] e (targets.map (⟨s, none, ·⟩)) hs hlen
  simpa [ownStates, silentNode] using this

/-! ## 3. Performing a task -/

/-- A construction with these states, and these fragments not yet joined. -/
def holding (nodes : List Node) (fragments : List Fragment) : Construction :=
  ⟨nodes.toArray, fragments⟩

/-- The fragment of a block. -/
def blockFragment (e : Regex) (k : State) : Fragment :=
  ⟨k + e.entryOffset, k + e.exitOffset⟩

theorem allocate_toArray (e : Regex) (ns : List Node) :
    allocate e ns.toArray = (ns ++ ownStates e ns.length [] []).toArray := by
  simp [allocate, ownStates, silentNode]

theorem leaf_holding {ns : List Node} {fs : List Fragment} {e : Regex} (label : Option Char) :
    (holding ns fs).leaf e label =
      some (holding (ns ++ [⟨e, [⟨ns.length, label, ns.length + 1⟩]⟩,
        silentNode e (ns.length + 1) []]) (⟨ns.length, ns.length + 1⟩ :: fs)) := by
  have h : connect ns.length label (ns.length + 1) _ = _ :=
    connect_node ns [silentNode e (ns.length + 1) []] e [] rfl (by simp)
  unfold leaf holding
  rw [allocate_toArray]
  simpa [ownStates, silentNode] using h

section Join

variable {ns : List Node} {fs : List Fragment} {k m entry : State}

/-- Joining two blocks for a concatenation. -/
theorem combine_concat (l r : Regex) (hk : ns.length = k) (hm : k + l.exitOffset + 1 = m) :
    combine (.concat l r) (holding (ns ++ (l.block k [] ++ r.block m []))
        (blockFragment r m :: blockFragment l k :: fs)) =
      some (holding (ns ++ (Regex.concat l r).block k [])
        (blockFragment (.concat l r) k :: fs)) := by
  have hr := r.entryOffset_lt_exitOffset
  have hexit : m + r.exitOffset = k + (Regex.concat l r).exitOffset := by
    simp only [Regex.exitOffset]
    lia
  have hlink := connect_exit (t := m + r.entryOffset) ns (r.block m []) l [] hk (by
      simp only [List.length_append, Regex.length_block]
      lia)
  simp only [combine, holding, blockFragment, connectSilently, hlink, Option.bind_some,
    Option.map_some, hexit]
  subst hm
  rfl

/-- Joining two blocks for a union. -/
theorem combine_union (l r : Regex) (hk : ns.length = k) (hm : k + l.exitOffset + 1 = m)
    (he : m + r.exitOffset + 1 = entry) :
    combine (.union l r) (holding (ns ++ (l.block k [] ++ r.block m []))
        (blockFragment r m :: blockFragment l k :: fs)) =
      some (holding (ns ++ (Regex.union l r).block k []) (blockFragment (.union l r) k :: fs)) := by
  have hl := l.entryOffset_lt_exitOffset
  have hr := r.entryOffset_lt_exitOffset
  have hlen : (ns ++ (l.block k [] ++ r.block m [])).length = entry := by
    simp only [List.length_append, Regex.length_block]
    lia
  have hentry : k + (Regex.union l r).entryOffset = entry := by
    simp only [Regex.entryOffset]
    lia
  have hexit : k + (Regex.union l r).exitOffset = entry + 1 := by
    simp only [Regex.exitOffset]
    lia
  have h1 := connect_entry (t := k + l.entryOffset) _ (.union l r) [] [] hlen (by lia)
  have h2 := connect_entry (t := m + r.entryOffset) _ (.union l r) [k + l.entryOffset] [] hlen
    (by lia)
  have h3 := connect_exit (t := entry + 1) ns
    (r.block m [] ++ ownStates (.union l r) entry [k + l.entryOffset, m + r.entryOffset] []) l [] hk
    (by
      simp only [List.length_append, Regex.length_block, Regex.length_ownStates]
      lia)
  have h4 := connect_exit (k := m) (t := entry + 1) (ns ++ l.block k [entry + 1])
    (ownStates (.union l r) entry [k + l.entryOffset, m + r.entryOffset] []) r []
    (by
      rw [List.length_append, Regex.length_block]
      lia)
    (by
      simp only [List.length_append, Regex.length_block, Regex.length_ownStates]
      lia)
  simp only [List.append_assoc, List.nil_append, List.cons_append] at h1 h2 h3 h4
  simp only [combine, holding, blockFragment, connectSilently, allocate_toArray, List.size_toArray,
    hlen, hentry, hexit, List.append_assoc, h1, h2, h3, h4, Option.bind_some, Option.map_some]
  subst hm he
  rfl

/-- Going round a block for an iteration. -/
theorem combine_star (b : Regex) (hk : ns.length = k) (he : k + b.exitOffset + 1 = entry) :
    combine (.star b) (holding (ns ++ b.block k []) (blockFragment b k :: fs)) =
      some (holding (ns ++ (Regex.star b).block k []) (blockFragment (.star b) k :: fs)) := by
  have hb := b.entryOffset_lt_exitOffset
  have hlen : (ns ++ b.block k []).length = entry := by
    simp only [List.length_append, Regex.length_block]
    lia
  have hentry : k + (Regex.star b).entryOffset = entry := he
  have hexit : k + (Regex.star b).exitOffset = entry + 1 := by
    simp only [Regex.exitOffset]
    lia
  have h1 := connect_entry (t := k + b.entryOffset) _ (.star b) [] [] hlen (by lia)
  have h2 := connect_entry (t := entry + 1) _ (.star b) [k + b.entryOffset] [] hlen (by lia)
  have h3 := connect_exit (t := entry) ns
    (ownStates (.star b) entry [k + b.entryOffset, entry + 1] []) b [] hk (by
      simp only [List.length_append, Regex.length_block, Regex.length_ownStates]
      lia)
  have h4 := connect_exit (t := entry + 1) ns
    (ownStates (.star b) entry [k + b.entryOffset, entry + 1] []) b [entry] hk (by
      simp only [List.length_append, Regex.length_block, Regex.length_ownStates]
      lia)
  simp only [List.append_assoc, List.nil_append, List.cons_append] at h1 h2 h3 h4
  simp only [combine, holding, blockFragment, connectSilently, allocate_toArray, List.size_toArray,
    hlen, hentry, hexit, List.append_assoc, h1, h2, h3, h4, Option.bind_some, Option.map_some]
  subst he
  rfl

end Join

/-! ## 4. The whole walk -/

theorem run_nil (c : Construction) : run c [] = some c := by rw [run]

/-- The first task is performed, and what it leaves behind comes before the other tasks. -/
theorem run_cons (c : Construction) (t : Task) (rest : List Task) :
    run c (t :: rest) = (perform t c).bind fun (more, c) => run c (more ++ rest) := by
  rw [run]
  split <;> rename_i h <;> rw [h] <;> rfl

/-- **Visiting an expression appends its block and pushes its fragment**, whatever has been built
    before and whatever is still to be done. -/
theorem run_visit (e : Regex) (ns : List Node) (fs : List Fragment) (rest : List Task) :
    run (holding ns fs) (.visit e :: rest) =
      run (holding (ns ++ e.block ns.length []) (blockFragment e ns.length :: fs)) rest := by
  induction e generalizing ns fs rest with
  | epsilon =>
      rw [run_cons, perform, leaf_holding]
      rfl
  | symbol c =>
      rw [run_cons, perform, leaf_holding]
      rfl
  | union l r ihl ihr =>
      have hlen : (ns ++ l.block ns.length []).length = ns.length + l.exitOffset + 1 := by
        rw [List.length_append, Regex.length_block]
        rfl
      rw [run_cons]
      show run _ (.visit l :: .visit r :: .combine (.union l r) :: rest) = _
      rw [ihl, ihr, hlen, List.append_assoc, run_cons, perform, combine_union l r rfl rfl rfl]
      rfl
  | concat l r ihl ihr =>
      have hlen : (ns ++ l.block ns.length []).length = ns.length + l.exitOffset + 1 := by
        rw [List.length_append, Regex.length_block]
        rfl
      rw [run_cons]
      show run _ (.visit l :: .visit r :: .combine (.concat l r) :: rest) = _
      rw [ihl, ihr, hlen, List.append_assoc, run_cons, perform, combine_concat l r rfl rfl]
      rfl
  | star b ih =>
      rw [run_cons]
      show run _ (.visit b :: .combine (.star b) :: rest) = _
      rw [ih, run_cons, perform, combine_star b rfl rfl]
      rfl

end Construction

/-! ## 5. Compiled expressions -/

/-- **A compiled expression is its block from state zero on**, and nothing leaves its exit. -/
theorem Regex.compile_eq (e : Regex) :
    e.compile = ⟨e.entryOffset, e.exitOffset, (e.block 0 []).toArray⟩ := by
  have h : Construction.empty.run [.visit e] =
      some (Construction.holding (e.block 0 []) [Construction.blockFragment e 0]) := by
    rw [show Construction.empty = Construction.holding [] [] from rfl, Construction.run_visit,
      Construction.run_nil]
    rfl
  rw [compile, h]
  simp [Construction.finish, Construction.holding, Construction.blockFragment]

namespace Regex

@[simp] theorem compile_start (e : Regex) : e.compile.start = e.entryOffset := by rw [compile_eq]

@[simp] theorem compile_accept (e : Regex) : e.compile.accept = e.exitOffset := by rw [compile_eq]

@[simp] theorem stateCount_compile (e : Regex) : e.compile.stateCount = e.exitOffset + 1 := by
  simp [compile_eq, Automaton.stateCount]

end Regex

end EpsilonAutomata
