/-!
# Regular expressions over single characters

An expression is a tree with five kinds of node. This file fixes the tree, the names of the kinds
and the two ways of counting nodes:

* `Regex.size` counts by recursion on the tree; it is the measure other definitions end by;
* `Regex.nodeCount` counts with an explicit list of pending subtrees, so that a tree of any depth
  is counted in constant stack space. An operand used in two places is counted twice.
-/

namespace EpsilonAutomata

/-! ## 1. Kinds -/

/-- The five kinds of node an expression is built from. -/
inductive Kind where
  | empty
  | symbol
  | union
  | concatenation
  | iteration
deriving DecidableEq

/-- The name a kind is reported under. -/
def Kind.name : Kind → String
  | .empty => "Empty"
  | .symbol => "Symbol"
  | .union => "Union"
  | .concatenation => "Concatenation"
  | .iteration => "Iteration"

/-! ## 2. Expressions -/

/-- A regular expression. `epsilon` matches the empty word only, `symbol c` the one-letter word
    `c`, `star` any number of words of its body. -/
inductive Regex where
  | epsilon
  | symbol (c : Char)
  | union (left right : Regex)
  | concat (left right : Regex)
  | star (body : Regex)
deriving Inhabited

namespace Regex

/-- Equality of trees. Two places that hold one tree in memory are found equal at once, so operands
    used many times over cost no more than their depth. -/
protected def decEq (a b : Regex) : Decidable (a = b) :=
  withPtrEqDecEq a b fun _ =>
    match a, b with
    | epsilon, epsilon => isTrue rfl
    | symbol c, symbol d => decidable_of_iff (c = d) (by simp)
    | union l r, union l' r' =>
      match Regex.decEq l l' with
      | isFalse h => isFalse fun e => h (union.inj e).1
      | isTrue h =>
        match Regex.decEq r r' with
        | isFalse h' => isFalse fun e => h' (union.inj e).2
        | isTrue h' => isTrue (by rw [h, h'])
    | concat l r, concat l' r' =>
      match Regex.decEq l l' with
      | isFalse h => isFalse fun e => h (concat.inj e).1
      | isTrue h =>
        match Regex.decEq r r' with
        | isFalse h' => isFalse fun e => h' (concat.inj e).2
        | isTrue h' => isTrue (by rw [h, h'])
    | star e, star f =>
      match Regex.decEq e f with
      | isFalse h => isFalse fun e => h (star.inj e)
      | isTrue h => isTrue (by rw [h])
    | epsilon, symbol _ | epsilon, union _ _ | epsilon, concat _ _ | epsilon, star _
    | symbol _, epsilon | symbol _, union _ _ | symbol _, concat _ _ | symbol _, star _
    | union _ _, epsilon | union _ _, symbol _ | union _ _, concat _ _ | union _ _, star _
    | concat _ _, epsilon | concat _ _, symbol _ | concat _ _, union _ _ | concat _ _, star _
    | star _, epsilon | star _, symbol _ | star _, union _ _ | star _, concat _ _ =>
      isFalse nofun

instance : DecidableEq Regex := Regex.decEq

/-- The kind of the root node. -/
def kind : Regex → Kind
  | epsilon => .empty
  | symbol _ => .symbol
  | union _ _ => .union
  | concat _ _ => .concatenation
  | star _ => .iteration

/-- The direct operands, left to right. -/
def operands : Regex → List Regex
  | epsilon => []
  | symbol _ => []
  | union l r => [l, r]
  | concat l r => [l, r]
  | star e => [e]

end Regex

/-! ## 3. Counting nodes -/

/-- The sum of numbers. -/
def total : List Nat → Nat
  | [] => 0
  | n :: ns => n + total ns

@[simp] theorem total_nil : total [] = 0 := rfl

@[simp] theorem total_cons (n : Nat) (ns : List Nat) : total (n :: ns) = n + total ns := rfl

@[simp] theorem total_append (ms ns : List Nat) : total (ms ++ ns) = total ms + total ns := by
  induction ms with
  | nil => simp
  | cons m ms ih => simp [ih, Nat.add_assoc]

namespace Regex

/-- The number of nodes, by recursion on the tree. -/
def size : Regex → Nat
  | epsilon => 1
  | symbol _ => 1
  | union l r => l.size + r.size + 1
  | concat l r => l.size + r.size + 1
  | star e => e.size + 1

/-- The operands together have one node less than the tree. -/
theorem total_size_operands (e : Regex) : total (e.operands.map size) + 1 = e.size := by
  cases e <;> simp [operands, size]

/-- Counts the nodes of all pending trees on top of `counted`. -/
def countNodes (counted : Nat) : List Regex → Nat
  | [] => counted
  | e :: pending => countNodes (counted + 1) (e.operands ++ pending)
termination_by pending => total (pending.map size)
decreasing_by
  have := total_size_operands e
  simp only [List.map_append, total_append, List.map_cons, total_cons]
  omega

/-- The number of nodes of the tree. -/
def nodeCount (e : Regex) : Nat := countNodes 0 [e]

theorem countNodes_eq (counted : Nat) (pending : List Regex) :
    countNodes counted pending = counted + total (pending.map size) := by
  fun_induction countNodes counted pending with
  | case1 counted => simp
  | case2 counted e pending ih =>
    have := total_size_operands e
    simp only [ih, List.map_append, total_append, List.map_cons, total_cons]
    omega

/-- **The explicit list of pending subtrees counts what recursion on the tree counts.** -/
theorem nodeCount_eq_size (e : Regex) : e.nodeCount = e.size := by
  simp [nodeCount, countNodes_eq]

end Regex

end EpsilonAutomata
