import EpsilonAutomata.Proofs.Edges

/-!
# Concatenations without brackets

Two expressions are the same up to the brackets of their concatenations in two senses, and this file
shows that these are one:

* `Regex.Reassociates` -- brackets may be moved at any place of the expression;
* `Regex.factors` -- every chain of concatenations is flattened to the list of its factors, at every
  depth.

Moving brackets changes nothing about the block of an expression (`Reassociates.edges_eq` and its
companions), because the border between two operands does not depend on what they are joined to.
-/

namespace EpsilonAutomata

/-! ## 1. Chains of factors -/

/-- An expression that is no concatenation, its operands flattened to lists of factors. -/
inductive Factor where
  | epsilon
  | symbol (c : Char)
  | union (left right : List Factor)
  | star (body : List Factor)

namespace Regex

/-- **The factors of an expression**, with every chain of concatenations in it flattened. -/
def factors : Regex → List Factor
  | epsilon => [.epsilon]
  | symbol c => [.symbol c]
  | union l r => [.union l.factors r.factors]
  | concat l r => l.factors ++ r.factors
  | star b => [.star b.factors]

theorem factors_ne_nil (e : Regex) : e.factors ≠ [] := by
  induction e with
  | epsilon => exact List.cons_ne_nil _ _
  | symbol c => exact List.cons_ne_nil _ _
  | union l r _ _ => exact List.cons_ne_nil _ _
  | concat l r ihl _ => exact fun h => ihl (List.append_eq_nil_iff.mp h).1
  | star b _ => exact List.cons_ne_nil _ _

/-- **The brackets of some concatenations have been moved.** -/
inductive Reassociates : Regex → Regex → Prop where
  | refl (e : Regex) : Reassociates e e
  | symm {e f : Regex} : Reassociates e f → Reassociates f e
  | trans {e f g : Regex} : Reassociates e f → Reassociates f g → Reassociates e g
  | rotate (x y z : Regex) : Reassociates (concat (concat x y) z) (concat x (concat y z))
  | union {l l' r r' : Regex} : Reassociates l l' → Reassociates r r' →
      Reassociates (union l r) (union l' r')
  | concat {l l' r r' : Regex} : Reassociates l l' → Reassociates r r' →
      Reassociates (concat l r) (concat l' r')
  | star {b b' : Regex} : Reassociates b b' → Reassociates (star b) (star b')

/-- Moving brackets keeps the factors. -/
theorem Reassociates.factors_eq {e f : Regex} (h : Reassociates e f) : e.factors = f.factors := by
  induction h with
  | refl e => rfl
  | symm _ ih => exact ih.symm
  | trans _ _ ih₁ ih₂ => exact ih₁.trans ih₂
  | rotate x y z => exact List.append_assoc _ _ _
  | union _ _ ihl ihr => rw [factors, factors, ihl, ihr]
  | concat _ _ ihl ihr => rw [factors, factors, ihl, ihr]
  | star _ ih => rw [factors, factors, ih]

end Regex

/-! ## 2. The expression of a chain -/

mutual

/-- The expression of a factor. -/
def Factor.toRegex : Factor → Regex
  | .epsilon => .epsilon
  | .symbol c => .symbol c
  | .union l r => .union (Factor.chain l) (Factor.chain r)
  | .star b => .star (Factor.chain b)

/-- The factors joined with all brackets to the right. There is no chain of no factors; what is
    answered for it does not matter. -/
def Factor.chain : List Factor → Regex
  | [] => .epsilon
  | [x] => x.toRegex
  | x :: y :: rest => .concat x.toRegex (Factor.chain (y :: rest))

end

namespace Regex

/-- Two chains joined to one. -/
theorem reassociates_chain_append {xs ys : List Factor} (hxs : xs ≠ []) (hys : ys ≠ []) :
    Reassociates (.concat (Factor.chain xs) (Factor.chain ys)) (Factor.chain (xs ++ ys)) := by
  induction xs with
  | nil => exact absurd rfl hxs
  | cons x rest ih =>
      match rest, ys with
      | [], y :: ys =>
          rw [List.singleton_append, Factor.chain, Factor.chain]
          exact .refl _
      | x' :: rest, ys =>
          rw [List.cons_append, List.cons_append, Factor.chain, Factor.chain]
          exact (Reassociates.rotate _ _ _).trans (.concat (.refl _) (ih (List.cons_ne_nil _ _)))

/-- **Every expression is its chain of factors, with the brackets moved.** -/
theorem reassociates_chain (e : Regex) : Reassociates e (Factor.chain e.factors) := by
  induction e with
  | epsilon => exact .refl _
  | symbol c => exact .refl _
  | union l r ihl ihr =>
      rw [factors, Factor.chain, Factor.toRegex]
      exact .union ihl ihr
  | concat l r ihl ihr =>
      exact (Reassociates.concat ihl ihr).trans
        (reassociates_chain_append l.factors_ne_nil r.factors_ne_nil)
  | star b ih =>
      rw [factors, Factor.chain, Factor.toRegex]
      exact .star ih

/-- **Expressions with the same factors differ in brackets only.** -/
theorem reassociates_iff {e f : Regex} : Reassociates e f ↔ e.factors = f.factors := by
  refine ⟨Reassociates.factors_eq, fun h => ?_⟩
  have hf := f.reassociates_chain
  rw [← h] at hf
  exact e.reassociates_chain.trans hf.symm

/-! ## 3. Moving brackets keeps the block -/

namespace Reassociates

variable {e f : Regex}

theorem exitOffset_eq (h : Reassociates e f) : e.exitOffset = f.exitOffset := by
  induction h with
  | refl e => rfl
  | symm _ ih => exact ih.symm
  | trans _ _ ih₁ ih₂ => exact ih₁.trans ih₂
  | rotate x y z => simp only [exitOffset]; omega
  | union _ _ ihl ihr => rw [exitOffset, exitOffset, ihl, ihr]
  | concat _ _ ihl ihr => rw [exitOffset, exitOffset, ihl, ihr]
  | star _ ih => rw [exitOffset, exitOffset, ih]

theorem entryOffset_eq (h : Reassociates e f) : e.entryOffset = f.entryOffset := by
  induction h with
  | refl e => rfl
  | symm _ ih => exact ih.symm
  | trans _ _ ih₁ ih₂ => exact ih₁.trans ih₂
  | rotate x y z => rfl
  | union hl hr _ _ => rw [entryOffset, entryOffset, hl.exitOffset_eq, hr.exitOffset_eq]
  | concat _ _ ihl _ => exact ihl
  | star hb _ => rw [entryOffset, entryOffset, hb.exitOffset_eq]

/-- **Moving brackets keeps every edge and their order.** -/
theorem edges_eq (h : Reassociates e f) (k : State) : e.edges k = f.edges k := by
  induction h generalizing k with
  | refl e => rfl
  | symm _ ih => exact (ih k).symm
  | trans _ _ ih₁ ih₂ => exact (ih₁ k).trans (ih₂ k)
  | rotate x y z =>
      have hexit : k + (x.concat y).exitOffset = k + x.exitOffset + 1 + y.exitOffset := by
        rw [exitOffset]
        lia
      simp only [edges, hexit, entryOffset, List.append_assoc, List.cons_append]
  | union hl hr ihl ihr =>
      simp only [edges, ihl, ihr, hl.exitOffset_eq, hr.exitOffset_eq, hl.entryOffset_eq,
        hr.entryOffset_eq]
  | concat hl hr ihl ihr => simp only [edges, ihl, ihr, hl.exitOffset_eq, hr.entryOffset_eq]
  | star hb ih => simp only [edges, ih, hb.exitOffset_eq, hb.entryOffset_eq]

end Reassociates

/-- The kinds of the nodes the states of a block were allocated for. -/
def kinds : Regex → List Kind
  | epsilon => [.empty, .empty]
  | symbol _ => [.symbol, .symbol]
  | union l r => l.kinds ++ (r.kinds ++ [.union, .union])
  | concat l r => l.kinds ++ r.kinds
  | star b => b.kinds ++ [.iteration, .iteration]

theorem map_kind_block (e : Regex) (k : State) (next : List State) :
    (e.block k next).map (·.origin.kind) = e.kinds := by
  induction e generalizing k next with
  | epsilon => rfl
  | symbol c => rfl
  | union l r ihl ihr =>
      rw [block, List.map_append, List.map_append, ihl, ihr]
      rfl
  | concat l r ihl ihr => rw [block, List.map_append, ihl, ihr, kinds]
  | star b ih =>
      rw [block, List.map_append, ih]
      rfl

theorem originKinds_compile (e : Regex) : e.compile.originKinds = e.kinds := by
  rw [compile_eq, Automaton.originKinds, List.toList_toArray, map_kind_block]

theorem Reassociates.kinds_eq {e f : Regex} (h : Reassociates e f) : e.kinds = f.kinds := by
  induction h with
  | refl e => rfl
  | symm _ ih => exact ih.symm
  | trans _ _ ih₁ ih₂ => exact ih₁.trans ih₂
  | rotate x y z => simp only [kinds, List.append_assoc]
  | union _ _ ihl ihr => rw [kinds, kinds, ihl, ihr]
  | concat _ _ ihl ihr => rw [kinds, kinds, ihl, ihr]
  | star _ ih => rw [kinds, kinds, ih]

end Regex

end EpsilonAutomata
