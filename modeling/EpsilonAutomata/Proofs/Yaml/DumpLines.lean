import EpsilonAutomata.Proofs.Text.CommentLines
import EpsilonAutomata.Proofs.Yaml.DumpTokens

/-!
# The lines of a dump

A dump consists of whole lines, and none of them begins with `#`: the only `#` a dump can have is
that of a transition, which is written in single quotes. So taking out comment lines takes nothing
from a dump.

* `hashQuoted_charScalar` -- a character as a scalar;
* `hashQuoted_dump`, `endsLine_dump` -- the dump.
-/

namespace EpsilonAutomata

open Text (HashQuoted EndsLine)

/-! ## 1. Characters -/

namespace Yaml

/-- The style writes no `#` that is not the character itself. -/
def CharStyle.Hashless : CharStyle → Prop
  | .escaped sequence => '#' ∉ sequence.toList
  | _ => True

theorem digitChar_ne_hash : ∀ d < 16, (Nat.digitChar d).toUpper ≠ '#' := by
  decide

theorem hashless_charStyle (c : Char) : (charStyle c).Hashless := by
  unfold charStyle
  refine iteInduction (fun _ => trivial) fun _ => iteInduction (fun _ => trivial) fun _ => ?_
  -- the letters behind a backslash
  iterate 9 refine iteInduction (fun _ => (by decide : '#' ∉ String.toList _)) fun _ => ?_
  refine iteInduction (fun h => ?_) fun _ => ?_
  · simp only [Bool.or_eq_true, Bool.and_eq_true, decide_eq_true_eq] at h
    have hhigh := digitChar_ne_hash (c.toNat / 16) (by omega)
    have hlow := digitChar_ne_hash (c.toNat % 16) (by omega)
    simp [CharStyle.Hashless, hexPair, hhigh.symm, hlow.symm]
  -- the three code points that are written in full
  iterate 3 refine iteInduction (fun _ => (by decide : '#' ∉ String.toList _)) fun _ => ?_
  exact iteInduction (fun _ => trivial) fun _ => trivial

/-- **A `#` among the scalars of characters stands behind a quotation mark.** -/
theorem hashQuoted_charScalar (c : Char) : HashQuoted (charScalar c) := by
  by_cases hhash : c = '#'
  · subst hhash
    decide
  have hself : HashQuoted c.toString := .of_notMem (by simpa using Ne.symm hhash)
  have hstyle := hashless_charStyle c
  unfold charScalar
  cases hc : charStyle c with
  | plain => exact hself
  | singleQuoted =>
      refine iteInduction (fun _ => by decide) fun _ => ?_
      exact .append (.append (by decide) hself) (by decide)
  | escaped sequence =>
      rw [hc] at hstyle
      exact .append (.append (by decide) (.of_notMem hstyle)) (by decide)
  | literal => exact (by decide : HashQuoted "|2+\n")
  | foldedBreak => exact .append (.append (by decide) hself) (by decide)

end Yaml

/-! ## 2. The dump -/

namespace Automaton

/-- **Every `#` in a dump stands behind a quotation mark.** -/
theorem hashQuoted_dump (a : Automaton) : HashQuoted a.dump := by
  have hnumeral (n : Nat) : HashQuoted n.repr := by
    refine .of_notMem fun h => ?_
    rw [Nat.toList_repr] at h
    exact absurd (Yaml.isDigit_of_mem_numeral h) (by decide)
  refine dump_of_pieces HashQuoted.append (by decide) hnumeral ?_ ?_ a
  · intro k
    cases k <;> decide
  · intro label
    cases label with
    | none => exact (by decide : HashQuoted "null")
    | some c => exact Yaml.hashQuoted_charScalar c

section Lines

variable {ends : Char → Bool}

/-- The entries of a sequence, or none, behind its key. -/
theorem endsLine_entries (hfeed : ends '\n' = true) (key : String) {entries : List String}
    (h : ∀ entry ∈ entries, EndsLine ends entry.toList) (empty : Bool) :
    EndsLine ends (key ++ if empty then " []\n" else "\n" ++ String.join entries).toList := by
  rw [String.toList_append]
  cases empty with
  | true =>
      have hlast : key.toList ++ " []\n".toList = (key.toList ++ " []".toList) ++ ['\n'] := by
        rw [List.append_assoc]
        rfl
      exact hlast ▸ .concat hfeed _
  | false =>
      rw [if_neg Bool.false_ne_true, String.toList_append, String.toList_join, ← List.append_assoc]
      exact .append (.concat hfeed key.toList) (.flatMap h)

/-- **A dump ends with a line.** -/
theorem endsLine_dump (hfeed : ends '\n' = true) (a : Automaton) :
    EndsLine ends a.dump.toList := by
  have htransition (t : Transition) : EndsLine ends (transitionDump t).toList := by
    rw [transitionDump, String.toList_append]
    exact .concat hfeed _
  have hnode (s : State) (node : Node) : EndsLine ends (nodeDump s node).toList := by
    unfold nodeDump
    exact endsLine_entries hfeed _ (List.forall_mem_map.mpr fun t _ => htransition t) _
  unfold dump nodesDump
  refine endsLine_entries hfeed _ (List.forall_mem_map.mpr fun n _ => ?_) _
  obtain ⟨node, s⟩ := n
  exact hnode s node

end Lines

end Automaton

end EpsilonAutomata
