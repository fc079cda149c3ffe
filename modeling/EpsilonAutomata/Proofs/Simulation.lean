import EpsilonAutomata.Automaton.Simulation
import EpsilonAutomata.Proofs.Reachability
import Mathlib.Computability.EpsilonNFA

/-!
# The simulation follows all paths

Running an automaton on a word keeps a list of live states. As a set it is what the textbook
automaton with silent transitions evaluates to, so a state is live after a word exactly if a path
reading this word leads to it. Stopping as soon as no state is live changes no answer.

* `mem_live_iff` -- the live states after a word are those a path from the start leads to;
* `accepts_iff_reads` -- a word is accepted exactly if a path reads it from start to accept.
-/

namespace EpsilonAutomata.Automaton

variable {a : Automaton} {s t u : State} {c : Char} {v w : List Char}

/-! ## 1. The textbook automaton -/

/-- The automaton as sets of states and a transition relation. -/
def toεNFA (a : Automaton) : εNFA Char State where
  step s label := {t | ∃ tr ∈ a.outgoing s, tr.label = label ∧ tr.target = t}
  start := {a.start}
  accept := {a.accept}

/-- The states after a word, coming from the start state: what the simulation holds. -/
def live (a : Automaton) (word : List Char) : List State := word.foldl a.step a.initial

theorem silentStep_iff : a.SilentStep s t ↔ t ∈ a.toεNFA.step s none := by
  unfold SilentStep silentTargets
  rw [List.mem_filterMap]
  refine exists_congr fun tr => and_congr_right fun _ => ?_
  cases h : tr.label <;> simp [Transition.isSilent, h]

theorem mem_targetsOn_iff : t ∈ a.targetsOn c s ↔ t ∈ a.toεNFA.step s (some c) := by
  unfold targetsOn
  rw [List.mem_filterMap]
  refine exists_congr fun tr => and_congr_right fun _ => ?_
  by_cases h : tr.label = some c <;> simp [h]

/-- The silent closure is the ε-closure. -/
theorem coe_closure (a : Automaton) (states : List State) :
    {x | x ∈ a.closure states} = a.toεNFA.εClosure {x | x ∈ states} := by
  ext x
  rw [Set.mem_ofPred_eq, mem_closure_iff]
  constructor
  · rintro ⟨s, hs, hr⟩
    induction hr with
    | refl => exact εNFA.εClosure.base s hs
    | tail _ hstep ih => exact εNFA.εClosure.step _ _ (silentStep_iff.mp hstep) ih
  · intro hx
    induction hx with
    | base s hs => exact ⟨s, hs, Relation.ReflTransGen.refl⟩
    | step s t hstep _ ih =>
        obtain ⟨p, hp, hr⟩ := ih
        exact ⟨p, hp, hr.tail (silentStep_iff.mpr hstep)⟩

/-- One step of the simulation is one step on sets. -/
theorem coe_step (a : Automaton) (states : List State) (c : Char) :
    {x | x ∈ a.step states c} = a.toεNFA.stepSet {x | x ∈ states} c := by
  unfold step
  rw [coe_closure]
  ext x
  rw [εNFA.mem_stepSet_iff, εNFA.mem_εClosure_iff_exists]
  constructor
  · rintro ⟨t, ht, hx⟩
    obtain ⟨s, hs, ht⟩ := List.mem_flatMap.mp ht
    refine ⟨s, hs, (εNFA.mem_εClosure_iff_exists _).mpr ⟨t, mem_targetsOn_iff.mp ht, hx⟩⟩
  · rintro ⟨s, hs, hx⟩
    obtain ⟨t, ht, hx⟩ := (εNFA.mem_εClosure_iff_exists _).mp hx
    exact ⟨t, List.mem_flatMap.mpr ⟨s, hs, mem_targetsOn_iff.mpr ht⟩, hx⟩

/-- **The live states are what the textbook automaton evaluates to.** -/
theorem coe_live (a : Automaton) (word : List Char) :
    {x | x ∈ a.live word} = a.toεNFA.eval word := by
  induction word using List.reverseRecOn with
  | nil =>
      show {x | x ∈ a.closure [a.start]} = a.toεNFA.εClosure {a.start}
      rw [coe_closure]
      congr 1
      ext x
      exact List.mem_singleton
  | append_singleton word c ih =>
      rw [live, List.foldl_append, εNFA.eval_append_singleton, ← ih]
      exact coe_step a (a.live word) c

/-! ## 2. Stopping early -/

theorem foldl_step_nil (a : Automaton) (word : List Char) : word.foldl a.step [] = [] := by
  induction word with
  | nil => rfl
  | cons c rest ih =>
      have h : a.step [] c = [] := closure_nil a
      rw [List.foldl_cons, h, ih]

/-- Rejecting as soon as no state is live answers what the last live states answer. -/
theorem answer_runFrom (a : Automaton) (states : List State) (past word : List Char) :
    (a.runFrom states past word).answer a.accept =
      (word.foldl a.step states).contains a.accept := by
  induction word generalizing states past with
  | nil => rfl
  | cons c rest ih =>
      rw [runFrom, List.foldl_cons]
      split
      · rename_i h
        rw [List.isEmpty_iff.mp h, foldl_step_nil]
        rfl
      · exact ih _ _

theorem accepts_eq (a : Automaton) (word : List Char) :
    a.accepts word = (a.live word).contains a.accept := a.answer_runFrom _ _ word

/-! ## 3. Paths -/

/-- A path of the automaton leads from `s` to `t` and consumes `word` on the way. -/
def Reads (a : Automaton) (s : State) (word : List Char) (t : State) : Prop :=
  ∃ labels, labels.reduceOption = word ∧ a.toεNFA.IsPath s t labels

theorem Reads.refl (a : Automaton) (s : State) : a.Reads s [] s := ⟨[], rfl, .nil s⟩

/-- A transition in front of a path. -/
theorem Reads.head {tr : Transition} (htr : tr ∈ a.outgoing s) (h : a.Reads tr.target w u) :
    a.Reads s (tr.label.toList ++ w) u := by
  obtain ⟨labels, hw, hp⟩ := h
  refine ⟨tr.label :: labels, ?_, .cons _ _ _ _ _ ⟨tr, htr, rfl, rfl⟩ hp⟩
  subst hw
  cases tr.label <;> simp

/-- One path behind another. -/
theorem Reads.trans (h₁ : a.Reads s v t) (h₂ : a.Reads t w u) : a.Reads s (v ++ w) u := by
  obtain ⟨xs, rfl, hxs⟩ := h₁
  obtain ⟨ys, rfl, hys⟩ := h₂
  exact ⟨xs ++ ys, List.reduceOption_append xs ys, (εNFA.isPath_append _).mpr ⟨t, hxs, hys⟩⟩

/-- **A state is live after a word exactly if a path reading the word leads to it.** -/
theorem mem_live_iff : t ∈ a.live w ↔ a.Reads a.start w t := by
  have h := Set.ext_iff.mp (coe_live a w) t
  rw [Set.mem_ofPred_eq] at h
  rw [h]
  exact εNFA.mem_evalFrom_iff_exists_path _

/-- **A word is accepted exactly if a path reads it from the start to the accepting state.** -/
theorem accepts_iff_reads : a.accepts w = true ↔ a.Reads a.start w a.accept := by
  rw [accepts_eq, List.contains_iff_mem, mem_live_iff]

/-- A property of states and words that every transition hands backwards, and that the empty word
    has at the end, holds of all paths to that end. -/
theorem Reads.induction {P : State → List Char → Prop} (hend : P u [])
    (hstep : ∀ s, ∀ tr ∈ a.outgoing s, ∀ w, P tr.target w → P s (tr.label.toList ++ w))
    (h : a.Reads s w u) : P s w := by
  obtain ⟨labels, rfl, hp⟩ := h
  induction hp with
  | nil s => exact hend
  | cons t s u label rest hmem _ ih =>
      obtain ⟨tr, htr, rfl, rfl⟩ := hmem
      have := hstep s tr htr _ (ih hend)
      cases hl : tr.label with
      | none => simpa [hl] using this
      | some c => simpa [hl] using this

end EpsilonAutomata.Automaton
