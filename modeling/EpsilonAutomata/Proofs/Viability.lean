import EpsilonAutomata.Proofs.Language

/-!
# Viable prefixes

The simulation gives up as soon as no state is live. This file shows that it gives up exactly where
it should: a state is live after a word if and only if the word can still be continued to a word of
the language. That takes more than acceptance. A live state that led nowhere would change no answer
and yet keep the simulation going, so the point is that a compiled expression has no such state:
every tail holds a word (`exists_mem_tail`).

* `run_eq_stopped_iff` -- the simulation of any automaton stops where the live states turn into
  none;
* `live_compile_ne_nil` -- some state is live after a word exactly if the word is viable;
* `simulation_stops_iff` -- the simulation stops at the first character behind which no word of the
  language goes on, and nowhere else.
-/

namespace EpsilonAutomata

/-! ## 1. Where a simulation ends -/

namespace Automaton

variable {a : Automaton} {live : List State} {past before word : List Char} {c : Char}

/-- **The simulation stops at the character that turns some live states into none.** -/
theorem runFrom_eq_stopped_iff (hlive : live ≠ []) :
    a.runFrom live past word = .stopped before c ↔
      ∃ p, before = past.reverse ++ p ∧ p ++ [c] <+: word ∧ p.foldl a.step live ≠ [] ∧
        (p ++ [c]).foldl a.step live = [] := by
  induction word generalizing live past with
  | nil =>
      constructor
      · intro h
        cases h
      · rintro ⟨p, _, hp, _⟩
        simp at hp
  | cons d rest ih =>
      rw [runFrom]
      by_cases hd : a.step live d = []
      · rw [if_pos (List.isEmpty_iff.mpr hd)]
        constructor
        · intro h
          cases h
          exact ⟨[], by simp, by simp, hlive, hd⟩
        · rintro ⟨p, rfl, hp, hne, _⟩
          cases p with
          | nil =>
              obtain rfl : c = d := by simpa using hp
              rw [List.append_nil]
          | cons x q =>
              obtain ⟨rfl, _⟩ := List.cons_prefix_cons.mp hp
              rw [List.foldl_cons, hd, foldl_step_nil] at hne
              exact absurd rfl hne
      · rw [if_neg (fun h => hd (List.isEmpty_iff.mp h)), ih hd]
        constructor
        · rintro ⟨q, rfl, hq, hne, hnil⟩
          exact ⟨d :: q, by simp, List.cons_prefix_cons.mpr ⟨rfl, hq⟩, hne, hnil⟩
        · rintro ⟨p, rfl, hp, hne, hnil⟩
          cases p with
          | nil =>
              obtain rfl : c = d := by simpa using hp
              exact absurd hnil hd
          | cons x q =>
              obtain ⟨rfl, hq⟩ := List.cons_prefix_cons.mp hp
              exact ⟨q, by simp, hq, hne, hnil⟩

/-- Some state is live before any character. -/
theorem initial_ne_nil (a : Automaton) : a.initial ≠ [] :=
  List.ne_nil_of_mem (mem_closure_iff.mpr ⟨a.start, List.mem_singleton.mpr rfl, .refl⟩)

theorem run_eq_stopped_iff :
    a.run word = .stopped before c ↔
      before ++ [c] <+: word ∧ a.live before ≠ [] ∧ a.live (before ++ [c]) = [] := by
  unfold run live
  rw [runFrom_eq_stopped_iff a.initial_ne_nil]
  constructor
  · rintro ⟨p, rfl, h⟩
    exact h
  · intro h
    exact ⟨before, rfl, h⟩

end Automaton

/-! ## 2. No state is a dead end -/

namespace Regex

open scoped Computability

variable {e : Regex} {s t : State} {w : List Char}

/-- Every expression has a word. -/
theorem exists_mem_language (e : Regex) : ∃ w, w ∈ e.language := by
  induction e with
  | epsilon => exact ⟨[], rfl⟩
  | symbol c => exact ⟨[c], rfl⟩
  | union l r ihl _ =>
      obtain ⟨w, hw⟩ := ihl
      exact ⟨w, Or.inl hw⟩
  | concat l r ihl ihr =>
      obtain ⟨u, hu⟩ := ihl
      obtain ⟨v, hv⟩ := ihr
      exact ⟨u ++ v, Language.append_mem_mul hu hv⟩
  | star b _ => exact ⟨[], Language.nil_mem_kstar _⟩

/-- **From every state some word leads to the exit.** -/
theorem exists_mem_tail (e : Regex) (k s : State) : ∃ w, w ∈ e.tail k s := by
  induction e generalizing k with
  | epsilon => exact ⟨[], rfl⟩
  | symbol c =>
      by_cases h : s = k
      · exact ⟨[c], by rw [tail, if_pos h]; rfl⟩
      · exact ⟨[], by rw [tail, if_neg h]; rfl⟩
  | union l r ihl ihr =>
      rw [tail]
      split
      · exact ihl k
      split
      · exact ihr _
      split
      · exact (union l r).exists_mem_language
      · exact ⟨[], rfl⟩
  | concat l r ihl ihr =>
      rw [tail]
      split
      · obtain ⟨u, hu⟩ := ihl k
        obtain ⟨v, hv⟩ := r.exists_mem_language
        exact ⟨u ++ v, Language.append_mem_mul hu hv⟩
      · exact ihr _
  | star b ih =>
      rw [tail]
      split
      · obtain ⟨u, hu⟩ := ih k
        exact ⟨u ++ [], Language.append_mem_mul hu (Language.nil_mem_kstar _)⟩
      split
      · exact ⟨[], Language.nil_mem_kstar _⟩
      · exact ⟨[], rfl⟩

/-- A path that begins in a compiled expression stays in it. -/
theorem reads_compile_le (h : e.compile.Reads s w t) (hs : s ≤ e.exitOffset) :
    t ≤ e.exitOffset := by
  refine h.induction (P := fun s _ => s ≤ e.exitOffset → t ≤ e.exitOffset) id
    (fun s tr htr _ ih _ => ih ?_) hs
  obtain ⟨_, _, _, hle⟩ := edges_inside (mem_outgoing_compile.mp htr).1
  rwa [Nat.zero_add] at hle

/-! ## 3. Viable prefixes -/

/-- **The word begins a word of the language.** -/
def Viable (e : Regex) (w : List Char) : Prop := ∃ u ∈ e.language, w <+: u

/-- **Some state is live after a word exactly if a word of the language begins with it.** -/
theorem live_compile_ne_nil : e.compile.live w ≠ [] ↔ e.Viable w := by
  constructor
  · intro h
    obtain ⟨t, ht⟩ := List.exists_mem_of_ne_nil _ h
    have hpath := Automaton.mem_live_iff.mp ht
    have hle : t ≤ e.exitOffset := reads_compile_le hpath (by
      rw [compile_start]
      exact Nat.le_of_lt e.entryOffset_lt_exitOffset)
    -- the live state is no dead end: some word leads on to the accepting state
    obtain ⟨v, hv⟩ := e.exists_mem_tail 0 t
    have hthrough := hpath.trans ((reads_exit_iff hle).mpr hv)
    rw [← compile_accept] at hthrough
    exact ⟨w ++ v, reads_compile_iff.mp hthrough, List.prefix_append w v⟩
  · rintro ⟨u, hu, v, rfl⟩ hnil
    have hlive := Automaton.mem_live_iff.mpr (reads_compile_iff.mpr hu)
    rw [Automaton.live, List.foldl_append] at hlive
    rw [Automaton.live] at hnil
    rw [hnil, Automaton.foldl_step_nil] at hlive
    exact List.not_mem_nil hlive

/-- **The simulation of a compiled expression holds some live state exactly after the viable
    prefixes**, so that it stops at the first character behind which no word of the language goes
    on, and answers `false` before the end of the word for no other reason. -/
theorem simulation_stops_iff (e : Regex) (word : List Char) :
    (e.compile.live word ≠ [] ↔ e.Viable word) ∧
    e.compile.accepts word = (e.compile.run word).answer e.compile.accept ∧
    ∀ before c, e.compile.run word = .stopped before c ↔
      before ++ [c] <+: word ∧ e.Viable before ∧ ¬ e.Viable (before ++ [c]) := by
  refine ⟨live_compile_ne_nil, rfl, fun before c => ?_⟩
  rw [Automaton.run_eq_stopped_iff, live_compile_ne_nil, ← live_compile_ne_nil (w := before ++ [c]),
    not_ne_iff]

end Regex

end EpsilonAutomata
