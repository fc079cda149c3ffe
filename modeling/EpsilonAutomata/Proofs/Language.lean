import EpsilonAutomata.Proofs.Edges
import EpsilonAutomata.Proofs.Simulation
import Mathlib.Computability.Language

/-!
# The language of a compiled expression

Soundness does not take paths apart. Instead every state `s` of a block is given the language
`tail e k s` of the words that may still follow on the way to the exit. This is an invariant of
single transitions: what may follow behind a transition, with its label in front, may follow before
it (`handsBack`). So a path to the exit reads a word of the tail it starts from, however often it
goes round. Conversely every word of a tail is read by some path inside the block
(`readsTails`), by induction on the expression.

* `reads_exit_iff` -- the words that lead from a state to the exit are its tail;
* `accepts_compile_iff` -- a compiled expression accepts the language of the expression.
-/

namespace EpsilonAutomata.Regex

open scoped Computability

/-! ## 1. Languages -/

/-- **The language of an expression.** -/
def language : Regex → Language Char
  | epsilon => 1
  | symbol c => {[c]}
  | union l r => l.language + r.language
  | concat l r => l.language * r.language
  | star b => b.language∗

/-- The words that lead from the state `s` to the exit of the block at `k`. -/
def tail : Regex → State → State → Language Char
  | epsilon, _, _ => 1
  | symbol c, k, s => if s = k then {[c]} else 1
  | union l r, k, s =>
    if s ≤ k + l.exitOffset then l.tail k s
    else if s ≤ k + l.exitOffset + 1 + r.exitOffset then r.tail (k + l.exitOffset + 1) s
    else if s = k + l.exitOffset + 1 + r.exitOffset + 1 then l.language + r.language
    else 1
  | concat l r, k, s =>
    if s ≤ k + l.exitOffset then l.tail k s * r.language else r.tail (k + l.exitOffset + 1) s
  | star b, k, s =>
    if s ≤ k + b.exitOffset then b.tail k s * b.language∗
    else if s = k + b.exitOffset + 1 then b.language∗
    else 1

/-- From the entry a word of the whole language may follow. -/
theorem tail_entry {e : Regex} {k s : State} (hs : s = k + e.entryOffset) :
    e.tail k s = e.language := by
  induction e generalizing k with
  | epsilon => rfl
  | symbol c => exact if_pos hs
  | union l r _ _ =>
      rw [entryOffset] at hs
      rw [tail, if_neg (by lia), if_neg (by lia), if_pos (by lia)]
      rfl
  | concat l r ihl _ =>
      have := l.entryOffset_lt_exitOffset
      rw [entryOffset] at hs
      rw [tail, if_pos (by lia), ihl hs]
      rfl
  | star b _ =>
      rw [entryOffset] at hs
      rw [tail, if_neg (by lia), if_pos (by lia)]
      rfl

/-- From the exit nothing may follow. -/
theorem tail_exit {e : Regex} {k s : State} (hs : s = k + e.exitOffset) : e.tail k s = 1 := by
  induction e generalizing k with
  | epsilon => rfl
  | symbol c =>
      rw [exitOffset] at hs
      exact if_neg (by lia)
  | union l r _ _ =>
      rw [exitOffset] at hs
      rw [tail, if_neg (by lia), if_neg (by lia), if_neg (by lia)]
  | concat l r _ ihr =>
      rw [exitOffset] at hs
      rw [tail, if_neg (by lia), ihr (by lia)]
  | star b _ =>
      rw [exitOffset] at hs
      rw [tail, if_neg (by lia), if_neg (by lia)]

/-! ## 2. Soundness: one transition -/

section Tails

variable {l r b : Regex} {k s m : State}

theorem tail_union_left (hs : s ≤ k + l.exitOffset) : (l.union r).tail k s = l.tail k s :=
  if_pos hs

theorem tail_union_right (hm : k + l.exitOffset + 1 = m) (h₁ : m ≤ s) (h₂ : s ≤ m + r.exitOffset) :
    (l.union r).tail k s = r.tail m s := by
  subst hm
  rw [tail, if_neg (by lia), if_pos h₂]

theorem tail_concat_left (hs : s ≤ k + l.exitOffset) :
    (l.concat r).tail k s = l.tail k s * r.language := if_pos hs

theorem tail_concat_right (hm : k + l.exitOffset + 1 = m) (hs : m ≤ s) :
    (l.concat r).tail k s = r.tail m s := by
  subst hm
  exact if_neg (by lia)

theorem tail_star_body (hs : s ≤ k + b.exitOffset) :
    b.star.tail k s = b.tail k s * b.language∗ := if_pos hs

end Tails

/-- A word that may follow in front of `m` may follow in front of `l * m`, with the word of `l` that
    it stands behind. -/
theorem append_mem_mul_of {l l' m : Language Char} {v w : List Char}
    (h : ∀ u ∈ l, v ++ u ∈ l') (hw : w ∈ l * m) : v ++ w ∈ l' * m := by
  obtain ⟨x, hx, y, hy, rfl⟩ := Language.mem_mul.mp hw
  rw [← List.append_assoc]
  exact Language.append_mem_mul (h x hx) hy

/-- The block at `k` hands tails backwards: what may follow a transition may, behind its label,
    follow its source. -/
def HandsBack (e : Regex) (k : State) : Prop :=
  ∀ t ∈ e.edges k, ∀ w ∈ e.tail k t.target, t.label.toList ++ w ∈ e.tail k t.source

section Soundness

variable {l r b : Regex} {k : State}

theorem handsBack_epsilon (k : State) : HandsBack epsilon k := by
  intro t ht w hw
  obtain rfl := List.mem_singleton.mp ht
  exact hw

theorem handsBack_symbol (c : Char) (k : State) : HandsBack (symbol c) k := by
  intro t ht w hw
  obtain rfl := List.mem_singleton.mp ht
  rw [tail, if_neg (by lia), Language.mem_one] at hw
  subst hw
  rw [tail, if_pos rfl]
  rfl

theorem HandsBack.union (hl : l.HandsBack k) (hr : r.HandsBack (k + l.exitOffset + 1)) :
    (l.union r).HandsBack k := by
  intro t ht w hw
  have hllt := l.entryOffset_lt_exitOffset
  have hrlt := r.entryOffset_lt_exitOffset
  have hentry : (l.union r).tail k (k + l.exitOffset + 1 + r.exitOffset + 1) =
      l.language + r.language := tail_entry (by rw [entryOffset]; lia)
  have hexit : (l.union r).tail k (k + l.exitOffset + 1 + r.exitOffset + 1 + 1) = 1 :=
    tail_exit (by rw [exitOffset]; lia)
  simp only [edges, List.mem_append, List.mem_cons, List.not_mem_nil, or_false] at ht
  rcases ht with ht | rfl | ht | rfl | rfl | rfl
  · obtain ⟨_, h2, _, h4⟩ := edges_inside ht
    rw [tail_union_left h4] at hw
    rw [tail_union_left (by lia)]
    exact hl t ht w hw
  · rw [hexit] at hw
    rw [tail_union_left (Nat.le_refl _), tail_exit rfl]
    exact hw
  · obtain ⟨h1, h2, h3, h4⟩ := edges_inside ht
    rw [tail_union_right rfl h3 h4] at hw
    rw [tail_union_right rfl h1 (by lia)]
    exact hr t ht w hw
  · rw [hexit] at hw
    rw [tail_union_right rfl (by lia) (by lia), tail_exit rfl]
    exact hw
  · rw [tail_union_left (by lia), tail_entry rfl] at hw
    rw [hentry]
    exact Or.inl hw
  · rw [tail_union_right rfl (by lia) (by lia), tail_entry rfl] at hw
    rw [hentry]
    exact Or.inr hw

theorem HandsBack.concat (hl : l.HandsBack k) (hr : r.HandsBack (k + l.exitOffset + 1)) :
    (l.concat r).HandsBack k := by
  intro t ht w hw
  simp only [edges, List.mem_append, List.mem_cons] at ht
  rcases ht with ht | rfl | ht
  · obtain ⟨_, h2, _, h4⟩ := edges_inside ht
    rw [tail_concat_left h4] at hw
    rw [tail_concat_left (by lia)]
    exact append_mem_mul_of (fun u hu => hl t ht u hu) hw
  · rw [tail_concat_right rfl (by lia), tail_entry rfl] at hw
    rw [tail_concat_left (Nat.le_refl _), tail_exit rfl, one_mul]
    exact hw
  · obtain ⟨h1, _, h3, _⟩ := edges_inside ht
    rw [tail_concat_right rfl h3] at hw
    rw [tail_concat_right rfl h1]
    exact hr t ht w hw

theorem HandsBack.star (hb : b.HandsBack k) : b.star.HandsBack k := by
  intro t ht w hw
  have hblt := b.entryOffset_lt_exitOffset
  have hentry : b.star.tail k (k + b.exitOffset + 1) = b.language∗ := tail_entry rfl
  have hexit : b.star.tail k (k + b.exitOffset + 1 + 1) = 1 := tail_exit rfl
  have hlast : b.star.tail k (k + b.exitOffset) = b.language∗ := by
    rw [tail_star_body (Nat.le_refl _), tail_exit rfl, one_mul]
  simp only [edges, List.mem_append, List.mem_cons, List.not_mem_nil, or_false] at ht
  rcases ht with ht | rfl | rfl | rfl | rfl
  · obtain ⟨_, h2, _, h4⟩ := edges_inside ht
    rw [tail_star_body h4] at hw
    rw [tail_star_body (by lia)]
    exact append_mem_mul_of (fun u hu => hb t ht u hu) hw
  · rw [hentry] at hw
    rw [hlast]
    exact hw
  · rw [hexit] at hw
    rw [hlast]
    exact (one_le_kstar : (1 : Language Char) ≤ b.language∗) hw
  · rw [tail_star_body (by lia), tail_entry rfl] at hw
    rw [hentry]
    exact (mul_kstar_le_kstar : b.language * b.language∗ ≤ b.language∗) hw
  · rw [hexit] at hw
    rw [hentry]
    exact (one_le_kstar : (1 : Language Char) ≤ b.language∗) hw

end Soundness

/-- **Every block hands tails backwards.** -/
theorem handsBack (e : Regex) (k : State) : e.HandsBack k := by
  induction e generalizing k with
  | epsilon => exact handsBack_epsilon k
  | symbol c => exact handsBack_symbol c k
  | union l r ihl ihr => exact (ihl k).union (ihr _)
  | concat l r ihl ihr => exact (ihl k).concat (ihr _)
  | star b ih => exact (ih k).star

/-- **Soundness**: what a path to the exit reads is a word of the tail it starts from. -/
theorem mem_tail_of_reads {e : Regex} {s : State} {w : List Char}
    (h : e.compile.Reads s w e.exitOffset) : w ∈ e.tail 0 s := by
  refine h.induction (P := fun s w => w ∈ e.tail 0 s) ?_ fun s t ht w hw => ?_
  · rw [tail_exit (Nat.zero_add _).symm]
    rfl
  · obtain ⟨hedge, rfl⟩ := mem_outgoing_compile.mp ht
    exact e.handsBack 0 t hedge w hw

/-! ## 3. Completeness: a path for every word -/

/-- The automaton has all transitions of the block at `k`. -/
def HasEdges (a : Automaton) (e : Regex) (k : State) : Prop :=
  ∀ t ∈ e.edges k, t ∈ a.outgoing t.source

namespace HasEdges

variable {a : Automaton} {l r b : Regex} {k : State}

theorem unionLeft (ha : HasEdges a (l.union r) k) : HasEdges a l k :=
  fun t ht => ha t (mem_edges_union.mpr (Or.inl ht))

theorem unionRight (ha : HasEdges a (l.union r) k) : HasEdges a r (k + l.exitOffset + 1) :=
  fun t ht => ha t (mem_edges_union.mpr (Or.inr (Or.inr (Or.inl ht))))

theorem concatLeft (ha : HasEdges a (l.concat r) k) : HasEdges a l k :=
  fun t ht => ha t (mem_edges_concat.mpr (Or.inl ht))

theorem concatRight (ha : HasEdges a (l.concat r) k) : HasEdges a r (k + l.exitOffset + 1) :=
  fun t ht => ha t (mem_edges_concat.mpr (Or.inr (Or.inr ht)))

theorem starBody (ha : HasEdges a b.star k) : HasEdges a b k :=
  fun t ht => ha t (mem_edges_star.mpr (Or.inl ht))

end HasEdges

/-- A compiled expression has the edges of its block. -/
theorem hasEdges_compile (e : Regex) : HasEdges e.compile e 0 :=
  fun _ ht => mem_outgoing_compile.mpr ⟨ht, rfl⟩

/-- A silent edge is a path. -/
theorem HasEdges.reads {a : Automaton} {e : Regex} {k s t : State} (ha : HasEdges a e k)
    (ht : ⟨s, none, t⟩ ∈ e.edges k) : a.Reads s [] t :=
  .head (ha _ ht) (.refl a t)

/-- Every word of a tail in the block at `k` is read by a path of the automaton to the exit. -/
def ReadsTails (a : Automaton) (e : Regex) (k : State) : Prop :=
  ∀ s w, k ≤ s → s ≤ k + e.exitOffset → w ∈ e.tail k s → a.Reads s w (k + e.exitOffset)

/-- Any number of rounds of an iteration: in to the body, through it for each word, and back. -/
theorem reads_rounds {a : Automaton} {l : Language Char} {entry exit bodyEntry bodyExit : State}
    (hbody : ∀ w ∈ l, a.Reads bodyEntry w bodyExit) (hin : a.Reads entry [] bodyEntry)
    (hback : a.Reads bodyExit [] entry) (hout : a.Reads entry [] exit) {w : List Char}
    (hw : w ∈ l∗) : a.Reads entry w exit := by
  obtain ⟨ws, rfl, hws⟩ := Language.mem_kstar.mp hw
  clear hw
  induction ws with
  | nil => exact hout
  | cons v rest ih =>
      have hv := hbody v (hws v List.mem_cons_self)
      have hrest := ih fun y hy => hws y (List.mem_cons_of_mem _ hy)
      have hrounds := (hin.trans hv).trans (hback.trans hrest)
      simpa using hrounds

section Completeness

variable {a : Automaton} {l r b : Regex} {k : State}

theorem readsTails_epsilon (ha : HasEdges a epsilon k) : ReadsTails a epsilon k := by
  intro s w hk hs hw
  obtain rfl : w = [] := hw
  rw [exitOffset] at hs ⊢
  rcases Nat.lt_or_eq_of_le hs with h | rfl
  · obtain rfl : s = k := by lia
    exact ha.reads List.mem_cons_self
  · exact .refl a _

theorem readsTails_symbol {c : Char} (ha : HasEdges a (symbol c) k) :
    ReadsTails a (symbol c) k := by
  intro s w hk hs hw
  rw [exitOffset] at hs ⊢
  rcases Nat.lt_or_eq_of_le hs with h | rfl
  · obtain rfl : s = k := by lia
    rw [tail, if_pos rfl] at hw
    obtain rfl : w = [c] := hw
    exact .head (ha _ List.mem_cons_self) (.refl a _)
  · rw [tail, if_neg (by lia)] at hw
    obtain rfl : w = [] := hw
    exact .refl a _

theorem ReadsTails.union (hl : ReadsTails a l k) (hr : ReadsTails a r (k + l.exitOffset + 1))
    (ha : HasEdges a (l.union r) k) : ReadsTails a (l.union r) k := by
  intro s w hk hs hw
  have hllt := l.entryOffset_lt_exitOffset
  have hrlt := r.entryOffset_lt_exitOffset
  have hexit : k + (l.union r).exitOffset = k + l.exitOffset + 1 + r.exitOffset + 1 + 1 := by
    rw [exitOffset]
    lia
  have hlout : a.Reads (k + l.exitOffset) [] (k + (l.union r).exitOffset) := by
    rw [hexit]
    exact ha.reads (by simp [edges])
  have hrout : a.Reads (k + l.exitOffset + 1 + r.exitOffset) [] (k + (l.union r).exitOffset) := by
    rw [hexit]
    exact ha.reads (by simp [edges])
  by_cases h1 : s ≤ k + l.exitOffset
  · rw [tail_union_left h1] at hw
    simpa using (hl s w hk h1 hw).trans hlout
  by_cases h2 : s ≤ k + l.exitOffset + 1 + r.exitOffset
  · rw [tail_union_right rfl (by lia) h2] at hw
    simpa using (hr s w (by lia) h2 hw).trans hrout
  by_cases h3 : s = k + l.exitOffset + 1 + r.exitOffset + 1
  · subst h3
    rw [tail_entry (by rw [entryOffset]; lia)] at hw
    rcases hw with hw | hw
    · have hin : a.Reads (k + l.exitOffset + 1 + r.exitOffset + 1) [] (k + l.entryOffset) :=
        ha.reads (by simp [edges])
      have hthrough := hl (k + l.entryOffset) w (by lia) (by lia) (by rwa [tail_entry rfl])
      simpa using (hin.trans hthrough).trans hlout
    · have hin : a.Reads (k + l.exitOffset + 1 + r.exitOffset + 1) []
          (k + l.exitOffset + 1 + r.entryOffset) := ha.reads (by simp [edges])
      have hthrough := hr (k + l.exitOffset + 1 + r.entryOffset) w (by lia) (by lia)
        (by rwa [tail_entry rfl])
      simpa using (hin.trans hthrough).trans hrout
  · obtain rfl : s = k + (l.union r).exitOffset := by lia
    rw [tail_exit rfl] at hw
    obtain rfl : w = [] := hw
    exact .refl a _

theorem ReadsTails.concat (hl : ReadsTails a l k) (hr : ReadsTails a r (k + l.exitOffset + 1))
    (ha : HasEdges a (l.concat r) k) : ReadsTails a (l.concat r) k := by
  intro s w hk hs hw
  have hrlt := r.entryOffset_lt_exitOffset
  have hexit : k + (l.concat r).exitOffset = k + l.exitOffset + 1 + r.exitOffset := by
    rw [exitOffset]
    lia
  rw [hexit] at hs ⊢
  by_cases h1 : s ≤ k + l.exitOffset
  · rw [tail_concat_left h1] at hw
    obtain ⟨u, hu, v, hv, rfl⟩ := Language.mem_mul.mp hw
    have hlink : a.Reads (k + l.exitOffset) [] (k + l.exitOffset + 1 + r.entryOffset) :=
      ha.reads (by simp [edges])
    have hthrough := hr (k + l.exitOffset + 1 + r.entryOffset) v (by lia) (by lia)
      (by rwa [tail_entry rfl])
    exact (hl s u hk h1 hu).trans (hlink.trans hthrough)
  · rw [tail_concat_right rfl (by lia)] at hw
    exact hr s w (by lia) hs hw

theorem ReadsTails.star (hb : ReadsTails a b k) (ha : HasEdges a b.star k) :
    ReadsTails a b.star k := by
  intro s w hk hs hw
  have hblt := b.entryOffset_lt_exitOffset
  have hexit : k + b.star.exitOffset = k + b.exitOffset + 1 + 1 := rfl
  have hin : a.Reads (k + b.exitOffset + 1) [] (k + b.entryOffset) := ha.reads (by simp [edges])
  have hback : a.Reads (k + b.exitOffset) [] (k + b.exitOffset + 1) := ha.reads (by simp [edges])
  have hout : a.Reads (k + b.exitOffset + 1) [] (k + b.star.exitOffset) := by
    rw [hexit]
    exact ha.reads (by simp [edges])
  have hbody : ∀ v ∈ b.language, a.Reads (k + b.entryOffset) v (k + b.exitOffset) :=
    fun v hv => hb _ v (by lia) (by lia) (by rwa [tail_entry rfl])
  by_cases h1 : s ≤ k + b.exitOffset
  · rw [tail_star_body h1] at hw
    obtain ⟨u, hu, v, hv, rfl⟩ := Language.mem_mul.mp hw
    exact (hb s u hk h1 hu).trans (hback.trans (reads_rounds hbody hin hback hout hv))
  by_cases h2 : s = k + b.exitOffset + 1
  · rw [tail_entry h2] at hw
    rw [h2]
    exact reads_rounds hbody hin hback hout hw
  · obtain rfl : s = k + b.star.exitOffset := by lia
    rw [tail_exit rfl] at hw
    obtain rfl : w = [] := hw
    exact .refl a _

end Completeness

/-- **Completeness**: every word of a tail is read by a path to the exit. -/
theorem readsTails {a : Automaton} {e : Regex} {k : State} (ha : HasEdges a e k) :
    ReadsTails a e k := by
  induction e generalizing k with
  | epsilon => exact readsTails_epsilon ha
  | symbol c => exact readsTails_symbol ha
  | union l r ihl ihr => exact (ihl ha.unionLeft).union (ihr ha.unionRight) ha
  | concat l r ihl ihr => exact (ihl ha.concatLeft).concat (ihr ha.concatRight) ha
  | star b ih => exact (ih ha.starBody).star ha

/-! ## 4. Acceptance -/

/-- **The words that lead from a state of a compiled expression to its exit are the tail of the
    state.** -/
theorem reads_exit_iff {e : Regex} {s : State} {w : List Char} (hs : s ≤ e.exitOffset) :
    e.compile.Reads s w e.exitOffset ↔ w ∈ e.tail 0 s := by
  refine ⟨mem_tail_of_reads, fun hw => ?_⟩
  have := readsTails e.hasEdges_compile s w (Nat.zero_le s) (by lia) hw
  rwa [Nat.zero_add] at this

/-- The words that lead from the start of a compiled expression to its accepting state are its
    language. -/
theorem reads_compile_iff {e : Regex} {w : List Char} :
    e.compile.Reads e.compile.start w e.compile.accept ↔ w ∈ e.language := by
  have hlt := e.entryOffset_lt_exitOffset
  rw [compile_start, compile_accept, reads_exit_iff (Nat.le_of_lt hlt),
    tail_entry (Nat.zero_add _).symm]

/-- **A compiled expression accepts exactly the words of its language.** -/
theorem accepts_compile_iff (e : Regex) (word : List Char) :
    e.compile.accepts word = true ↔ word ∈ e.language :=
  Automaton.accepts_iff_reads.trans reads_compile_iff

end EpsilonAutomata.Regex
