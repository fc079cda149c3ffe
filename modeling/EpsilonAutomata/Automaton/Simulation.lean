import EpsilonAutomata.Automaton.Closure

/-!
# Running an automaton on a word

All states the automaton may be in are followed at once. A word is rejected as soon as no state is
left, and accepted if the accepting state is among those left at its end.
-/

namespace EpsilonAutomata.Automaton

/-- The states the automaton may be in after consuming `c`, coming from `live`. -/
def step (a : Automaton) (live : List State) (c : Char) : List State :=
  a.closure (live.flatMap (a.targetsOn c))

/-- The states the automaton may be in before any character. -/
def initial (a : Automaton) : List State := a.closure [a.start]

/-- How the simulation of an automaton on a word ends. -/
inductive Ending where
  /-- At the end of the word, with these live states. -/
  | finished (live : List State)
  /-- At the character `c` behind the characters `before`, which leaves no state live. -/
  | stopped (before : List Char) (c : Char)

/-- Follows the states `live` along a word; `past` holds the characters read so far, the last one
    first. -/
def runFrom (a : Automaton) (live : List State) (past : List Char) : List Char → Ending
  | [] => .finished live
  | c :: rest =>
    let next := a.step live c
    if next.isEmpty then .stopped past.reverse c else a.runFrom next (c :: past) rest

/-- **The simulation on a word.** -/
def run (a : Automaton) (word : List Char) : Ending := a.runFrom a.initial [] word

/-- What a simulation answers, given the accepting state. -/
def Ending.answer (accept : State) : Ending → Bool
  | finished live => live.contains accept
  | stopped _ _ => false

/-- Whether the automaton accepts the word. -/
def accepts (a : Automaton) (word : List Char) : Bool := (a.run word).answer a.accept

end EpsilonAutomata.Automaton
