import EpsilonAutomata.Yaml.Character

/-!
# Gaps between words

Inside plain and quoted scalars, the blanks and line breaks between two words form one gap. Blanks
on one line stand for themselves. Once the gap has a line break, blanks are indentation and only the
breaks count.
-/

namespace EpsilonAutomata.Yaml

/-- The gap read so far. Characters are kept latest first. -/
inductive Gap where
  /-- No line break yet. -/
  | blanks (read : List Char)
  /-- At least one line break. -/
  | folded (breaks : List Char)
  /-- The first line break was escaped: `breaks` holds those after it. -/
  | joined (breaks : List Char)
deriving DecidableEq

namespace Gap

/-- Nothing between the last word and the next. -/
def none : Gap := .blanks []

/-- Adds a blank or a line break. -/
def add (c : Char) : Gap → Gap
  | blanks read => if isBreak c then folded [c] else blanks (c :: read)
  | folded breaks => folded (if isBreak c then c :: breaks else breaks)
  | joined breaks => joined (if isBreak c then c :: breaks else breaks)

/-- The text the gap stands for. -/
def text : Gap → List Char
  | blanks read => read.reverse
  | folded breaks => foldBreaks breaks.reverse
  | joined breaks => breaks.reverse

/-- Puts the gap behind a text that is kept latest character first. -/
def onto (g : Gap) (read : List Char) : List Char := g.text.reverse ++ read

/-- The gap has an unescaped line break. -/
def hasBreak : Gap → Bool
  | folded _ => true
  | _ => false

end Gap

end EpsilonAutomata.Yaml
