import EpsilonAutomata.Yaml.Character

/-!
# Between tokens

Blanks, comments and line breaks separate tokens. Outside flow collections a new line may begin with
the key of a mapping, and as long as it may, its indentation must not hold a tab. A byte-order mark
is passed over at the beginning of a line.
-/

namespace EpsilonAutomata.Yaml

/-- Passes over everything before the next token, and answers whether a key may begin there.
    `keyAllowed` says the same of the place where it starts, and `inComment` whether that is inside
    a comment. -/
def skipTrivia (inFlow keyAllowed inComment : Bool) (line column : Nat) :
    List Char → Bool × Cursor
  | [] => (keyAllowed, ⟨[], line, column⟩)
  | c :: rest =>
    if isBreak c then skipTrivia inFlow (keyAllowed || !inFlow) false (line + 1) 0 rest
    else if inComment || c = ' ' || (c = '\t' && (inFlow || !keyAllowed)) ||
        (c = byteOrderMark && column = 0) then
      skipTrivia inFlow keyAllowed inComment line (column + 1) rest
    else if c = '#' then skipTrivia inFlow keyAllowed true line (column + 1) rest
    else (keyAllowed, ⟨c :: rest, line, column⟩)

end EpsilonAutomata.Yaml
