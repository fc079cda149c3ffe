import EpsilonAutomata.Yaml.Token.Gap

/-!
# Quoted scalars

Both readers begin behind the opening quote and answer the text and the place behind the closing
quote. Lines are folded; a document marker at the beginning of a line is a fault even inside quotes.
In single quotes a quote is written twice and nothing else is special. In double quotes a backslash
begins an escape, and a backslash at the end of a line takes the line break away.
-/

namespace EpsilonAutomata.Yaml

/-! ## 1. Single quotes -/

/-- Reads a scalar in single quotes. `read` is the text so far, latest character first, and `gap`
    what follows its last word. -/
def readSingleQuoted (line column : Nat) (read : List Char) (gap : Gap) :
    List Char → Option (List Char × Cursor)
  | [] => none
  | '\x27' :: '\x27' :: rest =>
    readSingleQuoted line (column + 2) ('\x27' :: gap.onto read) .none rest
  | '\x27' :: rest => some ((gap.onto read).reverse, ⟨rest, line, column + 1⟩)
  | c :: rest =>
    if isBreak c then readSingleQuoted (line + 1) 0 read (gap.add c) rest
    else if isBlank c then readSingleQuoted line (column + 1) read (gap.add c) rest
    else if column = 0 && isDocumentMarker (c :: rest) then none
    else readSingleQuoted line (column + 1) (c :: gap.onto read) .none rest

/-! ## 2. Escapes -/

/-- What a character behind a backslash stands for. -/
inductive Escape where
  | character (c : Char)
  /-- A code point of this many hexadecimal digits. -/
  | codePoint (digits : Nat)

/-- The escapes of double-quoted scalars. -/
def escape? : Char → Option Escape
  | '0' => some (.character '\x00')
  | 'a' => some (.character '\x07')
  | 'b' => some (.character '\x08')
  | 't' => some (.character '\t')
  | '\t' => some (.character '\t')
  | 'n' => some (.character '\n')
  | 'v' => some (.character '\x0b')
  | 'f' => some (.character '\x0c')
  | 'r' => some (.character '\r')
  | 'e' => some (.character '\x1b')
  | ' ' => some (.character ' ')
  | '\x22' => some (.character '\x22')
  | '/' => some (.character '/')
  | '\\' => some (.character '\\')
  | 'N' => some (.character '\u0085')
  | '_' => some (.character '\u00a0')
  | 'L' => some (.character '\u2028')
  | 'P' => some (.character '\u2029')
  | 'x' => some (.codePoint 2)
  | 'u' => some (.codePoint 4)
  | 'U' => some (.codePoint 8)
  | _ => none

/-- The character with this code point, unless it is a surrogate or beyond the last one. -/
def charOfCodePoint? (n : Nat) : Option Char :=
  if n.isValidChar then some (Char.ofNat n) else none

/-! ## 3. Double quotes -/

/-- Where in a double-quoted scalar the reader is. -/
inductive QuotedState where
  /-- In the text, behind a gap. -/
  | text (gap : Gap)
  /-- In a code point with this many digits to come. -/
  | codePoint (digits value : Nat)

/-- Reads a scalar in double quotes. `read` is the text so far, latest character first. -/
def readDoubleQuoted (line column : Nat) (read : List Char) (state : QuotedState) :
    List Char → Option (List Char × Cursor)
  | [] => none
  | c :: rest =>
    match state with
    | .codePoint digits value =>
      match hexDigit? c with
      | none => none
      | some d =>
        if digits ≤ 1 then
          match charOfCodePoint? (16 * value + d) with
          | none => none
          | some x => readDoubleQuoted line (column + 1) (x :: read) (.text .none) rest
        else readDoubleQuoted line (column + 1) read (.codePoint (digits - 1) (16 * value + d)) rest
    | .text gap =>
      if c = '\x22' then some ((gap.onto read).reverse, ⟨rest, line, column + 1⟩)
      else if isBreak c then readDoubleQuoted (line + 1) 0 read (.text (gap.add c)) rest
      else if isBlank c then readDoubleQuoted line (column + 1) read (.text (gap.add c)) rest
      else if column = 0 && isDocumentMarker (c :: rest) then none
      else if c = '\\' then
        match rest with
        | [] => none
        | e :: rest =>
          if isBreak e then
            readDoubleQuoted (line + 1) 0 (gap.onto read) (.text (.joined [])) rest
          else
            match escape? e with
            | none => none
            | some (.character x) =>
              readDoubleQuoted line (column + 2) (x :: gap.onto read) (.text .none) rest
            | some (.codePoint digits) =>
              readDoubleQuoted line (column + 2) (gap.onto read) (.codePoint digits 0) rest
      else readDoubleQuoted line (column + 1) (c :: gap.onto read) (.text .none) rest

end EpsilonAutomata.Yaml
