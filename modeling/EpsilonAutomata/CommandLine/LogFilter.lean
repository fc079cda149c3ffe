import EpsilonAutomata.CommandLine.LogFilter.Directive

/-!
# Which log messages are shown

**Of the directives of a filter that fit a message the most specific decides**: the one with the
longest target, then one that names a field. Without a filter, and with one that cannot be read,
warnings and errors are shown; an empty filter shows errors only.
-/

namespace EpsilonAutomata.CommandLine

/-- What a filter sees of a message that is logged outside all spans. -/
structure Message where
  target : List Char
  fields : List (List Char)
  level : LogLevel

namespace Directive

/-- The directive is about the message. -/
def fits (d : Directive) (m : Message) : Bool :=
  !d.inSpan && d.target.all (·.isPrefixOf m.target) && d.field.all m.fields.contains

/-- The second directive is at least as specific as the first. -/
def yields (d e : Directive) : Bool :=
  let length := d.target.elim 0 (·.length + 1)
  let length' := e.target.elim 0 (·.length + 1)
  length < length' || (length = length' && !(e.field.getD [] < d.field.getD []))

end Directive

/-- The directive that decides about a message: of those that fit the most specific, the latest if
    there are several. -/
def deciding (ds : List Directive) (m : Message) : Option Directive :=
  (ds.filter (·.fits m)).foldl (fun
    | none, e => some e
    | some d, e => if d.yields e then some e else some d) none

/-- The directives let the message through. -/
def admits (ds : List Directive) (m : Message) : Bool :=
  (deciding ds m).any fun d => m.level.toNat ≤ d.level.toNat

/-- A filter, if there is one, lets the message through. -/
def shows (filter : Option String) (m : Message) : Bool :=
  match filter.bind directives? with
  | none => admits [⟨none, false, none, .warn⟩] m
  | some [] => admits [⟨none, false, none, .error⟩] m
  | some ds => admits ds m

end EpsilonAutomata.CommandLine
