import EpsilonAutomata.Regex.Basic
import EpsilonAutomata.Text.Escape

/-!
# Schemas

A schema is a list of named expressions. This file fixes what it is and everything that can keep one
from being loaded, with the two texts of each error: the message for people, and the term that names
its cause and payload.
-/

namespace EpsilonAutomata

/-! ## 1. Schemas -/

/-- Named expressions in the order of their document. -/
structure Schema where
  entries : List (String × Regex)
deriving DecidableEq

namespace Schema

/-- The expression with this name; the first one counts. -/
def get? (name : String) (s : Schema) : Option Regex := s.entries.lookup name

/-- The key of a document that holds the expressions. -/
def expressionsKey : String := "expressions"

/-! ## 2. Errors -/

/-- A value that does not have the shape its place in a schema asks for. -/
inductive ShapeFault where
  | notMapping
  | nameNotString
  | notOneKind
  | kindNotString
  | symbolNotString
  | operandsNotSequence
  | tooFewOperands
  | notNode
deriving DecidableEq

/-- What a shape fault says. -/
def ShapeFault.message : ShapeFault → String
  | .notMapping => "\x60expressions\x60 must be a mapping"
  | .nameNotString => "expression names must be strings"
  | .notOneKind => "an expression node must have exactly one kind key"
  | .kindNotString => "expression kinds must be strings"
  | .symbolNotString => "\x60symbol\x60 takes a one-character string"
  | .operandsNotSequence => "\x60union\x60 and \x60concat\x60 take a sequence"
  | .tooFewOperands => "\x60union\x60 and \x60concat\x60 take at least two operands"
  | .notNode => "an expression node must be \x60empty\x60 or a single-key mapping"

/-- Why a file could not be read as text. -/
inductive FileFault where
  /-- The system reports an error under this number. -/
  | system (code : Nat)
  | notText
  | nulInPath
deriving DecidableEq

namespace FileFault

/-- Nothing has the path. -/
def notFound : FileFault := .system 2

/-- The path goes on behind something that is no directory. -/
def notDirectory : FileFault := .system 20

/-- The path is that of a directory. -/
def isDirectory : FileFault := .system 21

/-- The path or a name in it is too long. -/
def nameTooLong : FileFault := .system 36

/-- The kind and the text of an error of the system, for the numbers that opening or reading a file
    can end with. -/
def systemError : Nat → String × String
  | 1 => ("PermissionDenied", "Operation not permitted")
  | 2 => ("NotFound", "No such file or directory")
  | 4 => ("Interrupted", "Interrupted system call")
  | 5 => ("Uncategorized", "Input/output error")
  | 6 => ("Uncategorized", "No such device or address")
  | 11 => ("WouldBlock", "Resource temporarily unavailable")
  | 12 => ("OutOfMemory", "Cannot allocate memory")
  | 13 => ("PermissionDenied", "Permission denied")
  | 16 => ("ResourceBusy", "Device or resource busy")
  | 19 => ("Uncategorized", "No such device")
  | 20 => ("NotADirectory", "Not a directory")
  | 21 => ("IsADirectory", "Is a directory")
  | 22 => ("InvalidInput", "Invalid argument")
  | 23 => ("Uncategorized", "Too many open files in system")
  | 24 => ("Uncategorized", "Too many open files")
  | 26 => ("ExecutableFileBusy", "Text file busy")
  | 27 => ("FileTooLarge", "File too large")
  | 36 => ("InvalidFilename", "File name too long")
  | 40 => ("FilesystemLoop", "Too many levels of symbolic links")
  | 75 => ("Uncategorized", "Value too large for defined data type")
  | 95 => ("Unsupported", "Operation not supported")
  | 110 => ("TimedOut", "Connection timed out")
  | 116 => ("StaleNetworkFileHandle", "Stale file handle")
  | code => ("Uncategorized", "Unknown error " ++ toString code)

/-- What a file fault says. -/
def message : FileFault → String
  | .system code => (systemError code).2 ++ " (os error " ++ toString code ++ ")"
  | .notText => "stream did not contain valid UTF-8"
  | .nulInPath => "file name contained an unexpected NUL byte"

/-- The term of a fault found before or after the system was asked. -/
def ownTerm (kind message : String) : String :=
  "Error \x7b kind: " ++ kind ++ ", message: " ++ Text.quotedString message ++ " \x7d"

/-- A file fault as a term. -/
def term : FileFault → String
  | .system code =>
    let (kind, text) := systemError code
    "Os \x7b code: " ++ toString code ++ ", kind: " ++ kind ++ ", message: " ++
      Text.quotedString text ++ " \x7d"
  | .notText => ownTerm "InvalidData" "stream did not contain valid UTF-8"
  | .nulInPath => ownTerm "InvalidInput" "file name contained an unexpected NUL byte"

end FileFault

/-- What can keep a schema from being loaded. -/
inductive LoadError where
  /-- A symbol that is not one character. -/
  | invalidSymbol (text : String)
  /-- A kind of expression that does not exist. -/
  | unsupportedExpression (kind : String)
  /-- The text is no YAML document. -/
  | notYaml
  | file (fault : FileFault)
  /-- The document lacks a key. -/
  | missingKey (key : String)
  | invalidSchema (fault : ShapeFault)
deriving DecidableEq

/-- The name of an error's cause. -/
def LoadError.cause : LoadError → String
  | .invalidSymbol _ => "InvalidSymbol"
  | .unsupportedExpression _ => "UnsupportedExpression"
  | .notYaml => "YamlParsingError"
  | .file _ => "IOError"
  | .missingKey _ => "MissingSchemaKey"
  | .invalidSchema _ => "InvalidSchema"

/-- What an error says. A text that is not YAML is reported by its cause alone. -/
def LoadError.message? : LoadError → Option String
  | .invalidSymbol text =>
    some ("invalid symbol " ++ Text.quotedString text ++ ": expected exactly one character")
  | .unsupportedExpression kind => some ("unsupported expression kind \x60" ++ kind ++ "\x60")
  | .notYaml => none
  | .file fault => some ("I/O error: " ++ fault.message)
  | .missingKey key => some ("missing schema key \x60" ++ key ++ "\x60")
  | .invalidSchema fault => some ("invalid schema: " ++ fault.message)

/-- The payload of an error as a term. -/
def LoadError.payloadTerm? : LoadError → Option String
  | .invalidSymbol text => some (Text.quotedString text)
  | .unsupportedExpression kind => some (Text.quotedString kind)
  | .notYaml => none
  | .file fault => some fault.term
  | .missingKey key => some (Text.quotedString key)
  | .invalidSchema fault => some (Text.quotedString fault.message)

/-- An error as a term: its cause, and its payload in brackets. -/
def LoadError.term (e : LoadError) : String :=
  match e.payloadTerm? with
  | some payload => e.cause ++ "(" ++ payload ++ ")"
  | none => e.cause

end Schema

end EpsilonAutomata
