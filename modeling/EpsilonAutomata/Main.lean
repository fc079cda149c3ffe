import EpsilonAutomata.CommandLine.Run

/-!
# The program

Takes the arguments and the log filter from the system, runs, and leaves the outcome: what is
printed, the line that reports an error, the warning and the exit code. Nothing is decided here: an
error of the system is reported under its number.
-/

namespace EpsilonAutomata.CommandLine

open Schema (FileFault)

/-- The variable of the environment that holds the log filter. -/
def filterVariable : String := "RUST_LOG"

/-- The number of an error of the system, which the runtime may hand over negated. -/
def errorNumber (code : UInt32) : Nat := if code < 0x80000000 then code.toNat else (0 - code).toNat

/-- The file fault that an error means, if it comes from the system. -/
def faultOf? : IO.Error → Option FileFault
  | .alreadyExists _ code _ | .interrupted _ code _ | .noFileOrDirectory _ code _
  | .invalidArgument _ code _ | .permissionDenied _ code _ | .resourceExhausted _ code _
  | .inappropriateType _ code _ | .noSuchThing _ code _ | .otherError code _
  | .resourceBusy code _ | .resourceVanished code _ | .unsupportedOperation code _
  | .hardwareFault code _ | .unsatisfiedConstraints code _ | .illegalOperation code _
  | .protocolError code _ | .timeExpired code _ => some (.system (errorNumber code))
  | .unexpectedEof | .userError _ => none

/-- The contents of a file of the system. An error of another origin is passed on. -/
def contents (path : String) : IO (Except FileFault ByteArray) := do
  match ← (IO.FS.readBinFile path).toBaseIO with
  | .ok bytes => return .ok bytes
  | .error e =>
    match faultOf? e with
    | some fault => return .error fault
    | none => throw e

/-- Leaves an outcome. -/
def Outcome.leave (o : Outcome) : IO UInt32 := do
  IO.print o.output
  if let some line := o.complaint then IO.eprintln line
  if o.warned then IO.eprintln "WARN nfa_dump: no expression matched"
  return o.code.toUInt32

end EpsilonAutomata.CommandLine

open EpsilonAutomata.CommandLine in
/-- Runs the program on its arguments. Only the schema that they name is read. -/
def main (args : List String) : IO UInt32 := do
  let filter ← IO.getEnv filterVariable
  let read ← match intent args with
    | .print a => contents a.path
    | _ => pure (.ok .empty)
  (run args filter fun _ => read).leave
