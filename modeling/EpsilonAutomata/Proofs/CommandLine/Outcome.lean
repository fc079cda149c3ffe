import EpsilonAutomata.CommandLine.Run

/-!
# Requests and outcomes

A run reads its arguments, loads the schema they name and prints. The theorems about the command
line start from here: what the arguments ask for decides, together with what the schema loads as,
about everything a run leaves behind.

* `intent_commandLine` -- whatever can be asked for, there are arguments that ask for it;
* `intent_words` -- and where no value looks like an option, the arguments in everyday use do;
* `run_loaded`, `run_failed` -- the outcome of a run whose schema loads, and of one whose schema
  does not.
-/

namespace EpsilonAutomata.CommandLine

/-! ## 1. Requests -/

/-- The value of the option `--format`. -/
def Format.name : Format → String
  | .dump => "yaml"
  | .listing => "debug"

theorem Format.ofName?_name (format : Format) : Format.ofName? format.name = some format := by
  cases format <;> rfl

/-- Arguments that ask for this. The values are joined to their options, so a name may be any text,
    and the path stands behind `--`, where nothing is an option. -/
def Arguments.commandLine (a : Arguments) : List String :=
  (a.name.map ("--name=" ++ ·)).toList ++ ["--format=" ++ a.format.name, "--", a.path]

theorem readArguments_name {g : Given} (h : g.name = none) (name : String) (rest : List String) :
    readArguments g (("--name=" ++ name) :: rest) =
      readArguments { g with name := some name } rest := by
  rw [readArguments, String.toList_append]
  simp [splitOption, Given.addName, h]

theorem readArguments_format {g : Given} (h : g.format = none) (format : Format)
    (rest : List String) :
    readArguments g (("--format=" ++ format.name) :: rest) =
      readArguments { g with format := some format } rest := by
  rw [readArguments, String.toList_append]
  simp [splitOption, Given.addFormat, h, Format.ofName?_name]

/-- **Every request can be made.** -/
theorem intent_commandLine (a : Arguments) : intent a.commandLine = .print a := by
  obtain ⟨path, name, format⟩ := a
  have hrest : ∀ name, readArguments ⟨none, name, none⟩ ["--format=" ++ format.name, "--", path] =
      .print ⟨path, name, format⟩ := fun name => by
    rw [readArguments_format rfl]
    rfl
  cases name with
  | none => exact hrest none
  | some name =>
      show readArguments _ (("--name=" ++ name) :: _) = _
      rw [readArguments_name rfl]
      exact hrest (some name)

/-- Arguments in everyday use: the path, and behind it the options that are given, each with its
    value as the next argument. -/
def words (path : String) (name : Option String) (format : Option Format) : List String :=
  path :: ((name.map (["--name", ·])).getD [] ++ (format.map (["--format", ·.name])).getD [])

/-- What begins with a dash is an option, but for the dash alone. -/
theorem toList_ne_of_not_isOption {arg : String} (h : isOption arg = false) (hne : arg ≠ "-")
    (rest : List Char) : arg.toList ≠ '-' :: rest := by
  intro harg
  have hstart : arg.startsWith "-" = true := String.startsWith_string_iff.mpr ⟨rest, harg.symm⟩
  simp [isOption, hne, hstart] at h

theorem readArguments_path {g : Given} (h : g.path = none) {path : String}
    (hpath : isOption path = false) (rest : List String) :
    readArguments g (path :: rest) = readArguments { g with path := some path } rest := by
  have hadd : g.addPath path = some { g with path := some path } := by simp [Given.addPath, h]
  by_cases hdash : path = "-"
  · subst hdash
    rw [readArguments]
    simp [hadd]
  · have hne := toList_ne_of_not_isOption hpath hdash
    rw [readArguments]
    split
    case h_4 => rw [hadd]
    -- the other cases begin with a dash
    all_goals next hlist => exact absurd hlist (hne _)

theorem readArguments_nameWord {g : Given} (h : g.name = none) {name : String}
    (hname : isOption name = false) (rest : List String) :
    readArguments g ("--name" :: name :: rest) =
      readArguments { g with name := some name } rest := by
  rw [readArguments]
  simp [splitOption, Given.addName, h, hname]

theorem readArguments_formatWord {g : Given} (h : g.format = none) (format : Format)
    (rest : List String) :
    readArguments g ("--format" :: format.name :: rest) =
      readArguments { g with format := some format } rest := by
  have hword : isOption format.name = false := by cases format <;> decide +kernel
  rw [readArguments]
  simp [splitOption, Given.addFormat, h, hword, Format.ofName?_name]

/-- **A request in everyday use**, where neither the path nor the name looks like an option. Without
    a format it asks for dumps. -/
theorem intent_words {path : String} (hpath : isOption path = false) {name : Option String}
    (hname : ∀ x ∈ name, isOption x = false) (format : Option Format) :
    intent (words path name format) = .print ⟨path, name, format.getD .dump⟩ := by
  have hrest : ∀ name, readArguments ⟨some path, name, none⟩
      ((format.map (["--format", ·.name])).getD []) = .print ⟨path, name, format.getD .dump⟩ := by
    intro name
    cases format with
    | none => rfl
    | some format =>
        show readArguments _ ["--format", format.name] = _
        rw [readArguments_formatWord rfl]
        rfl
  show readArguments _ (path :: _) = _
  rw [readArguments_path rfl hpath]
  cases name with
  | none => exact hrest none
  | some name =>
      show readArguments _ ("--name" :: name :: _) = _
      rw [readArguments_nameWord rfl (hname name rfl)]
      exact hrest (some name)

/-! ## 2. Outcomes -/

section Outcome

variable {args : List String} (filter : Option String)
  (read : String → Except Schema.FileFault ByteArray) {a : Arguments} {s : Schema}

/-- **The outcome of a run whose schema loads**: the blocks of what is selected, and the warning if
    that is nothing. -/
theorem run_loaded (hargs : intent args = .print a) (hload : Schema.ofFile (read a.path) = .ok s) :
    run args filter read = ⟨0, String.join ((select a.name s).map (block a.format)), none,
      (select a.name s).isEmpty && shows filter nothingSelected⟩ := by
  rw [run, hargs]
  show outcome a filter (read a.path) = _
  rw [outcome, hload]
  rfl

/-- **The outcome of a run whose schema does not load**: the error and nothing else. -/
theorem run_failed {e : Schema.LoadError} (hargs : intent args = .print a)
    (hload : Schema.ofFile (read a.path) = .error e) :
    run args filter read = ⟨1, "", some ("Error: " ++ e.term), false⟩ := by
  rw [run, hargs]
  show outcome a filter (read a.path) = _
  rw [outcome, hload]

end Outcome

end EpsilonAutomata.CommandLine
