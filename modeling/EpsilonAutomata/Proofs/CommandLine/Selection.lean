import EpsilonAutomata.Proofs.CommandLine.Outcome
import EpsilonAutomata.Proofs.Schema.Names

/-!
# Selecting by name

There are three ways from a name to an expression: what a run with `--name` selects, the place of
the name in a run without it, and looking the name up in the schema. A run with `--name` could
select several expressions where looking up takes the first. It never does, because the names of a
loaded schema are distinct.

* `SelectsByName` -- what the runs on one schema have to do with one another;
* `runs_select_by_name` -- they do it for every schema that loads, and a run on one that does not
  prints nothing.
-/

namespace EpsilonAutomata.CommandLine

open Schema (FileFault Holds LoadsAs)

/-- **The runs on a schema agree**, those without a name and those with one, in one format and under
    one log filter. -/
structure SelectsByName (read : String → Except FileFault ByteArray) (filter : Option String)
    (path : String) (format : Format) (s : Schema) : Prop where
  /-- A block is a heading with the name and the pattern, and the dump of the automaton as a
      document, -/
  dump_block : format = .dump → ∀ name e, block format (name, e) =
    "# " ++ name ++ ": " ++ e.patternText ++ "\n" ++ ("---\n" ++ e.compile.dump)
  /-- or its listing. -/
  listing_block : format = .listing → ∀ name e, block format (name, e) =
    "# " ++ name ++ ": " ++ e.patternText ++ "\n" ++ (e.compile.listing ++ "\n")
  /-- No name occurs twice. -/
  names_nodup : (s.entries.map Prod.fst).Nodup
  /-- The entries are those of the document, in their order. -/
  in_order : ∃ entries, Holds (read path) entries ∧ List.Forall₂ LoadsAs entries s.entries
  /-- Without a name all blocks are printed. -/
  all : ∀ args, intent args = .print ⟨path, none, format⟩ →
    run args filter read = ⟨0, String.join (s.entries.map (block format)), none,
      s.entries.isEmpty && shows filter nothingSelected⟩
  /-- With a name that is there, one block is printed, -/
  found : ∀ args name e, intent args = .print ⟨path, some name, format⟩ →
    s.get? name = some e → run args filter read = ⟨0, block format (name, e), none, false⟩
  /-- which is the one that a run without a name prints for it. -/
  same_block : ∀ args args' name e, intent args = .print ⟨path, none, format⟩ →
    intent args' = .print ⟨path, some name, format⟩ → s.get? name = some e →
    ∃ before after, s.entries = before ++ (name, e) :: after ∧
      (run args filter read).output = String.join (before.map (block format)) ++
        ((run args' filter read).output ++ String.join (after.map (block format)))
  /-- With a name that is not there, nothing is printed. -/
  missing : ∀ args name, intent args = .print ⟨path, some name, format⟩ →
    s.get? name = none → run args filter read = ⟨0, "", none, shows filter nothingSelected⟩

section Runs

variable {read : String → Except FileFault ByteArray} {filter : Option String} {path : String}
  {format : Format} {s : Schema} {args : List String} {name : String}

/-- What a run with a name leaves behind, by what looking the name up finds. -/
theorem run_named (hargs : intent args = .print ⟨path, some name, format⟩)
    (hload : Schema.ofFile (read path) = .ok s) :
    run args filter read =
      ⟨0, String.join (((s.get? name).map (name, ·)).toList.map (block format)), none,
        (s.get? name).isNone && shows filter nothingSelected⟩ := by
  have hselect : select (some name) s = ((s.get? name).map (name, ·)).toList :=
    Schema.filter_name_eq (Schema.nodup_names hload) name
  rw [run_loaded filter read hargs hload, hselect]
  cases s.get? name <;> rfl

/-- The runs on a schema that loads agree. -/
theorem selectsByName (hload : Schema.ofFile (read path) = .ok s) :
    SelectsByName read filter path format s where
  dump_block := fun hformat name e => by
    rw [hformat]
    rfl
  listing_block := fun hformat name e => by
    rw [hformat]
    rfl
  names_nodup := Schema.nodup_names hload
  in_order := Schema.ofFile_eq_ok_iff.mp hload
  all := fun args hargs => run_loaded filter read hargs hload
  found := fun args name e hargs hget => by
    rw [run_named hargs hload, hget]
    simp
  same_block := fun args args' name e hargs hargs' hget => by
    obtain ⟨before, after, hentries⟩ := Schema.exists_of_get? hget
    refine ⟨before, after, hentries, ?_⟩
    rw [run_loaded filter read hargs hload, run_named hargs' hload, hget]
    show String.join (s.entries.map (block format)) = _
    rw [hentries]
    simp
  missing := fun args name hargs hget => by
    rw [run_named hargs hload, hget]
    rfl

/-- **Selecting by name comes to the same on every way.** Every selection can be asked for, in the
    everyday way unless the path or the name looks like an option; the runs on a schema that loads
    agree; and a run on a schema that does not load prints nothing. The message that nothing was
    selected is a warning, and without a log filter it is shown. -/
theorem runs_select_by_name (read : String → Except FileFault ByteArray) (filter : Option String)
    (path : String) (format : Format) :
    (∀ name, intent (Arguments.commandLine ⟨path, name, format⟩) = .print ⟨path, name, format⟩) ∧
    (isOption path = false → ∀ name, (∀ x ∈ name, isOption x = false) → ∀ given : Option Format,
      intent (words path name given) = .print ⟨path, name, given.getD .dump⟩) ∧
    (∀ s, Schema.ofFile (read path) = .ok s → SelectsByName read filter path format s) ∧
    (∀ e, Schema.ofFile (read path) = .error e → ∀ args name,
      intent args = .print ⟨path, name, format⟩ →
      run args filter read = ⟨1, "", some ("Error: " ++ e.term), false⟩) ∧
    nothingSelected.level = .warn ∧ shows none nothingSelected = true := by
  refine ⟨fun name => intent_commandLine ⟨path, name, format⟩, fun hpath name hname given => ?_,
    fun s hload => selectsByName hload, fun e hload args name hargs => ?_, rfl, by decide⟩
  · exact intent_words hpath hname given
  · exact run_failed filter read hargs hload

/-- Two expressions in both formats, a name that is not there, and a file that is not there. -/
theorem runs_select_by_name_two :
    let text := "expressions:\n  x: empty\n  y:\n    symbol: a\n"
    let read := fun path : String =>
      if path = "s.yaml" then Except.ok text.toUTF8 else Except.error FileFault.notFound
    let x := "# x: ε\n---\nstart: 0\naccept: 1\nstates:\n- id: 0\n  source: Empty\n" ++
      "  transitions:\n  - symbol: null\n    to: 1\n- id: 1\n  source: Empty\n  transitions: []\n"
    let y := "# y: a\n---\nstart: 0\naccept: 1\nstates:\n- id: 0\n  source: Symbol\n" ++
      "  transitions:\n  - symbol: a\n    to: 1\n- id: 1\n  source: Symbol\n  transitions: []\n"
    let listing := "# y: a\nNFA( start: State(0), accept: State(1), num_states: 2, " ++
      "transitions: \x7b\n\tState(0) (Symbol):\n\t\tState(0) -> State(1), symbol: 'a'\n\x7d )\n"
    Schema.ofFile (read "s.yaml") = .ok ⟨[("x", .epsilon), ("y", .symbol 'a')]⟩ ∧
    Schema.ofFile (read "t.yaml") = .error (.file .notFound) ∧
    run ["s.yaml"] none read = ⟨0, x ++ y, none, false⟩ ∧
    run ["s.yaml", "--name", "y"] none read = ⟨0, y, none, false⟩ ∧
    run ["s.yaml", "--name", "z"] none read = ⟨0, "", none, true⟩ ∧
    run ["s.yaml", "--name", "y", "--format", "debug"] none read = ⟨0, listing, none, false⟩ ∧
    (run ["t.yaml", "--name", "y"] none read).output = "" := by
  intro text read x y listing
  have hload : Schema.ofFile (read "s.yaml") = .ok ⟨[("x", .epsilon), ("y", .symbol 'a')]⟩ := by
    decide +kernel
  have hfail : Schema.ofFile (read "t.yaml") = .error (.file .notFound) := by decide +kernel
  obtain ⟨_, hwords, hagree, _, _, hshown⟩ := runs_select_by_name read none "s.yaml" .dump
  obtain ⟨_, _, hagree', _, _, _⟩ := runs_select_by_name read none "s.yaml" .listing
  obtain ⟨_, hwords', _, hfailed, _, _⟩ := runs_select_by_name read none "t.yaml" .dump
  have hdump := hagree _ hload
  have hlisting := hagree' _ hload
  have hx : block .dump ("x", .epsilon) = x := by
    rw [hdump.dump_block rfl]
    decide +kernel
  have hy : block .dump ("y", .symbol 'a') = y := by
    rw [hdump.dump_block rfl]
    decide +kernel
  have hlisted : block .listing ("y", .symbol 'a') = listing := by
    rw [hlisting.listing_block rfl]
    decide +kernel
  have hpath : isOption "s.yaml" = false ∧ isOption "t.yaml" = false := by decide +kernel
  have hy? : ∀ name ∈ some "y", isOption name = false := by decide +kernel
  have hz? : ∀ name ∈ some "z", isOption name = false := by decide +kernel
  refine ⟨hload, hfail, ?_, ?_, ?_, ?_, ?_⟩
  · have hall := hdump.all _ (hwords hpath.1 none (by simp) none)
    simp only [List.map_cons, List.map_nil, hx, hy] at hall
    exact hall
  · have hfound := hdump.found _ "y" (.symbol 'a') (hwords hpath.1 (some "y") hy? none) rfl
    rw [hy] at hfound
    exact hfound
  · have hmissing := hdump.missing _ "z" (hwords hpath.1 (some "z") hz? none) rfl
    rw [hshown] at hmissing
    exact hmissing
  · have hfound := hlisting.found _ "y" (.symbol 'a')
      (hwords hpath.1 (some "y") hy? (some .listing)) rfl
    rw [hlisted] at hfound
    exact hfound
  · have hnone := hfailed _ hfail _ (some "y") (hwords' hpath.2 (some "y") hy? none)
    exact congrArg Outcome.output hnone

end Runs

end EpsilonAutomata.CommandLine
