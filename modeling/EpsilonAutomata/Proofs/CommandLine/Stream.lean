import EpsilonAutomata.Proofs.CommandLine.Outcome
import EpsilonAutomata.Proofs.Letters
import EpsilonAutomata.Proofs.Yaml.DumpLines
import Mathlib.Algebra.BigOperators.Group.List.Basic

/-!
# The printed stream

A run that prints dumps prints a stream of documents, each behind a heading that is meant as a
comment. Which characters end a line is left open, as long as the line feed does and no character
does that no reader takes for a line break.

* `linesOf_heading_iff` -- a heading has the name and the symbols of an expression as they are, so
  it is one line only if no character of theirs ends a line;
* `withoutComments_output_iff` -- without its comment lines, the stream is that of the documents if
  every line of every heading is a comment, and only then.
-/

namespace EpsilonAutomata

/-! ## 1. The characters of a pattern -/

namespace Regex

/-- The characters that a pattern has besides the letters of the expression. -/
def patternSigns : List Char := ['|', '*', '(', ')', '\\', 'ε']

section Pattern

variable {chars : List Char}

theorem bracketed_subset (hsigns : patternSigns ⊆ chars) {least : Nat} {e : Regex} {text : String}
    (h : text.toList ⊆ chars) : (bracketed least e text).toList ⊆ chars := by
  unfold bracketed
  split
  · rw [String.toList_append, String.toList_append, List.append_subset, List.append_subset]
    exact ⟨⟨List.Subset.trans (by decide) hsigns, h⟩, List.Subset.trans (by decide) hsigns⟩
  · exact h

theorem subset_bracketed {least : Nat} {e : Regex} {text : String} (h : chars ⊆ text.toList) :
    chars ⊆ (bracketed least e text).toList := by
  unfold bracketed
  split
  · rw [String.toList_append, String.toList_append]
    exact List.subset_append_of_subset_left _ (List.subset_append_of_subset_right _ h)
  · exact h

/-- **The characters of a pattern are the letters of the expression and the signs.** -/
theorem patternText_subset (hsigns : patternSigns ⊆ chars) {e : Regex} (h : e.letters ⊆ chars) :
    e.patternText.toList ⊆ chars := by
  induction e with
  | epsilon => exact List.Subset.trans (by decide) hsigns
  | symbol c =>
      have hself : c.toString.toList ⊆ chars := by simpa [letters] using h
      unfold patternText symbolText
      split
      · rw [String.toList_append, List.append_subset]
        exact ⟨List.Subset.trans (by decide) hsigns, hself⟩
      · exact hself
  | union l r ihl ihr =>
      rw [letters, List.append_subset] at h
      simp only [patternText, String.toList_append, List.append_subset]
      exact ⟨⟨bracketed_subset hsigns (ihl h.1), List.Subset.trans (by decide) hsigns⟩,
        bracketed_subset hsigns (ihr h.2)⟩
  | concat l r ihl ihr =>
      rw [letters, List.append_subset] at h
      simp only [patternText, String.toList_append, List.append_subset]
      exact ⟨bracketed_subset hsigns (ihl h.1), bracketed_subset hsigns (ihr h.2)⟩
  | star b ih =>
      simp only [patternText, String.toList_append, List.append_subset]
      exact ⟨bracketed_subset hsigns (ih h), List.Subset.trans (by decide) hsigns⟩

theorem letters_subset_patternText (e : Regex) : e.letters ⊆ e.patternText.toList := by
  induction e with
  | epsilon => exact List.nil_subset _
  | symbol c =>
      unfold letters patternText symbolText
      split <;> simp
  | union l r ihl ihr =>
      simp only [letters, patternText, String.toList_append, List.append_subset]
      exact ⟨List.subset_append_of_subset_left _
          (List.subset_append_of_subset_left _ (subset_bracketed ihl)),
        List.subset_append_of_subset_right _ (subset_bracketed ihr)⟩
  | concat l r ihl ihr =>
      simp only [letters, patternText, String.toList_append, List.append_subset]
      exact ⟨List.subset_append_of_subset_left _ (subset_bracketed ihl),
        List.subset_append_of_subset_right _ (subset_bracketed ihr)⟩
  | star b ih =>
      simp only [letters, patternText, String.toList_append]
      exact List.subset_append_of_subset_left _ (subset_bracketed ih)

end Pattern

end Regex

namespace CommandLine

open Text (LineEnds EndsLine breaksLine linesOf linesOf_eq_singleton_iff withoutComments
  withoutComments_append withoutComments_flatMap withoutComments_eq_nil_iff)
open Regex (patternSigns)

/-! ## 2. Headings and documents -/

/-- The heading of an expression, up to the end of its line. -/
def title (entry : String × Regex) : String :=
  "# " ++ entry.1 ++ ": " ++ entry.2.patternText

/-- The heading of an expression. -/
def heading (entry : String × Regex) : String := title entry ++ "\n"

/-- The document of an expression. -/
def document (e : Regex) : String := "---\n" ++ e.compile.dump

/-- **The documents of a selection, in order.** -/
def documents (entries : List (String × Regex)) : String :=
  String.join (entries.map fun entry => document entry.2)

/-- The characters that a title has besides the name and the letters of the expression. -/
def titleSigns : List Char := ['#', ' ', ':'] ++ patternSigns

theorem title_subset (entry : String × Regex) :
    (title entry).toList ⊆ (entry.1.toList ++ entry.2.letters) ++ titleSigns := by
  have hname : entry.1.toList ⊆ (entry.1.toList ++ entry.2.letters) ++ titleSigns := by simp
  have hsigns {chars : List Char} (h : chars ⊆ titleSigns) :
      chars ⊆ (entry.1.toList ++ entry.2.letters) ++ titleSigns :=
    List.subset_append_of_subset_right _ h
  have hpattern : entry.2.patternText.toList ⊆
      (entry.1.toList ++ entry.2.letters) ++ titleSigns :=
    Regex.patternText_subset (hsigns (by decide)) (by simp)
  simp only [title, String.toList_append, List.append_subset]
  exact ⟨⟨⟨hsigns (by decide), hname⟩, hsigns (by decide)⟩, hpattern⟩

theorem subset_title (entry : String × Regex) :
    entry.1.toList ++ entry.2.letters ⊆ (title entry).toList := by
  have hletters := Regex.letters_subset_patternText entry.2
  rw [title, String.toList_append, String.toList_append, String.toList_append, List.append_subset]
  exact ⟨fun c hc => by simp [hc], List.subset_append_of_subset_right _ hletters⟩

section Lines

variable {ends : Char → Bool}

/-- **A heading is one line if no character of the name and no symbol ends a line**, and only
    then. -/
theorem linesOf_heading_iff (hends : LineEnds ends)
    (entry : String × Regex) :
    linesOf ends (heading entry).toList = [(heading entry).toList] ↔
      ∀ c ∈ entry.1.toList ++ entry.2.letters, ends c = false := by
  rw [heading, String.toList_append]
  refine linesOf_eq_singleton_iff.trans ⟨fun h c hc => h c (subset_title entry hc), fun h => ?_⟩
  have hsigns : ∀ c ∈ titleSigns, breaksLine c = false := by
    simp [titleSigns, patternSigns, breaksLine]
  intro c hc
  rcases List.mem_append.mp (title_subset entry hc) with hc | hc
  · exact h c hc
  · exact hends.eq_false (hsigns c hc)

/-- A heading is made of lines. -/
theorem endsLine_heading (hends : LineEnds ends) (entry : String × Regex) :
    EndsLine ends (heading entry).toList := by
  rw [heading, String.toList_append]
  exact .concat hends.feed _

/-- A document is made of lines, -/
theorem endsLine_document (hends : LineEnds ends) (e : Regex) :
    EndsLine ends (document e).toList := by
  rw [document, String.toList_append]
  exact .append (.concat hends.feed "---".toList) (e.compile.endsLine_dump hends.feed)

/-- and none of them is a comment. -/
theorem withoutComments_document (hends : LineEnds ends) (e : Regex) :
    withoutComments ends (document e).toList = (document e).toList :=
  Text.withoutComments_of_hashQuoted (hends.eq_false rfl)
    (.append (by decide) e.compile.hashQuoted_dump)

end Lines

/-! ## 3. The stream -/

section Stream

/-- Pieces with nothing in front of them. -/
theorem flatMap_append_eq_iff {α β : Type} {f g : α → List β} {xs : List α} :
    (xs.flatMap fun x => f x ++ g x) = xs.flatMap g ↔ ∀ x ∈ xs, f x = [] := by
  constructor
  · intro h
    have hlength := congrArg List.length h
    simp only [List.length_flatMap, List.length_append, List.sum_map_add] at hlength
    have hzero : (xs.map fun x => (f x).length).sum = 0 := by omega
    rw [List.sum_eq_zero_iff_forall_eq_nat, List.forall_mem_map] at hzero
    exact fun x hx => List.eq_nil_of_length_eq_zero (hzero x hx)
  · intro h
    refine List.flatMap_congr fun x hx => ?_
    rw [h x hx, List.nil_append]

variable {ends : Char → Bool} {args : List String} (filter : Option String)
  (read : String → Except Schema.FileFault ByteArray) {a : Arguments} {s : Schema}

/-- What a run prints if the schema loads. -/
theorem output_run (hargs : intent args = .print a) (hload : Schema.ofFile (read a.path) = .ok s) :
    (run args filter read).output = String.join ((select a.name s).map (block a.format)) := by
  rw [run_loaded filter read hargs hload]

/-- **The stream without its comment lines.** -/
theorem withoutComments_blocks (hends : LineEnds ends) (entries : List (String × Regex)) :
    withoutComments ends (String.join (entries.map (block .dump))).toList =
      entries.flatMap fun entry =>
        withoutComments ends (heading entry).toList ++ (document entry.2).toList := by
  have hblock (entry : String × Regex) :
      (block .dump entry).toList = (heading entry).toList ++ (document entry.2).toList := by
    rw [← String.toList_append]
    rfl
  rw [String.toList_join, List.flatMap_map, withoutComments_flatMap fun entry _ => ?_]
  · refine List.flatMap_congr fun entry _ => ?_
    rw [hblock, withoutComments_append (endsLine_heading hends entry),
      withoutComments_document hends]
  · rw [hblock]
    exact (endsLine_heading hends entry).append (endsLine_document hends entry.2)

theorem toList_documents (entries : List (String × Regex)) :
    (documents entries).toList = entries.flatMap fun entry => (document entry.2).toList := by
  rw [documents, String.toList_join, List.flatMap_map]

/-- **The stream without its comment lines.** It is the stream of the documents if every line of
    every heading is a comment, and only then. If no character of a selected name and no symbol ends
    a line, every heading is one line, and what is left is the stream of the documents. -/
theorem withoutComments_output_iff (hends : LineEnds ends) (hargs : intent args = .print a)
    (hformat : a.format = .dump) (hload : Schema.ofFile (read a.path) = .ok s) :
    (withoutComments ends (run args filter read).output.toList =
        (documents (select a.name s)).toList ↔
      ∀ entry ∈ select a.name s, ∀ line ∈ linesOf ends (heading entry).toList,
        line.head? = some '#') ∧
    ((∀ entry ∈ select a.name s, ∀ c ∈ entry.1.toList ++ entry.2.letters, ends c = false) →
      (∀ entry ∈ select a.name s,
        linesOf ends (heading entry).toList = [(heading entry).toList]) ∧
      withoutComments ends (run args filter read).output.toList =
        (documents (select a.name s)).toList) := by
  have hiff : withoutComments ends (run args filter read).output.toList =
        (documents (select a.name s)).toList ↔
      ∀ entry ∈ select a.name s, ∀ line ∈ linesOf ends (heading entry).toList,
        line.head? = some '#' := by
    rw [output_run filter read hargs hload, hformat, withoutComments_blocks hends, toList_documents,
      flatMap_append_eq_iff]
    exact forall₂_congr fun entry _ => withoutComments_eq_nil_iff
  refine ⟨hiff, fun h => ?_⟩
  have hone : ∀ entry ∈ select a.name s,
      linesOf ends (heading entry).toList = [(heading entry).toList] := fun entry hentry =>
    (linesOf_heading_iff hends entry).mpr (h entry hentry)
  refine ⟨hone, hiff.mpr fun entry hentry line hline => ?_⟩
  rw [hone entry hentry, List.mem_singleton] at hline
  rw [hline, heading, title]
  simp

/-- A name that begins with `#`, and as symbols `#` and a line separator, which is no line feed. -/
theorem withoutComments_output_hash :
    let text :=
      "expressions:\n  \x22# x\x22:\n    union:\n    - symbol: \x22#\x22\n" ++
        "    - symbol: \x22\\L\x22\n  y: empty\n"
    let output := (run ["x.yaml", "--name", "# x"] none fun _ => .ok text.toUTF8).output
    let entries := [("# x", Regex.union (.symbol '#') (.symbol '\u2028'))]
    Schema.ofFile (.ok text.toUTF8) = .ok ⟨entries ++ [("y", .epsilon)]⟩ ∧
      withoutComments (· = '\n') output.toList = (documents entries).toList := by
  intro text output entries
  have hload : Schema.ofFile (.ok text.toUTF8) = .ok ⟨entries ++ [("y", .epsilon)]⟩ := by
    decide +kernel
  have hargs : intent ["x.yaml", "--name", "# x"] = .print ⟨"x.yaml", some "# x", .dump⟩ := by
    decide +kernel
  have hselect : select (some "# x") ⟨entries ++ [("y", .epsilon)]⟩ = entries := by decide
  have hunbroken : ∀ entry ∈ select (some "# x") ⟨entries ++ [("y", .epsilon)]⟩,
      ∀ c ∈ entry.1.toList ++ entry.2.letters, decide (c = '\n') = false := by
    rw [hselect]
    simp [entries, Regex.letters, or_imp, forall_and]
  have hleft := ((withoutComments_output_iff none (fun _ => .ok text.toUTF8) Text.lineEnds_feed
    hargs rfl hload).2 hunbroken).2
  rw [hselect] at hleft
  exact ⟨hload, hleft⟩

/-- A name with a line feed: its second line is no comment. -/
theorem withoutComments_output_feed :
    let text := "expressions:\n  \x22a\\nb\x22: empty\n"
    let output := (run ["x.yaml"] none fun _ => .ok text.toUTF8).output
    let entries := [("a\nb", Regex.epsilon)]
    Schema.ofFile (.ok text.toUTF8) = .ok ⟨entries⟩ ∧
      withoutComments (· = '\n') output.toList = "b: ε\n".toList ++ (documents entries).toList ∧
      withoutComments (· = '\n') output.toList ≠ (documents entries).toList := by
  intro text output entries
  have hload : Schema.ofFile (.ok text.toUTF8) = .ok ⟨entries⟩ := by decide +kernel
  have hargs : intent ["x.yaml"] = .print ⟨"x.yaml", none, .dump⟩ := by decide +kernel
  have houtput : output = String.join (entries.map (block .dump)) :=
    output_run none (fun _ => .ok text.toUTF8) hargs hload
  have hleft : withoutComments (· = '\n') output.toList =
      "b: ε\n".toList ++ (documents entries).toList := by
    rw [houtput]
    decide +kernel
  refine ⟨hload, hleft, fun h => ?_⟩
  have hnil := List.append_left_eq_self.mp (hleft.symm.trans h)
  exact absurd hnil (by decide)

end Stream

end CommandLine

end EpsilonAutomata
