import EpsilonAutomata.Proofs.Schema.FirstFault
import EpsilonAutomata.Proofs.Yaml.DistinctKeys

/-!
# The names of a schema

A schema keeps its expressions in a list and looks a name up by walking it, so nothing in its type
forbids one name for two expressions. A loaded schema has no such names, because the names are the
keys of one mapping of the document. Looking a name up and filtering by it then find the same.

* `ofFile_eq_ok_iff` -- a file loads as the entries of its document, in their order;
* `nodup_names` -- the names of a loaded schema are distinct;
* `filter_name_eq` -- the entries with a name are the one that is looked up, or none.
-/

namespace EpsilonAutomata.Schema

open Yaml (Value Document)

/-! ## 1. The document of a file -/

/-- **The file holds a document with these entries under the key of the expressions.** -/
def Holds (contents : Except FileFault ByteArray) (entries : List (Value × Value)) : Prop :=
  ∃ bytes text d, contents = .ok bytes ∧ String.fromUTF8? bytes = some text ∧
    Document.read? text = some d ∧ d.get? expressionsKey = some (.mapping entries)

section Loading

variable {contents : Except FileFault ByteArray} {entries : List (Value × Value)}
  {named : List (String × Regex)} {s : Schema} {text : String}

theorem parse_eq_ok_iff : parse text = .ok s ↔
    ∃ d, Document.read? text = some d ∧ ofDocument d = .ok s := by
  unfold parse
  cases Document.read? text <;> simp

/-- **A file loads as the entries of its document**, one by one and in their order. -/
theorem ofFile_eq_ok_iff : ofFile contents = .ok s ↔
    ∃ entries, Holds contents entries ∧ List.Forall₂ LoadsAs entries s.entries := by
  constructor
  · intro h
    match contents with
    | .error _ => cases h
    | .ok bytes =>
        cases htext : String.fromUTF8? bytes with
        | none => simp [ofFile, htext] at h
        | some text =>
            simp only [ofFile, htext] at h
            obtain ⟨d, hread, hdocument⟩ := parse_eq_ok_iff.mp h
            obtain ⟨entries, hget, hall⟩ := ofDocument_eq_ok_iff.mp hdocument
            exact ⟨entries, ⟨bytes, text, d, rfl, htext, hread, hget⟩, hall⟩
  · intro ⟨entries, ⟨bytes, text, d, hcontents, htext, hread, hget⟩, hall⟩
    have hdocument : ofDocument d = .ok s := ofDocument_eq_ok_iff.mpr ⟨entries, hget, hall⟩
    simp only [hcontents, ofFile, htext]
    exact parse_eq_ok_iff.mpr ⟨d, hread, hdocument⟩

/-! ## 2. Distinct names -/

/-- The keys of the entries are the names. -/
theorem map_key_eq (h : List.Forall₂ LoadsAs entries named) :
    entries.map Prod.fst = (named.map Prod.fst).map .string := by
  induction h with
  | nil => rfl
  | cons hentry _ ih =>
      rw [List.map_cons, hentry.1, ih]
      rfl

/-- **The names of a loaded schema are distinct.** -/
theorem nodup_names (h : ofFile contents = .ok s) : (s.entries.map Prod.fst).Nodup := by
  obtain ⟨entries, ⟨_, _, _, _, _, hread, hget⟩, hall⟩ := ofFile_eq_ok_iff.mp h
  exact (Yaml.distinctKeys_iff_nodup (map_key_eq hall)).mp
    (Document.distinctKeys_of_read hread hget)

end Loading

/-! ## 3. Looking up a name -/

section Lookup

variable {s : Schema} {name : String} {e : Regex}

theorem exists_of_get? (h : s.get? name = some e) :
    ∃ before after, s.entries = before ++ (name, e) :: after := by
  obtain ⟨before, after, heq, _⟩ := List.lookup_eq_some_iff.mp h
  exact ⟨before, after, heq⟩

/-- **The entries with a name are the one that is looked up, or none.** -/
theorem filter_name_eq {entries : List (String × Regex)} (h : (entries.map Prod.fst).Nodup)
    (name : String) :
    entries.filter (·.1 = name) = ((entries.lookup name).map (name, ·)).toList := by
  induction entries with
  | nil => rfl
  | cons entry rest ih =>
      obtain ⟨first, e⟩ := entry
      obtain ⟨hnew, hrest⟩ := List.nodup_cons.mp h
      by_cases hname : first = name
      · -- no other entry has the name
        subst hname
        have hothers : rest.filter (·.1 = first) = [] :=
          List.filter_eq_nil_iff.mpr fun entry hmem heq =>
            hnew (List.mem_map.mpr ⟨entry, hmem, of_decide_eq_true heq⟩)
        simp [hothers]
      · have hbeq : (name == first) = false := beq_eq_false_iff_ne.mpr fun heq => hname heq.symm
        simp [List.lookup_cons, hname, hbeq, ih hrest]

end Lookup

end EpsilonAutomata.Schema
