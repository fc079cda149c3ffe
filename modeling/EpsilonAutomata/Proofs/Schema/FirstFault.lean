import EpsilonAutomata.Proofs.Schema.Faces

/-!
# The first fault

The loader interleaves its checks with the loading of what stands below. None of this shows in the
answer: it is the fault of the first face that has one, in the order in which the faces stand in the
document, and a document without such a face is loaded entry by entry.

* `errorOf?_loadNode` -- the error of a value, by its nodes;
* `ofDocument_eq_error_iff` -- the error of a document, by its faces;
* `ofDocument_eq_ok_iff` -- the schema of a document, by its entries;
* `parse_first_fault` -- both for a text, and that nothing behind the first fault has a part in it.
-/

namespace EpsilonAutomata.Schema

open Yaml (Value Document)

/-! ## 1. Errors -/

/-- The error of a loading that failed. -/
def errorOf? {α : Type} : Except LoadError α → Option LoadError
  | .ok _ => none
  | .error e => some e

section Errors

variable {α β : Type} {x : Except LoadError α} {e : LoadError}

theorem errorOf?_eq_some_iff : errorOf? x = some e ↔ x = .error e := by
  cases x <;> simp [errorOf?]

theorem errorOf?_map (f : α → β) (x : Except LoadError α) : errorOf? (x.map f) = errorOf? x := by
  cases x <;> rfl

/-- Of two steps the error of the first counts. -/
theorem errorOf?_bind {f : α → Except LoadError β} {rest : Option LoadError}
    (h : ∀ a, x = .ok a → errorOf? (f a) = rest) :
    errorOf? (x.bind f) = (errorOf? x).or rest := by
  cases x with
  | error _ => rfl
  | ok a => exact h a rfl

theorem findSome?_cons_eq_or {γ : Type} (f : α → Option γ) (x : α) (xs : List α) :
    (x :: xs).findSome? f = (f x).or (xs.findSome? f) := by
  rw [List.findSome?_cons]
  cases f x <;> rfl

theorem findSome?_flatMap {γ : Type} (xs : List α) (f : α → List β) (g : β → Option γ) :
    (xs.flatMap f).findSome? g = xs.findSome? fun x => (f x).findSome? g := by
  simp only [← List.head?_filterMap, List.filterMap_flatMap, List.head?_flatMap]

/-- **A list is loaded from left to right**: the first error counts. -/
theorem errorOf?_mapM (f : α → Except LoadError β) (xs : List α) :
    errorOf? (xs.mapM f) = xs.findSome? fun x => errorOf? (f x) := by
  induction xs with
  | nil => rfl
  | cons x xs ih =>
      rw [List.mapM_cons, List.findSome?_cons]
      cases hx : f x with
      | error _ => rfl
      | ok _ =>
          rw [← ih]
          cases xs.mapM f <;> rfl

/-- A list loads as the results one by one. -/
theorem mapM_eq_ok_iff {f : α → Except LoadError β} {xs : List α} {ys : List β} :
    xs.mapM f = .ok ys ↔ List.Forall₂ (fun x y => f x = .ok y) xs ys := by
  induction xs generalizing ys with
  | nil =>
      rw [List.mapM_nil, List.forall₂_nil_left_iff]
      exact ⟨fun h => (Except.ok.inj h).symm, fun h => congrArg Except.ok h.symm⟩
  | cons x xs ih =>
      rw [List.mapM_cons, List.forall₂_cons_left_iff]
      constructor
      · intro h
        obtain ⟨y, hx, hrest⟩ := bind_eq_ok_iff.mp h
        obtain ⟨ys, hxs, hys⟩ := bind_eq_ok_iff.mp hrest
        exact ⟨y, ys, hx, ih.mp hxs, (Except.ok.inj hys).symm⟩
      · rintro ⟨y, ys, hx, hxs, rfl⟩
        exact bind_eq_ok_iff.mpr ⟨y, hx, bind_eq_ok_iff.mpr ⟨ys, ih.mpr hxs, rfl⟩⟩

end Errors

/-! ## 2. Nodes -/

/-- The first fault of some faces. -/
def firstFault? (fs : List Face) : Option LoadError := fs.findSome? Face.fault?

variable {v : Value} {e : LoadError} {join : Regex → Regex → Regex} {items : List Value}

theorem errorOf?_loadMore (joined : Regex) (items : List Value) :
    errorOf? (loadMore join joined items) = items.findSome? fun w => errorOf? (loadNode w) := by
  induction items generalizing joined with
  | nil => rfl
  | cons w rest ih =>
      rw [loadMore, errorOf?_bind fun e _ => ih (join joined e), findSome?_cons_eq_or]

theorem errorOf?_symbolOf (text : String) :
    errorOf? (symbolOf text) = (Face.symbol (some text)).fault? := by
  rw [symbolOf, Face.fault?, ← String.length_toList]
  split
  · rename_i c htext
    rw [htext]
    rfl
  · rename_i hother
    have hlen : text.toList.length ≠ 1 := fun h => by
      obtain ⟨c, hc⟩ := List.length_eq_one_iff.mp h
      exact hother c hc
    rw [if_neg hlen]
    rfl

theorem errorOf?_loadOperands (op : Operator) (v : Value) :
    errorOf? (loadOperands op.join v) = (Face.operator op (operandsOf v)).fault?.or
      ((itemsOf v).findSome? fun w => errorOf? (loadNode w)) := by
  match v with
  | .sequence (first :: second :: rest) =>
      rw [loadOperands, loadItems, errorOf?_bind fun e _ => errorOf?_loadMore e (second :: rest)]
      exact (findSome?_cons_eq_or (fun w => errorOf? (loadNode w)) first (second :: rest)).symm
  | .sequence [] | .sequence [_] => rfl
  | .null | .bool _ | .number _ | .string _ | .mapping _ | .tagged _ _ => rfl

/-- A value has the error of its face, or else the first error of the nodes right below. -/
theorem errorOf?_loadNode_eq (v : Value) : errorOf? (loadNode v) =
    (face v).fault?.or ((below v).findSome? fun w => errorOf? (loadNode w)) := by
  match v with
  | .string text =>
      rw [loadNode, face, Face.fault?]
      split <;> rfl
  | .mapping [(.string kind, operand)] =>
      show errorOf? (loadNode (node kind operand)) = (face (node kind operand)).fault?.or
        ((below (node kind operand)).findSome? fun w => errorOf? (loadNode w))
      by_cases hkind : kind ∈ keys
      · obtain rfl | rfl | ⟨op, rfl⟩ := mem_keys_iff.mp hkind
        · rw [face_symbol, below_symbol, List.findSome?_nil, Option.or_none]
          cases operand with
          | string text =>
              rw [loadNode_symbol]
              exact errorOf?_symbolOf text
          | null | bool | number | sequence | mapping | tagged => rfl
        · rw [face_iterate, below_iterate, loadNode_iterate, errorOf?_map, List.findSome?_singleton]
          rfl
        · rw [face_operator, below_operator, loadNode_operator]
          exact errorOf?_loadOperands op operand
      · rw [face_otherKey hkind, below_otherKey hkind, loadNode_otherKey hkind]
        rfl
  | .mapping [] => rfl
  | .mapping (_ :: _ :: _) =>
      simp only [loadNode, loadEntries, face, below]
      rfl
  | .mapping [(.null, _)] | .mapping [(.bool _, _)] | .mapping [(.number _, _)]
  | .mapping [(.sequence _, _)] | .mapping [(.mapping _, _)] | .mapping [(.tagged _ _, _)] => rfl
  | .null | .bool _ | .number _ | .sequence _ | .tagged _ _ => rfl

/-- **The error of a value is the first fault of its nodes.** -/
theorem errorOf?_loadNode (v : Value) :
    errorOf? (loadNode v) = firstFault? ((nodes v).map face) := by
  have hbelow : ∀ w ∈ below v, errorOf? (loadNode w) = firstFault? ((nodes w).map face) :=
    fun w hw => errorOf?_loadNode w
  have hcongr : ((below v).findSome? fun w => errorOf? (loadNode w)) =
      (below v).findSome? fun w => firstFault? ((nodes w).map face) := by
    rw [← List.head?_filterMap, List.filterMap_congr hbelow, List.head?_filterMap]
  rw [errorOf?_loadNode_eq, hcongr, nodes_eq, List.map_cons, List.map_flatMap, firstFault?,
    findSome?_cons_eq_or, findSome?_flatMap]
  rfl
termination_by sizeOf v
decreasing_by exact sizeOf_below_lt hw

/-! ## 3. Documents -/

variable {d d' : Document} {fs : List Face}

theorem firstFault?_cons (f : Face) (fs : List Face) :
    firstFault? (f :: fs) = f.fault?.or (firstFault? fs) :=
  findSome?_cons_eq_or Face.fault? f fs

/-- The name of an entry is checked before its nodes. -/
theorem errorOf?_loadNamed (entry : Value × Value) :
    errorOf? (loadNamed entry) = firstFault? (facesOfEntry entry) := by
  obtain ⟨key, v⟩ := entry
  rw [facesOfEntry, firstFault?_cons]
  match key with
  | .string name =>
      rw [loadNamed, errorOf?_map, errorOf?_loadNode]
      rfl
  | .null | .bool _ | .number _ | .sequence _ | .mapping _ | .tagged _ _ => rfl

/-- **The error of a document is the first fault of its faces.** -/
theorem errorOf?_ofDocument (d : Document) : errorOf? (ofDocument d) = firstFault? (faces d) := by
  rw [ofDocument, faces]
  match d.get? expressionsKey with
  | none => rfl
  | some (.mapping entries) =>
      have hentries : (fun entry => errorOf? (loadNamed entry)) =
          fun entry => firstFault? (facesOfEntry entry) := funext errorOf?_loadNamed
      show errorOf? ((entries.mapM loadNamed).map Schema.mk) = _
      rw [errorOf?_map, errorOf?_mapM, hentries, firstFault?_cons, firstFault?, findSome?_flatMap]
      rfl
  | some .null | some (.bool _) | some (.number _) | some (.string _) | some (.sequence _)
  | some (.tagged _ _) => rfl

/-- **The first of the faces that may be at fault**: nothing is wrong with those in front of it. -/
def IsFirst (fs : List Face) (f : Face) : Prop :=
  ∃ before after, fs = before ++ f :: after ∧ ∀ g ∈ before, g.fault? = none

theorem firstFault?_eq_some_iff {e : LoadError} :
    firstFault? fs = some e ↔ ∃ f, IsFirst fs f ∧ f.fault? = some e := by
  rw [firstFault?, List.findSome?_eq_some_iff]
  constructor
  · rintro ⟨before, f, after, hfs, hf, hbefore⟩
    exact ⟨f, ⟨before, after, hfs, hbefore⟩, hf⟩
  · rintro ⟨f, ⟨before, after, hfs, hbefore⟩, hf⟩
    exact ⟨before, f, after, hfs, hf, hbefore⟩

theorem ofDocument_eq_error_iff :
    ofDocument d = .error e ↔ ∃ f, IsFirst (faces d) f ∧ f.fault? = some e := by
  rw [← errorOf?_eq_some_iff, errorOf?_ofDocument, firstFault?_eq_some_iff]

/-- Documents that look alike up to a fault have the same error. -/
theorem ofDocument_eq_of_prefix (h : fs <+: faces d) (h' : fs <+: faces d')
    (hfault : ∃ f ∈ fs, f.fault? ≠ none) : ofDocument d' = ofDocument d := by
  have hsome : firstFault? fs ≠ none := by
    obtain ⟨f, hf, hne⟩ := hfault
    exact fun hnone => hne (List.findSome?_eq_none_iff.mp hnone f hf)
  obtain ⟨e, he⟩ := Option.ne_none_iff_exists'.mp hsome
  have herror : ∀ {c : Document}, fs <+: faces c → ofDocument c = .error e := fun hc => by
    rw [← errorOf?_eq_some_iff, errorOf?_ofDocument]
    exact hc.findSome?_eq_some he
  rw [herror h, herror h']

/-- The entry loads as this name with this expression. -/
def LoadsAs (entry : Value × Value) (named : String × Regex) : Prop :=
  entry.1 = .string named.1 ∧ loadNode entry.2 = .ok named.2

theorem loadNamed_eq_ok_iff {entry : Value × Value} {named : String × Regex} :
    loadNamed entry = .ok named ↔ LoadsAs entry named := by
  obtain ⟨key, v⟩ := entry
  obtain ⟨name, e⟩ := named
  match key with
  | .string text =>
      rw [loadNamed, LoadsAs]
      cases loadNode v <;> simp [Except.map]
  | .null | .bool _ | .number _ | .sequence _ | .mapping _ | .tagged _ _ =>
      simp [loadNamed, LoadsAs]

/-- **The schema of a document** has one entry for each of the document's, in their order. -/
theorem ofDocument_eq_ok_iff {s : Schema} : ofDocument d = .ok s ↔
    ∃ entries, d.get? expressionsKey = some (.mapping entries) ∧
      List.Forall₂ LoadsAs entries s.entries := by
  rw [ofDocument]
  match d.get? expressionsKey with
  | some (.mapping entries) =>
      show (entries.mapM loadNamed).map Schema.mk = .ok s ↔ _
      have hnamed : ∀ named, entries.mapM loadNamed = .ok named ↔
          List.Forall₂ LoadsAs entries named := fun named => by
        simp only [mapM_eq_ok_iff, loadNamed_eq_ok_iff]
      constructor
      · intro h
        cases hmap : entries.mapM loadNamed with
        | error _ =>
            rw [hmap] at h
            cases h
        | ok named =>
            rw [hmap] at h
            cases h
            exact ⟨entries, rfl, (hnamed named).mp hmap⟩
      · rintro ⟨_, hentries, hall⟩
        cases hentries
        rw [(hnamed _).mpr hall]
        rfl
  | none | some .null | some (.bool _) | some (.number _) | some (.string _) | some (.sequence _)
  | some (.tagged _ _) => simp

/-- A document has a schema if it has entries with names, and all their values load. -/
theorem exists_ofDocument_iff : (∃ s, ofDocument d = .ok s) ↔
    ∃ entries, d.get? expressionsKey = some (.mapping entries) ∧
      ∀ entry ∈ entries, (∃ name, entry.1 = .string name) ∧ ∃ e, loadNode entry.2 = .ok e := by
  have hentry : ∀ entry, (∃ named, LoadsAs entry named) ↔
      (∃ name, entry.1 = .string name) ∧ ∃ e, loadNode entry.2 = .ok e := fun entry => by
    constructor
    · rintro ⟨named, hname, he⟩
      exact ⟨⟨_, hname⟩, _, he⟩
    · rintro ⟨⟨name, hname⟩, e, he⟩
      exact ⟨(name, e), hname, he⟩
  constructor
  · rintro ⟨s, hs⟩
    obtain ⟨entries, hget, hall⟩ := ofDocument_eq_ok_iff.mp hs
    refine ⟨entries, hget, fun entry hmem => (hentry entry).mp ?_⟩
    exact exists_forall₂_iff.mp ⟨_, hall⟩ entry hmem
  · rintro ⟨entries, hget, hall⟩
    obtain ⟨named, hnamed⟩ := exists_forall₂_iff.mpr fun entry hmem =>
      (hentry entry).mpr (hall entry hmem)
    exact ⟨⟨named⟩, ofDocument_eq_ok_iff.mpr ⟨entries, hget, hnamed⟩⟩

/-! ## 4. Texts -/

theorem parse_eq {text : String} (h : Document.read? text = some d) : parse text = ofDocument d := by
  rw [parse, h]

/-- **All or nothing, and the first fault is the answer.** A text that is a document has a schema if
    and only if there is a mapping under the key of the expressions, all of whose keys are strings
    and all of whose values load; the schema then has one entry for each, in their order. Otherwise
    the error is the fault of the first face that has one. Nothing behind this face changes the
    error, and neither does any other key of the document. -/
theorem parse_first_fault {text : String} {d : Document} (h : Document.read? text = some d) :
    ((∃ s, parse text = .ok s) ↔ ∃ entries, d.get? expressionsKey = some (.mapping entries) ∧
      ∀ entry ∈ entries, (∃ name, entry.1 = .string name) ∧ ∃ e, loadNode entry.2 = .ok e) ∧
    (∀ s, parse text = .ok s ↔ ∃ entries, d.get? expressionsKey = some (.mapping entries) ∧
      List.Forall₂ LoadsAs entries s.entries) ∧
    (∀ e, parse text = .error e ↔ ∃ f, IsFirst (faces d) f ∧ f.fault? = some e) ∧
    (∀ text' d' fs, Document.read? text' = some d' → fs <+: faces d → fs <+: faces d' →
      (∃ f ∈ fs, f.fault? ≠ none) → parse text' = parse text) ∧
    ∀ text' d', Document.read? text' = some d' →
      d'.get? expressionsKey = d.get? expressionsKey → parse text' = parse text := by
  rw [parse_eq h]
  refine ⟨exists_ofDocument_iff, fun s => ofDocument_eq_ok_iff, fun e => ofDocument_eq_error_iff,
    fun text' d' fs h' hfs hfs' hfault => ?_, fun text' d' h' hget => ?_⟩
  · rw [parse_eq h']
    exact ofDocument_eq_of_prefix hfs hfs' hfault
  · rw [parse_eq h', ofDocument, ofDocument, hget]

/-- A union whose operands are both at fault, in front of a name that is no string: the first operand
    is the answer. -/
theorem parse_first_fault_operand :
    let text := "expressions:\n  x:\n    union:\n    - symbol: ab\n    - plus: empty\n  3: empty\n"
    (∃ d, Document.read? text = some d ∧ IsFirst (faces d) (.symbol (some "ab"))) ∧
      parse text = .error (.invalidSymbol "ab") := by
  intro text
  have hfaces : (Document.read? text).map faces = some
      ([.expressions true, .name true, .operator .union .enough] ++
        .symbol (some "ab") :: [.otherKey "plus" (by decide), .name false, .word "empty"]) := by
    decide +kernel
  obtain ⟨d, hd, hlist⟩ := Option.map_eq_some_iff.mp hfaces
  have hfirst : IsFirst (faces d) (.symbol (some "ab")) := ⟨_, _, hlist, by decide⟩
  exact ⟨⟨d, hd, hfirst⟩, ((parse_first_fault hd).2.2.1 _).mpr ⟨_, hfirst, rfl⟩⟩

end EpsilonAutomata.Schema
