import EpsilonAutomata.Yaml.Value.Document

/-!
# Distinct keys

A mapping with two equal keys is refused while a document is read. This is one postcondition of the
reading: if what is read is a mapping, no key occurs twice in it (`gives_keysDistinct`). Only the
reading of a mapping has to look at keys; a scalar is never read as a mapping, and a tag that
changes a collection makes it something else.

* `distinctKeys_iff_nodup` -- keys that are strings are distinct if the strings are;
* `Document.distinctKeys_of_read` -- the mapping under a key of a document has distinct keys.
-/

namespace EpsilonAutomata.Yaml

/-! ## 1. Keys -/

theorem distinctKeys_iff {entries : List (Value × Value)} :
    Value.distinctKeys entries = true ↔
      (entries.map Prod.fst).Pairwise fun k l => Value.same k l = false := by
  induction entries with
  | nil => simp [Value.distinctKeys]
  | cons entry rest ih => simp [Value.distinctKeys, ih]

/-- **Keys that are strings are distinct if the strings are**, and only then. -/
theorem distinctKeys_iff_nodup {entries : List (Value × Value)} {names : List String}
    (h : entries.map Prod.fst = names.map .string) :
    Value.distinctKeys entries = true ↔ names.Nodup := by
  rw [distinctKeys_iff, h, List.pairwise_map, List.Nodup]
  simp only [Value.same, decide_eq_false_iff_not, ne_eq]

/-! ## 2. Scalars -/

section Scalars

variable {tag : Option (List Octet)} {style : ScalarStyle} {text : String}
  {entries : List (Value × Value)}

theorem plainValue?_ne_mapping : plainValue? text ≠ some (.mapping entries) := by
  unfold plainValue?
  repeat' split
  all_goals simp

theorem untaggedValue?_ne_mapping : untaggedValue? style text ≠ some (.mapping entries) := by
  unfold untaggedValue?
  split
  · exact plainValue?_ne_mapping
  · simp

theorem commonValue?_ne_mapping {octets : List Octet} :
    commonValue? octets style text ≠ some (.mapping entries) := by
  unfold commonValue?
  repeat' split
  all_goals simp [untaggedValue?_ne_mapping]

/-- No scalar is read as a mapping. -/
theorem scalarValue?_ne_mapping : scalarValue? tag style text ≠ some (.mapping entries) := by
  unfold scalarValue?
  repeat' split
  · exact untaggedValue?_ne_mapping
  · simp
  · exact commonValue?_ne_mapping

end Scalars

/-! ## 3. What a reading gives -/

/-- Whatever the reading gives has the property. -/
def Reading.Gives {α : Type} (r : Reading α) (p : α → Prop) : Prop :=
  ∀ i a j, r.run i = some (a, j) → p a

namespace Reading.Gives

variable {α β : Type} {p : α → Prop} {q : β → Prop} {r : Reading α} {f : α → Reading β}

theorem pure {a : α} (h : p a) : Gives (pure a) p := by
  intro i a' j hrun
  cases hrun
  exact h

theorem lift {x : Option α} (h : ∀ a, x = some a → p a) : Gives (StateT.lift x) p := by
  intro i a j hrun
  cases x with
  | none => cases hrun
  | some a' =>
      cases hrun
      exact h a rfl

theorem failure : Gives (failure : Reading α) p := nofun

theorem bind (hr : r.Gives p) (hf : ∀ a, p a → (f a).Gives q) : (r >>= f).Gives q := by
  intro i b k hrun
  rw [StateT.run_bind] at hrun
  obtain ⟨⟨a, j⟩, hfirst, hrest⟩ := Option.bind_eq_some_iff.mp hrun
  exact hf a (hr i a j hfirst) j b k hrest

/-- Readings one behind the other. -/
theorem mapM {xs : List α} {f : α → Reading β} (h : ∀ x ∈ xs, (f x).Gives q) :
    (xs.mapM f).Gives fun ys => ∀ y ∈ ys, q y := by
  induction xs with
  | nil =>
      rw [List.mapM_nil]
      exact .pure nofun
  | cons x xs ih =>
      have hrest := ih fun y hy => h y (List.mem_cons_of_mem _ hy)
      rw [List.mapM_cons]
      exact .bind (h x List.mem_cons_self) fun y hy => .bind hrest fun ys hys =>
        .pure (List.forall_mem_cons.mpr ⟨hy, hys⟩)

/-- Nothing is asked of the first reading. -/
theorem after (hf : ∀ a, (f a).Gives q) : (r >>= f).Gives q :=
  bind (p := fun _ => True) (fun _ _ _ _ => trivial) fun a _ => hf a

end Reading.Gives

/-- If the value is a mapping, no key occurs twice in it. -/
def Value.KeysDistinct (v : Value) : Prop :=
  ∀ entries, v = .mapping entries → Value.distinctKeys entries = true

theorem keysDistinct_collectionValue {tag : Option (List Octet)} {v : Value}
    (h : v.KeysDistinct) : (collectionValue tag v).KeysDistinct := by
  unfold collectionValue
  split
  · exact nofun
  · exact h

theorem gives_scalar (tag : Option (List Octet)) (style : ScalarStyle) (text : String) :
    Reading.Gives (StateT.lift (scalarValue? tag style text)) Value.KeysDistinct :=
  .lift fun _ hv _ heq => absurd (heq ▸ hv) scalarValue?_ne_mapping

/-- **A mapping that is read has distinct keys.** -/
theorem gives_keysDistinct (a : Aliases) (depth : Nat) (n : Node) :
    (a.value depth n).Gives Value.KeysDistinct := by
  cases depth with
  | zero =>
      refine .after fun n => ?_
      cases n with
      | scalar p style text => exact gives_scalar _ _ _
      | aliasOf _ | sequence _ _ | mapping _ _ => exact .failure
  | succ depth =>
      refine .after fun n => ?_
      cases n with
      | aliasOf _ => exact .failure
      | scalar p style text => exact gives_scalar _ _ _
      | sequence p items =>
          exact .after fun values => .pure (keysDistinct_collectionValue nofun)
      | mapping p entries =>
          refine .after fun values => ?_
          show Reading.Gives (if _ then _ else _) _
          split
          · rename_i hdistinct
            refine .pure (keysDistinct_collectionValue fun entries' heq => ?_)
            cases heq
            exact hdistinct
          · exact .failure

/-! ## 4. Documents -/

namespace Document

variable {d : Document} {key text : String} {v : Value} {entries : List (Value × Value)}

theorem mem_entries_of_get? (h : d.get? key = some v) : (key, v) ∈ d.entries := by
  obtain ⟨before, after, heq, _⟩ := List.lookup_eq_some_iff.mp h
  rw [← List.mem_reverse, heq]
  exact List.mem_append_right _ List.mem_cons_self

theorem keysDistinct_of_ofNode? {root : Option Node} (h : ofNode? root = some d) :
    ∀ entry ∈ d.entries, entry.2.KeysDistinct := by
  match root with
  | none =>
      obtain rfl := Option.some.inj h
      exact nofun
  | some (.scalar _ style text) =>
      have hempty : (if style = .plain && text.isEmpty then some ⟨[]⟩ else none) = some d := h
      obtain ⟨_, heq⟩ := Option.ite_none_right_eq_some.mp hempty
      obtain rfl := Option.some.inj heq
      exact nofun
  | some (.mapping p entries) =>
      obtain ⟨values, hvalues, rfl⟩ := Option.map_eq_some_iff.mp h
      obtain ⟨⟨values', i⟩, hrun, rfl⟩ := Option.map_eq_some_iff.mp hvalues
      refine Reading.Gives.mapM (fun entry _ => ?_) 0 values' i hrun
      exact .after fun key => .bind (gives_keysDistinct _ _ _) fun v hv => .pure hv
  | some (.sequence _ _) | some (.aliasOf _) => cases h

/-- **The mapping under a key of a document has distinct keys.** -/
theorem distinctKeys_of_read (h : read? text = some d)
    (hget : d.get? key = some (.mapping entries)) : Value.distinctKeys entries = true := by
  obtain ⟨root, _, hroot⟩ := Option.bind_eq_some_iff.mp h
  exact keysDistinct_of_ofNode? hroot _ (mem_entries_of_get? hget) entries rfl

end Document

end EpsilonAutomata.Yaml
