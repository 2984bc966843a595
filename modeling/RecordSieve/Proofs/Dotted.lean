import RecordSieve.Proofs.ByExample

/-!
# Dotted paths and nested criteria

There are two ways to ask something of a part of a part of an item: with a dotted path, or with
criteria nested under the path to the outer part. They come to the same. A dot joins two paths into
one that leads where the second leads from where the first has led, whatever dots the two hold
themselves (`Path.resolve_join`); and texts without dots, joined by dots, are followed as keys, one
object field after the other (`Path.resolve_intercalate_eq_some_iff`).

So criteria that ask for paths only can be taken out of the path that they are nested under, if
that path is put in front of each of their keys (`Criteria.under`). **`dotted_or_nested`** says that
the evaluation is the same, verdict and dispatches, on every item. A key with a dot is never an
operator, for no operator has a dot in its key; criteria that hold operators cannot be taken out.
-/

namespace RecordSieve

/-! ### Joined paths -/

namespace Path

/-- The values that some keys lead to: each key is one of a field of an object. -/
inductive Leads : Value → List String → Value → Prop
  /-- No key leads away. -/
  | here (v : Value) : Leads v [] v
  /-- A key leads into an object, to its field. -/
  | field {fields : Fields Value} {key : String} {v w : Value} {rest : List String} :
      fields.lookup key = some v → Leads v rest w → Leads (.object fields) (key :: rest) w

theorem splitAtDots_eq_splitOn (text : List Char) : splitAtDots text = text.splitOn '.' := by
  induction text with
  | nil => rfl
  | cons c text ih =>
    rw [splitAtDots, ih, List.splitOn_cons_eq_if_modifyHead]
    by_cases hc : c = '.'
    · simp [hc]
    · cases hsegments : text.splitOn '.' with
      | nil => exact absurd hsegments (List.splitOn_ne_nil '.' text)
      | cons segment segments => simp [hc]

theorem keys_ne_nil (path : String) : keys path ≠ [] := by
  rw [keys]
  exact fun h => splitAtDots_ne_nil _ (List.map_eq_nil_iff.mp h)

/-- The keys of a joined path are those of the one and then those of the other. -/
theorem keys_join (first second : String) :
    keys (first ++ "." ++ second) = keys first ++ keys second := by
  have htext : (first ++ "." ++ second).toList = first.toList ++ '.' :: second.toList := by simp
  simp only [keys, splitAtDots_eq_splitOn]
  rw [htext, List.splitOn_append_cons_self, List.map_append]

/-- A joined path leads where the second leads from where the first has led. -/
theorem resolve_join (item : Option Value) (first second : String) :
    resolve item (first ++ "." ++ second) = resolve (resolve item first) second := by
  rw [resolve, keys_join, follow_append]
  rfl

/-- Texts without dots are the keys of the path that they are joined to. -/
theorem keys_intercalate {ks : List String} (hne : ks ≠ []) (h : ∀ key ∈ ks, '.' ∉ key.toList) :
    keys (".".intercalate ks) = ks := by
  have hsplit : (['.'].intercalate (ks.map String.toList)).splitOn '.' = ks.map String.toList := by
    refine List.splitOn_intercalate '.' ?_ (by simpa using hne)
    simpa using h
  rw [keys, splitAtDots_eq_splitOn, String.toList_intercalate]
  simp [hsplit, Function.comp_def]

/-- A path is its keys joined by dots. -/
theorem intercalate_keys (path : String) : ".".intercalate (keys path) = path := by
  apply String.toList_injective
  rw [String.toList_intercalate, keys, splitAtDots_eq_splitOn]
  simp [Function.comp_def, List.intercalate_splitOn]

/-- A path is its first key, or it is joined to that key. -/
theorem eq_or_eq_join {path key : String} {rest : List String} (h : keys path = key :: rest) :
    path = key ∨ ∃ second, path = key ++ "." ++ second := by
  have hpath := intercalate_keys path
  rw [h] at hpath
  cases rest with
  | nil => exact .inl (hpath.symm.trans String.intercalate_singleton)
  | cons next rest =>
    rw [String.intercalate_cons_cons] at hpath
    exact .inr ⟨_, hpath.symm⟩

theorem follow_eq_some_iff {v w : Value} {ks : List String} :
    follow (some v) ks = some w ↔ Leads v ks w := by
  constructor
  · intro h
    induction ks generalizing v with
    | nil =>
      obtain rfl : v = w := Option.some.inj h
      exact .here v
    | cons key ks ih =>
      rw [follow_cons, Option.bind_some] at h
      cases v with
      | scalar _ | array _ => simp [Value.field?, follow_none] at h
      | object fields =>
        rw [Value.field?] at h
        cases hfield : fields.lookup key with
        | none => rw [hfield, follow_none] at h; cases h
        | some u => exact .field hfield (ih (hfield ▸ h))
  · intro h
    induction h with
    | here v => rfl
    | field hfield _ ih => rw [follow_cons, Option.bind_some, Value.field?, hfield, ih]

/-- Joined by dots, keys without dots are followed one after the other, each into an object that
has such a field; there is no value as soon as a step fails. -/
theorem resolve_intercalate_eq_some_iff {ks : List String} (hne : ks ≠ [])
    (h : ∀ key ∈ ks, '.' ∉ key.toList) {item : Option Value} {w : Value} :
    resolve item (".".intercalate ks) = some w ↔ ∃ v, item = some v ∧ Leads v ks w := by
  rw [resolve, keys_intercalate hne h]
  cases item with
  | none => simp [follow_none]
  | some v => simp [follow_eq_some_iff]

end Path

/-! ### Operators have no dots -/

namespace Operator

theorem key_of_ofKey? {key : String} {op : Operator} (h : ofKey? key = some op) : op.key = key := by
  have hfound := List.find?_some h
  simpa using hfound

theorem dot_not_mem_key (op : Operator) : '.' ∉ op.key.toList := by
  cases op <;> decide

/-- A joined path is not the key of an operator. -/
theorem ofKey?_join (first second : String) : ofKey? (first ++ "." ++ second) = none := by
  cases h : ofKey? (first ++ "." ++ second) with
  | none => rfl
  | some op =>
    have hdot : '.' ∉ (first ++ "." ++ second).toList := key_of_ofKey? h ▸ op.dot_not_mem_key
    simp at hdot

end Operator

/-! ### Criteria taken out of a path -/

namespace Criteria

/-- The criteria with a path put in front of each of their keys, joined to it by a dot. -/
def under (path : String) (q : Criteria) : Criteria := q.map fun e => (path ++ "." ++ e.1, e.2)

variable {path : String} {q : Criteria}

/-- With the path in front of their keys, criteria ask of an item what they ask of its part. -/
theorem evaluate_under (h : ∀ e ∈ q, Operator.ofKey? e.1 = none) (item : Option Value) :
    (q.under path).evaluate item = q.evaluate (Path.resolve item path) := by
  rw [evaluate_eq_all, evaluate_eq_all, under, List.map_map]
  refine congrArg Evaluation.all (List.map_congr_left fun e he => ?_)
  simp only [Function.comp_def]
  rw [Criterion.evaluateAt_path (Operator.ofKey?_join path e.1), Path.resolve_join,
    Criterion.evaluateAt_path (h e he)]

theorem evaluate_nested_at (hpath : Operator.ofKey? path = none) (item : Option Value) :
    evaluate [(path, .nested q)] item = q.evaluate (Path.resolve item path) :=
  evaluate_at hpath (.nested q) item

end Criteria

/-- **A dotted path asks what nested criteria ask.** -/
theorem dotted_or_nested (item : Option Value) :
    (∀ first second, Path.resolve item (first ++ "." ++ second) =
      Path.resolve (Path.resolve item first) second) ∧
    (∀ keys : List String, keys ≠ [] → (∀ key ∈ keys, '.' ∉ key.toList) → ∀ w,
      (Path.resolve item (".".intercalate keys) = some w ↔
        ∃ v, item = some v ∧ Path.Leads v keys w)) ∧
    ∀ (path : String) (q : Criteria), Operator.ofKey? path = none →
      (∀ e ∈ q, Operator.ofKey? e.1 = none) →
      Criteria.evaluate [(path, .nested q)] item = (q.under path).evaluate item := by
  refine ⟨Path.resolve_join item, fun keys hne h w => ?_, fun path q hpath hq => ?_⟩
  · exact Path.resolve_intercalate_eq_some_iff hne h
  · rw [Criteria.evaluate_nested_at hpath, Criteria.evaluate_under hq]

/-- What is asked of the part at a path that begins with a dot: a field with an empty key, and a
number that is compared with what is no number. -/
def askedInside : Criteria :=
  [("", .literal (.bool true)), ("b.", .nested [("$gt", .list [])])]

/-- The value at a path that begins with a dot. -/
def dottedDocument : Value :=
  .object [("", .object [("a", .object [("", .scalar (.bool true))])])]

/-- The error comes from a place that is not there. -/
theorem dots_at_either_end :
    Operator.ofKey? ".a" = none ∧ (∀ e ∈ askedInside, Operator.ofKey? e.1 = none) ∧
      Criteria.evaluate [(".a", .nested askedInside)] (some dottedDocument) =
        Criteria.evaluate
          [(".a.", .literal (.bool true)), (".a.b.", .nested [("$gt", .list [])])]
          (some dottedDocument) ∧
      Criteria.evaluate [(".a", .nested askedInside)] (some dottedDocument) =
        ⟨.error (.mismatch .greater .scalar .list), [⟨.greater, none⟩]⟩ := by
  have hpath : Operator.ofKey? ".a" = none := by decide +kernel
  have hkeys : ∀ e ∈ askedInside, Operator.ofKey? e.1 = none := by
    simp only [askedInside, List.forall_mem_cons]
    exact ⟨by decide +kernel, by decide +kernel, nofun⟩
  have hsame := (dotted_or_nested (some dottedDocument)).2.2 ".a" askedInside hpath hkeys
  refine ⟨hpath, hkeys, hsame, ?_⟩
  decide +kernel

end RecordSieve
