import RecordSieve.Proofs.Dotted
import RecordSieve.Proofs.Footprint

/-!
# Fields named like operators

The name of an operator always means the operator, so a field of that name is *shadowed*: as a key
of criteria the name does not lead to the field. Whether a key is an operator is decided on the key
as a whole, though, and a path is cut at its dots only afterwards. A longer path whose first key is
such a name is no operator, and it does lead into the field.

What criteria see of an object are the values at the paths that they follow from it
(`Criterion.Follows`, `Criterion.evaluate_alike_of_follows`), which include the paths in
alternatives and in elements that are looked for. **`shadowed_fields_hide_from_whole_keys`** says
that shadowed fields make no difference to criteria that follow no path from the name of an
operator on, and what criteria see that do; `shadowed_field_is_seen` is a case of that.
-/

namespace RecordSieve

open Evaluation

/-! ### The paths that criteria follow -/

/-- Asked of an object, the criterion may ask for what the object has at the path. Under other paths
and for the members of arrays, the criterion asks for parts of other values. -/
inductive Criterion.Follows : Criterion → String → Prop
  /-- A key that is no operator is a path. -/
  | path {entries : Criteria} {path : String} {c : Criterion} :
      (path, c) ∈ entries → Operator.ofKey? path = none → Follows (.nested entries) path
  /-- The elements of an operand are asked of the object itself. -/
  | operand {entries : Criteria} {key : String} {op : Operator} {cs : List Criterion}
      {c : Criterion} {path : String} :
      (key, .list cs) ∈ entries → Operator.ofKey? key = some op →
      op.AsksElements → c ∈ cs → Follows c path →
      Follows (.nested entries) path

theorem Criterion.Follows.ofKey?_eq_none {c : Criterion} {path : String} (h : c.Follows path) :
    Operator.ofKey? path = none := by
  induction h with
  | path _ hkey => exact hkey
  | operand _ _ _ _ _ ih => exact ih

variable {fields others : Fields Value}

/-- The objects have the same at every path that the criterion follows. -/
def Criterion.AgreeFor (c : Criterion) (fields others : Fields Value) : Prop :=
  ∀ path, c.Follows path →
    Path.resolve (some (.object fields)) path = Path.resolve (some (.object others)) path

/-- The items are the same, or they are the two objects. -/
inductive SameOrObject (fields others : Fields Value) : Option Value → Option Value → Prop
  | same (x : Option Value) : SameOrObject fields others x x
  | object : SameOrObject fields others (some (.object fields)) (some (.object others))

/-- An object has no members to look in. -/
theorem Criterion.found_object_alike {c : Criterion}
    (h : (c.evaluate (some (.object fields))).AlikeOn (SameOrObject fields others)
      (c.evaluate (some (.object others)))) :
    (c.found (some (.object fields))).AlikeOn (SameOrObject fields others)
      (c.found (some (.object others))) := by
  rw [found_eq_any, found_eq_any]
  exact h.orElse (alike_of rfl)

/-- No operator tests what fields an object has. -/
theorem Operator.test_object_congr (op : Operator) (operand : Criterion) :
    op.test operand (some (.object fields)) = op.test operand (some (.object others)) := by
  cases op <;> rfl

/-- A criterion is evaluated alike on objects that have the same at every path that it follows, and
so are the elements of a list, which may be its operand. -/
theorem Criterion.evaluate_alike_of_follows (c : Criterion) :
    (c.AgreeFor fields others →
      (c.evaluate (some (.object fields))).AlikeOn (SameOrObject fields others)
        (c.evaluate (some (.object others)))) ∧
    ∀ cs, c = .list cs → ∀ d ∈ cs, d.AgreeFor fields others →
      (d.evaluate (some (.object fields))).AlikeOn (SameOrObject fields others)
        (d.evaluate (some (.object others))) := by
  have hsame (d : Dispatch) : d.OnRelated (SameOrObject fields others) d := ⟨rfl, .same _⟩
  induction c with
  | literal s => exact ⟨fun _ => alike_of rfl, nofun⟩
  | pattern p => exact ⟨fun _ => alike_of rfl, nofun⟩
  | list cs ih =>
    -- An object has no members, so the list is asked of nothing on both sides.
    refine ⟨fun _ => alike_refl hsame (evaluateEach cs []), ?_⟩
    rintro ds hds d hd
    cases hds
    exact (ih d hd).1
  | nested entries ih =>
    refine ⟨fun hagree => ?_, nofun⟩
    rw [evaluate_nested, evaluate_nested, Criteria.evaluate_eq_all, Criteria.evaluate_eq_all]
    refine alike_all (List.forall₂_same.mpr fun e he => ?_)
    cases hkey : Operator.ofKey? e.1 with
    | none =>
      rw [evaluateAt_path hkey, evaluateAt_path hkey, hagree e.1 (.path he hkey)]
      exact alike_refl hsame _
    | some op =>
      rw [evaluateAt_operator hkey, evaluateAt_operator hkey]
      refine Operator.apply_alike (fun _ _ => ⟨rfl, .object⟩) rfl (op.test_object_congr e.2)
        fun cs hcs hop d hd => ?_
      have hmem : (e.1, .list cs) ∈ entries := hcs ▸ he
      have hd := (ih e he).2 cs hcs d hd fun path hpath =>
        hagree path (.operand hmem hkey hop hd hpath)
      exact ⟨hd, found_object_alike hd⟩

/-! ### Shadowed fields -/

/-- The objects are the same, but for fields that are named like operators. -/
def AgreeUnshadowed (fields others : Fields Value) : Prop :=
  ∀ key, Operator.ofKey? key = none → fields.lookup key = others.lookup key

/-- A single field that is named like an operator may be missing. -/
theorem agreeUnshadowed_singleton (op : Operator) (v : Value) :
    AgreeUnshadowed [(op.key, v)] [] := by
  intro key hkey
  have hne : key ≠ op.key := by
    rintro rfl
    simp at hkey
  rw [List.lookup_cons, beq_false_of_ne hne]

/-- The path goes on from the name of an operator. -/
def Path.EntersShadowed (path : String) : Prop :=
  ∃ (op : Operator) (rest : String), path = op.key ++ "." ++ rest

theorem Path.not_entersShadowed {path key : String} {rest : List String}
    (hkeys : keys path = key :: rest) (hkey : Operator.ofKey? key = none) :
    ¬EntersShadowed path := by
  rintro ⟨op, second, rfl⟩
  rw [keys_join, keys, splitAtDots_of_not_mem op.dot_not_mem_key] at hkeys
  simp only [List.map_singleton, String.ofList_toList, List.singleton_append, List.cons.injEq]
    at hkeys
  rw [← hkeys.1, Operator.ofKey?_key] at hkey
  cases hkey

/-- A path whose first key is the name of an operator is that operator or goes on from there. -/
theorem AgreeUnshadowed.resolve_eq (h : AgreeUnshadowed fields others) {path : String}
    (hpath : Operator.ofKey? path = none) (hclear : ¬Path.EntersShadowed path) :
    Path.resolve (some (.object fields)) path = Path.resolve (some (.object others)) path := by
  rw [Path.resolve, Path.resolve]
  cases hkeys : Path.keys path with
  | nil => exact absurd hkeys (Path.keys_ne_nil path)
  | cons key rest =>
    have hkey : Operator.ofKey? key = none := by
      cases hop : Operator.ofKey? key with
      | none => rfl
      | some op =>
        obtain rfl := Operator.key_of_ofKey? hop
        rcases Path.eq_or_eq_join hkeys with rfl | ⟨second, hjoin⟩
        · rw [hpath] at hop
          cases hop
        · exact absurd ⟨op, second, hjoin⟩ hclear
    simp only [Path.follow_cons, Option.bind_some, Value.field?, h key hkey]

/-- The name of an operator is the key of a field like any other where a path goes on from it. -/
theorem Path.resolve_shadowed (op : Operator) (rest : String) (fields : Fields Value) :
    resolve (some (.object fields)) (op.key ++ "." ++ rest) =
      resolve (fields.lookup op.key) rest := by
  rw [resolve_join, resolve_of_not_mem op.dot_not_mem_key, Option.bind_some, Value.field?]

/-- Objects that are the same but for shadowed fields are the same for a criterion, if they have
the same wherever it follows a path into a shadowed field. -/
theorem AgreeUnshadowed.agreeFor (h : AgreeUnshadowed fields others) {c : Criterion}
    (hinside : ∀ (op : Operator) (rest : String), c.Follows (op.key ++ "." ++ rest) →
      Path.resolve (fields.lookup op.key) rest = Path.resolve (others.lookup op.key) rest) :
    c.AgreeFor fields others := by
  intro path hpath
  by_cases henters : Path.EntersShadowed path
  · obtain ⟨op, rest, rfl⟩ := henters
    rw [Path.resolve_shadowed, Path.resolve_shadowed, hinside op rest hpath]
  · exact h.resolve_eq hpath.ofKey?_eq_none henters

/-- **Operators hide fields from whole keys only.** -/
theorem shadowed_fields_hide_from_whole_keys (q : Criteria) (fields others : Fields Value)
    (h : AgreeUnshadowed fields others) :
    -- Shadowed fields make no difference, at any depth of the criteria, unless a path goes on from
    -- the name of an operator,
    ((∀ path, (Criterion.nested q).Follows path → ¬Path.EntersShadowed path) →
      (q.evaluate (some (.object fields))).AlikeOn (SameOrObject fields others)
        (q.evaluate (some (.object others)))) ∧
    -- and then it is a difference in what the fields have where the path goes on.
    ((∀ (op : Operator) (rest : String), (Criterion.nested q).Follows (op.key ++ "." ++ rest) →
        Path.resolve (fields.lookup op.key) rest = Path.resolve (others.lookup op.key) rest) →
      (q.evaluate (some (.object fields))).AlikeOn (SameOrObject fields others)
        (q.evaluate (some (.object others)))) ∧
    -- Such a path does lead into the field.
    ∀ (op : Operator) (rest : String) (c : Criterion),
      Criteria.evaluate [(op.key ++ "." ++ rest, c)] (some (.object fields)) =
        c.evaluate (Path.resolve (fields.lookup op.key) rest) := by
  have hinside (hq : (Criterion.nested q).AgreeFor fields others) :
      (q.evaluate (some (.object fields))).AlikeOn (SameOrObject fields others)
        (q.evaluate (some (.object others))) :=
    (Criterion.nested q).evaluate_alike_of_follows.1 hq
  refine ⟨fun hclear => hinside ?_, fun hsame => hinside (h.agreeFor hsame),
    fun op rest c => ?_⟩
  · exact h.agreeFor fun op rest hfollows => absurd ⟨op, rest, rfl⟩ (hclear _ hfollows)
  · rw [Criteria.evaluate_singleton,
      Criterion.evaluateAt_path (Operator.ofKey?_join op.key rest), Path.resolve_shadowed]

/-- Criteria with the name of an operator as a key, and as a key that a path goes on to. -/
def namesOperators : Criteria :=
  [("$gt", .literal (.bool false)), ("$or", .list [.nested [("name.$gt", .literal .null)]])]

/-- Neither leads to a field of that name, so such a field makes no difference. -/
theorem operator_names_are_no_paths :
    AgreeUnshadowed [("$gt", .scalar (.bool true))] [] ∧
      (∀ path, (Criterion.nested namesOperators).Follows path → ¬Path.EntersShadowed path) ∧
      (namesOperators.evaluate (some (.object [("$gt", .scalar (.bool true))]))).AlikeOn
        (SameOrObject [("$gt", .scalar (.bool true))] [])
        (namesOperators.evaluate (some (.object []))) := by
  have hpaths (path : String) (h : (Criterion.nested namesOperators).Follows path) :
      path = "name.$gt" := by
    cases h with
    | path hmem hkey =>
      rcases List.mem_cons.mp hmem with heq | hmem
      · cases heq
        exact absurd hkey (by decide +kernel)
      · cases List.mem_singleton.mp hmem
        exact absurd hkey (by decide +kernel)
    | operand hmem _ _ hc hpath =>
      rcases List.mem_cons.mp hmem with heq | hmem
      · cases heq
      · cases List.mem_singleton.mp hmem
        cases List.mem_singleton.mp hc
        cases hpath with
        | path hmem _ => cases List.mem_singleton.mp hmem; rfl
        | operand hmem _ _ _ _ => cases List.mem_singleton.mp hmem
  have hclear (path : String) (h : (Criterion.nested namesOperators).Follows path) :
      ¬Path.EntersShadowed path := by
    have hkeys : Path.keys path = ["name", "$gt"] := by
      rw [hpaths path h]
      decide +kernel
    exact Path.not_entersShadowed hkeys (by decide +kernel)
  have hagree := agreeUnshadowed_singleton .greater (.scalar (.bool true))
  exact ⟨hagree, hclear, (shadowed_fields_hide_from_whole_keys _ _ _ hagree).1 hclear⟩

/-- A shadowed field is seen: the criteria accept the one object and reject the other, which differ
in a field named like an operator only. -/
theorem shadowed_field_is_seen :
    AgreeUnshadowed [("$gt", .object [("a", .scalar (.bool true))])] [] ∧
      (Criteria.evaluate [("$gt.a", .literal (.bool true))]
        (some (.object [("$gt", .object [("a", .scalar (.bool true))])]))).verdict = .yes ∧
      (Criteria.evaluate [("$gt.a", .literal (.bool true))] (some (.object []))).verdict = .no :=
  ⟨agreeUnshadowed_singleton .greater _, by decide +kernel, by decide +kernel⟩

end RecordSieve
