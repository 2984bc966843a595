import RecordSieve.Criterion.Builder
import RecordSieve.Proofs.ByExample
import RecordSieve.Proofs.Fields

/-!
# Criteria under construction

Criteria are an ordered map from keys to criteria, and they are nothing else because of how they
come about. They are built in steps from empty ones, collected from pairs, or read from a value,
and the criteria inside them came about in the same way. `Criteria.Constructed` says so.

Each step of building writes one key (`Criteria.Step.apply_eq_put`), also where it refines nested
criteria that stand there already, so all that has to be known of a step is what stands under its
key before and after it. **`construction_keeps_order`** says what follows: no key occurs twice, at
any depth; the keys stand in the order in which they were mentioned first; and a step leaves all
entries but its own what and where they are.
-/

namespace RecordSieve

/-! ### Distinct keys at every depth -/

/-- In each of the criteria inside the criterion, however deep, no key occurs twice. -/
inductive Criterion.KeysDistinct : Criterion → Prop
  /-- A literal has no keys. -/
  | literal (s : Scalar) : KeysDistinct (.literal s)
  /-- A pattern has no keys. -/
  | pattern (p : Pattern) : KeysDistinct (.pattern p)
  /-- The keys are distinct in each element of a list. -/
  | list {cs : List Criterion} : (∀ c ∈ cs, KeysDistinct c) → KeysDistinct (.list cs)
  /-- The keys are distinct, and so they are in what stands under each of them. -/
  | nested {entries : Criteria} : (Fields.keys entries).Nodup →
      (∀ e ∈ entries, KeysDistinct e.2) → KeysDistinct (.nested entries)

namespace Criteria

/-- The keys are distinct, here and at every depth. -/
def KeysDistinct (q : Criteria) : Prop := (Criterion.nested q).KeysDistinct

variable {q : Criteria} {key : String} {c : Criterion}

theorem KeysDistinct.nodup (h : q.KeysDistinct) : (Fields.keys q).Nodup := by
  cases h with
  | nested hnodup _ => exact hnodup

theorem KeysDistinct.entry (h : q.KeysDistinct) {e : String × Criterion} (he : e ∈ q) :
    e.2.KeysDistinct := by
  cases h with
  | nested _ hentries => exact hentries e he

theorem keysDistinct_nil : KeysDistinct [] := .nested List.nodup_nil (by simp)

theorem KeysDistinct.put (h : q.KeysDistinct) (key : String) (hc : c.KeysDistinct) :
    KeysDistinct (Fields.put key c q) := by
  refine .nested (Fields.nodup_keys_put key c h.nodup) fun e he => ?_
  rcases Fields.eq_or_mem_of_mem_put he with rfl | hmem
  · exact hc
  · exact h.entry hmem

theorem keysDistinct_ofPairs {pairs : List (String × Criterion)}
    (h : ∀ e ∈ pairs, e.2.KeysDistinct) : KeysDistinct (Fields.ofPairs pairs) := by
  induction pairs using List.reverseRecOn with
  | nil => exact keysDistinct_nil
  | append_singleton pairs e ih =>
    rw [Fields.ofPairs_concat]
    exact (ih fun f hf => h f (by simp [hf])).put e.1 (h e (by simp))

end Criteria

/-- What a value writes has distinct keys, whatever the value repeats. -/
theorem Criterion.keysDistinct_ofValue (v : Value) : (ofValue v).KeysDistinct := by
  induction v with
  | scalar s => exact .literal s
  | array items ih =>
    rw [ofValue_array]
    refine .list fun c hc => ?_
    obtain ⟨v, hv, rfl⟩ := List.mem_map.mp hc
    exact ih v hv
  | object fields ih =>
    rw [ofValue, ofFields_eq_map]
    refine Criteria.keysDistinct_ofPairs fun e he => ?_
    obtain ⟨f, hf, rfl⟩ := List.mem_map.mp he
    exact ih f hf

/-! ### What a step does -/

namespace Criteria

namespace Step

/-- The key whose entry a step writes. -/
def key : Step → String
  | field path _ => path
  | operator op _ => op.key
  | refine path _ _ => path

/-- The criterion that a step is given. -/
def operand : Step → Criterion
  | field _ c => c
  | operator _ operand => operand
  | refine _ _ operand => operand

/-- What stands under the key of a step after it; `before` is what stood there. -/
def result : Step → (before : Option Criterion) → Criterion
  | field _ c, _ => c
  | operator _ operand, _ => operand
  | refine _ op operand, some (.nested entries) => .nested (Fields.put op.key operand entries)
  | refine _ op operand, _ => .nested [(op.key, operand)]

/-- A step writes one key. -/
theorem apply_eq_put (step : Step) (q : Criteria) :
    step.apply q = Fields.put step.key (step.result (q.lookup step.key)) q := by
  cases step with
  | field path c => rfl
  | operator op operand => rfl
  | refine path op operand =>
    simp only [apply, Criteria.refine, key]
    cases hbefore : q.lookup path with
    | none => rfl
    | some c => cases c <;> rfl

theorem lookup_apply (step : Step) (q : Criteria) :
    (step.apply q).lookup step.key = some (step.result (q.lookup step.key)) := by
  rw [apply_eq_put, Fields.lookup_put_self]

/-- Where nested criteria stand at the path, the operator is written into them, as it would be into
criteria of their own. -/
theorem result_refine_nested (path : String) (op : Operator) (c : Criterion) (entries : Criteria) :
    (refine path op c).result (some (.nested entries)) = .nested ((operator op c).apply entries) :=
  rfl

/-- Anything else that stands at the path gives way to the operator alone. -/
theorem result_refine_of_ne {before : Option Criterion}
    (h : ∀ entries, before ≠ some (.nested entries)) (path : String) (op : Operator)
    (c : Criterion) : (refine path op c).result before = .nested [(op.key, c)] := by
  cases before with
  | none => rfl
  | some d =>
    cases d with
    | nested entries => exact absurd rfl (h entries)
    | literal _ | pattern _ | list _ => rfl

end Step

variable {q : Criteria}

theorem KeysDistinct.result (h : q.KeysDistinct) {step : Step} (hc : step.operand.KeysDistinct) :
    (step.result (q.lookup step.key)).KeysDistinct := by
  cases step with
  | field path c => exact hc
  | operator op operand => exact hc
  | refine path op operand =>
    by_cases hbefore : ∃ entries, q.lookup path = some (.nested entries)
    · obtain ⟨entries, hentries⟩ := hbefore
      have hnested : Criteria.KeysDistinct entries := h.entry (Fields.mem_of_lookup hentries)
      rw [Step.key, hentries, Step.result_refine_nested]
      exact hnested.put op.key hc
    · rw [Step.key, Step.result_refine_of_ne (not_exists.mp hbefore)]
      exact keysDistinct_nil.put op.key hc

/-- A step keeps the keys distinct, if they are distinct in what it is given. -/
theorem KeysDistinct.step (h : q.KeysDistinct) {step : Step} (hc : step.operand.KeysDistinct) :
    KeysDistinct (step.apply q) := by
  rw [Step.apply_eq_put]
  exact h.put step.key (h.result hc)

end Criteria

/-! ### All ways of constructing criteria -/

mutual

/-- All criteria inside the criterion, however deep, are constructed. -/
inductive Criterion.Constructed : Criterion → Prop
  /-- A literal holds no criteria. -/
  | literal (s : Scalar) : Criterion.Constructed (.literal s)
  /-- A pattern holds no criteria. -/
  | pattern (p : Pattern) : Criterion.Constructed (.pattern p)
  /-- The elements of a list are constructed. -/
  | list {cs : List Criterion} : (∀ c ∈ cs, Criterion.Constructed c) →
      Criterion.Constructed (.list cs)
  /-- Criteria are constructed before they are nested. -/
  | nested {q : Criteria} : Criteria.Constructed q → Criterion.Constructed (.nested q)

/-- The criteria came about by steps, from pairs, or from a value. -/
inductive Criteria.Constructed : Criteria → Prop
  /-- To begin with, there are no entries. -/
  | empty : Criteria.Constructed []
  /-- A step is carried out, with something constructed for its operand. -/
  | step {q : Criteria} {step : Criteria.Step} : Criteria.Constructed q →
      Criterion.Constructed step.operand → Criteria.Constructed (step.apply q)
  /-- Pairs are collected; keys may be repeated. -/
  | pairs {pairs : List (String × Criterion)} : (∀ e ∈ pairs, Criterion.Constructed e.2) →
      Criteria.Constructed (Fields.ofPairs pairs)
  /-- A value is read. -/
  | value {v : Value} {q : Criteria} : Criteria.ofValue v = .ok q → Criteria.Constructed q

end

namespace Criteria

theorem ofValue_eq_ok_iff {v : Value} {q : Criteria} :
    ofValue v = .ok q ↔ ∃ fields, v = .object fields ∧ Criterion.ofValue v = .nested q := by
  cases v with
  | scalar s => simp [ofValue]
  | array items => simp [ofValue]
  | object fields => simp [ofValue, Criterion.ofValue]

end Criteria

mutual

/-- In what is constructed, no key occurs twice. -/
theorem Criterion.Constructed.keysDistinct {c : Criterion} : c.Constructed → c.KeysDistinct
  | .literal s => .literal s
  | .pattern p => .pattern p
  | .list hcs => .list fun c hc => (hcs c hc).keysDistinct
  | .nested hq => hq.keysDistinct

theorem Criteria.Constructed.keysDistinct {q : Criteria} : q.Constructed → q.KeysDistinct
  | .empty => Criteria.keysDistinct_nil
  | .step hq hoperand => hq.keysDistinct.step hoperand.keysDistinct
  | .pairs hpairs => Criteria.keysDistinct_ofPairs fun e he => (hpairs e he).keysDistinct
  | .value hv => by
    obtain ⟨fields, rfl, hq⟩ := Criteria.ofValue_eq_ok_iff.mp hv
    rw [Criteria.KeysDistinct, ← hq]
    exact Criterion.keysDistinct_ofValue _

end

/-! ### Whole constructions -/

namespace Criteria

theorem inOrderOfMention_build (steps : List Step) :
    (build steps).InOrderOfMention (steps.map Step.key) :=
  Fields.inOrderOfMention_foldl (fun q step => ⟨_, step.apply_eq_put q⟩) steps

theorem constructed_build {steps : List Step} (h : ∀ step ∈ steps, step.operand.Constructed) :
    (build steps).Constructed := by
  rw [build]
  induction steps using List.reverseRecOn with
  | nil => exact .empty
  | append_singleton steps step ih =>
    rw [List.foldl_concat]
    exact .step (ih fun s hs => h s (by simp [hs])) (h step (by simp))

/-- Collecting pairs is setting one key after the other. -/
theorem ofPairs_eq_build (pairs : List (String × Criterion)) :
    Fields.ofPairs pairs = build (pairs.map fun e => .field e.1 e.2) := by
  rw [Fields.ofPairs, build, List.foldl_map]
  rfl

theorem inOrderOfMention_ofPairs (pairs : List (String × Criterion)) :
    (Fields.ofPairs pairs).InOrderOfMention (pairs.map Prod.fst) := by
  have h := inOrderOfMention_build (pairs.map fun e => .field e.1 e.2)
  rwa [← ofPairs_eq_build, List.map_map] at h

/-- What an object writes has the keys of the object. -/
theorem exists_ofValue_object (fields : Fields Value) : ∃ q : Criteria,
    ofValue (.object fields) = .ok q ∧ Criterion.ofValue (.object fields) = .nested q ∧
      q.InOrderOfMention (Fields.keys fields) := by
  refine ⟨Fields.ofPairs (Criterion.ofFields fields), rfl, rfl, ?_⟩
  have h := inOrderOfMention_ofPairs (Criterion.ofFields fields)
  have hkeys : (Criterion.ofFields fields).map Prod.fst = Fields.keys fields := by
    rw [Criterion.ofFields_eq_map, List.map_map]
    rfl
  rwa [hkeys] at h

/-- Criteria are read from a text by way of the object that the text is. -/
theorem exists_of_ofText {text : String} {q : Criteria} (h : ofText text = .ok q) :
    ∃ fields, Value.ofText? depthLimit text = some (.object fields) ∧
      ofValue (.object fields) = .ok q := by
  rw [ofText] at h
  cases hv : Value.ofText? depthLimit text with
  | none => simp [hv] at h
  | some v =>
    simp only [hv] at h
    obtain ⟨fields, rfl, -⟩ := ofValue_eq_ok_iff.mp h
    exact ⟨fields, rfl, h⟩

end Criteria

/-- **Criteria are an ordered map, however they are constructed.** -/
theorem construction_keeps_order :
    -- In what is constructed no key occurs twice, at any depth.
    (∀ q : Criteria, q.Constructed → q.KeysDistinct) ∧
    -- Criteria are constructed in steps, from pairs, from a value and from a text. Their keys are
    -- those that are mentioned, one entry for each, in the order of the first mention.
    (∀ steps : List Criteria.Step, (Criteria.build steps).InOrderOfMention (steps.map (·.key)) ∧
      ((∀ step ∈ steps, step.operand.Constructed) → (Criteria.build steps).Constructed)) ∧
    (∀ pairs : List (String × Criterion),
      (Fields.ofPairs pairs).InOrderOfMention (pairs.map Prod.fst) ∧
      Fields.ofPairs pairs = Criteria.build (pairs.map fun e => .field e.1 e.2)) ∧
    (∀ fields : Fields Value, ∃ q : Criteria, Criteria.ofValue (.object fields) = .ok q ∧
      Criterion.ofValue (.object fields) = .nested q ∧ q.Constructed ∧
      q.InOrderOfMention (Fields.keys fields)) ∧
    (∀ text q, Criteria.ofText text = .ok q → ∃ fields,
      Value.ofText? Criteria.depthLimit text = some (.object fields) ∧
      Criteria.ofValue (.object fields) = .ok q) ∧
    -- A step keeps the place of its key, or appends it if it is new, and leaves the entries of all
    -- other keys what and where they are.
    (∀ (q : Criteria) (step : Criteria.Step),
      Fields.keys (step.apply q) =
        (if step.key ∈ Fields.keys q then Fields.keys q else Fields.keys q ++ [step.key]) ∧
      ∀ (i : Nat) key c, key ≠ step.key →
        ((step.apply q)[i]? = some (key, c) ↔ q[i]? = some (key, c))) ∧
    -- What a step sets stands under its key afterwards,
    (∀ (q : Criteria) key c, ((Criteria.Step.field key c).apply q).lookup key = some c) ∧
    (∀ (q : Criteria) op c, ((Criteria.Step.operator op c).apply q).lookup op.key = some c) ∧
    (∀ (q : Criteria) path p,
      ((Criteria.Step.pattern path p).apply q).lookup path = some (.pattern p)) ∧
    (∀ (q : Criteria) alternatives, ((Criteria.Step.either alternatives).apply q).lookup
      Operator.either.key = some (.list (alternatives.map .nested))) ∧
    -- and what it refines is set by the same law, within the nested criteria that stand there if
    -- there are some, and within empty ones if not.
    ∀ (q : Criteria) path op c,
      (∀ entries, q.lookup path = some (.nested entries) →
        ((Criteria.Step.refine path op c).apply q).lookup path =
          some (.nested ((Criteria.Step.operator op c).apply entries))) ∧
      ((∀ entries, q.lookup path ≠ some (.nested entries)) →
        ((Criteria.Step.refine path op c).apply q).lookup path =
          some (.nested [(op.key, c)])) := by
  refine ⟨fun q hq => hq.keysDistinct, fun steps => ?_, fun pairs => ?_, fun fields => ?_,
    fun text q => Criteria.exists_of_ofText, fun q step => ?_, fun q key c => ?_,
    fun q op c => ?_, fun q path p => ?_, fun q alternatives => ?_, fun q path op c => ?_⟩
  · exact ⟨Criteria.inOrderOfMention_build steps, Criteria.constructed_build⟩
  · exact ⟨Criteria.inOrderOfMention_ofPairs pairs, Criteria.ofPairs_eq_build pairs⟩
  · obtain ⟨q, hq, hnested, horder⟩ := Criteria.exists_ofValue_object fields
    exact ⟨q, hq, hnested, .value hq, horder⟩
  · rw [Criteria.Step.apply_eq_put]
    exact ⟨Fields.keys_put _ _ _, fun i key c hne => Fields.getElem?_put_of_ne _ q hne i c⟩
  · exact (Criteria.Step.field key c).lookup_apply q
  · exact (Criteria.Step.operator op c).lookup_apply q
  · exact (Criteria.Step.pattern path p).lookup_apply q
  · exact (Criteria.Step.either alternatives).lookup_apply q
  · have hlookup := (Criteria.Step.refine path op c).lookup_apply q
    refine ⟨fun entries hentries => ?_, fun hnone => ?_⟩
    · rwa [Criteria.Step.key, hentries, Criteria.Step.result_refine_nested] at hlookup
    · rwa [Criteria.Step.key, Criteria.Step.result_refine_of_ne hnone] at hlookup

/-- The second bound on the age joins the first one, and the name set anew keeps its place. -/
example :
    Criteria.build
      [.field "name" (.literal .null),
       .refine "age" .greater (.literal (.bool false)),
       .field "name" (.literal (.string "Ann")),
       .refine "age" .less (.literal (.bool true))] =
      [("name", .literal (.string "Ann")),
       ("age", .nested [("$gt", .literal (.bool false)), ("$lt", .literal (.bool true))])] := by
  rfl

end RecordSieve
