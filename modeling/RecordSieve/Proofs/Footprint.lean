import RecordSieve.Proofs.Alike
import RecordSieve.Proofs.SideBySide

/-!
# What criteria look at

Criteria can look at a record in two ways. Under a path they look at what the record has there,
and under the name of an operator at the record as a whole. Among the operators, presence and the
choice between alternatives see no more of the record than that it is there and what the
alternatives look at. Criteria that use no other operator on the record itself *look at paths*
(`Criteria.LooksAtPaths`), and their *footprint* is the list of these paths, those in the
alternatives included.

**`footprint_suffices`** says that the footprint is all that such criteria look at. On two records
that have the same at each path of the footprint, the same entries and alternatives are asked, the
same operators are dispatched, and the verdict is the same, be it an error. So no query ends
differently where a record is changed *beside* the footprint, in a field that no path leads to, into
or through.

What is logged is another matter. An operator that is applied to the record itself is logged with
the record as a whole, so such a change shows in the text of the log (`changes_show`).
-/

namespace RecordSieve

open Evaluation

/-! ### The footprint -/

/-- The criteria look at a record through paths: the only operators that they apply to the record
itself are presence and the choice, and the alternatives of a choice look at paths as well. -/
inductive Criteria.LooksAtPaths : Criteria → Prop
  | nil : Criteria.LooksAtPaths []
  | path {key : String} {c : Criterion} {q : Criteria} :
      Operator.ofKey? key = none → Criteria.LooksAtPaths q →
      Criteria.LooksAtPaths ((key, c) :: q)
  | present {key : String} {c : Criterion} {q : Criteria} :
      Operator.ofKey? key = some .present → Criteria.LooksAtPaths q →
      Criteria.LooksAtPaths ((key, c) :: q)
  /-- An alternative that is no criteria ends the choice in an error without a look. -/
  | either {key : String} {cs : List Criterion} {q : Criteria} :
      Operator.ofKey? key = some .either →
      (∀ alternative, .nested alternative ∈ cs → Criteria.LooksAtPaths alternative) →
      Criteria.LooksAtPaths q → Criteria.LooksAtPaths ((key, .list cs) :: q)

mutual

/-- The paths among the keys of criteria, and those in the alternatives of choices. -/
def Criteria.footprint : Criteria → List String
  | [] => []
  | (key, c) :: entries =>
    (match Operator.ofKey? key with
      | none => [key]
      | some .either => c.footprintAsChoice
      | some _ => []) ++ Criteria.footprint entries
termination_by structural entries => entries

/-- The paths in the alternatives, where the criterion is the operand of a choice. -/
def Criterion.footprintAsChoice : Criterion → List String
  | .list cs => Criterion.footprintOfAll cs
  | .literal _ | .pattern _ | .nested _ => []
termination_by structural c => c

/-- The paths in alternatives; only nested criteria have any. -/
def Criterion.footprintOfAll : List Criterion → List String
  | [] => []
  | .nested alternative :: cs => Criteria.footprint alternative ++ Criterion.footprintOfAll cs
  | .literal _ :: cs | .pattern _ :: cs | .list _ :: cs => Criterion.footprintOfAll cs
termination_by structural cs => cs

end

variable {q alternative : Criteria} {cs : List Criterion} {key path : String}

namespace Criteria

theorem footprint_cons_path (h : Operator.ofKey? key = none) (c : Criterion) :
    footprint ((key, c) :: q) = key :: q.footprint := by
  simp only [footprint, h, List.singleton_append]

theorem footprint_cons_present (h : Operator.ofKey? key = some .present) (c : Criterion) :
    footprint ((key, c) :: q) = q.footprint := by
  simp only [footprint, h, List.nil_append]

theorem footprint_cons_either (h : Operator.ofKey? key = some .either) :
    footprint ((key, .list cs) :: q) = Criterion.footprintOfAll cs ++ q.footprint := by
  simp only [footprint, h, Criterion.footprintAsChoice]

end Criteria

/-- What is in the footprint of an alternative is in that of all of them. -/
theorem Criterion.mem_footprintOfAll (h : .nested alternative ∈ cs)
    (hpath : path ∈ alternative.footprint) : path ∈ footprintOfAll cs := by
  induction cs with
  | nil => cases h
  | cons c cs ih =>
    rcases List.mem_cons.mp h with rfl | hmem
    · exact List.mem_append_left _ hpath
    · cases c with
      | nested _ => exact List.mem_append_right _ (ih hmem)
      | literal _ | pattern _ | list _ => exact ih hmem

/-! ### Items that agree -/

/-- The items have the same at each of some paths. -/
def AgreeAt (paths : List String) (x y : Option Value) : Prop :=
  ∀ path ∈ paths, Path.resolve x path = Path.resolve y path

variable {x y : Option Value}

theorem AgreeAt.mono {paths fewer : List String} (h : AgreeAt paths x y) (hsub : fewer ⊆ paths) :
    AgreeAt fewer x y :=
  fun path hpath => h path (hsub hpath)

/-- The operator asks the elements of a list that is its operand. -/
def Operator.AsksElements (op : Operator) : Prop := op ∈ [oneOf, noneOf, allOf, either]

/-- An operator says the same of two items if they are both there or both not, if it tests them
alike, and if the elements that it asks are evaluated alike and found alike. -/
theorem Operator.apply_alike {D : Dispatch → Dispatch → Prop} {op : Operator} {operand : Criterion}
    (hD : ∀ o ∈ op.chain, D ⟨o, x⟩ ⟨o, y⟩) (hsome : x.isSome = y.isSome)
    (htest : op.test operand x = op.test operand y)
    (h : ∀ cs, operand = .list cs → op.AsksElements → ∀ c ∈ cs,
      (c.evaluate x).Alike D (c.evaluate y) ∧ (c.found x).Alike D (c.found y)) :
    (op.apply operand x).Alike D (op.apply operand y) := by
  cases operand with
  | literal _ | pattern _ | nested _ =>
    rw [apply_of_list?_eq_none op rfl, apply_of_list?_eq_none op rfl]
    exact (alike_of htest).ofOperator hD
  | list cs =>
    by_cases hop : op.AsksElements
    · refine apply_list_alike hD hsome (List.forall₂_same.mpr fun c hc => ?_)
      obtain ⟨hevaluate, hfound⟩ := h cs rfl hop c hc
      exact ⟨rfl, hevaluate, hfound⟩
    · cases op with
      | greater | atLeast | less | atMost | unequal | present =>
        exact (alike_of htest).ofOperator hD
      | oneOf | noneOf | allOf | either => exact absurd (by simp [AsksElements]) hop

/-! ### Records as a whole -/

/-- The dispatches are the same, or presence or the choice is asked of `x` as a whole in the one and
of `y` in the other. -/
inductive Dispatch.SameOrWhole (x y : Option Value) : Dispatch → Dispatch → Prop
  | same (d : Dispatch) : SameOrWhole x y d d
  | present : SameOrWhole x y ⟨.present, x⟩ ⟨.present, y⟩
  | either : SameOrWhole x y ⟨.either, x⟩ ⟨.either, y⟩

open Dispatch (SameOrWhole)

/-- Presence sees of an item that it is there. -/
theorem Operator.apply_present_alike (hsome : x.isSome = y.isSome) (c : Criterion) :
    (present.apply c x).Alike (SameOrWhole x y) (present.apply c y) := by
  have hwhole : ∀ o ∈ present.chain, SameOrWhole x y ⟨o, x⟩ ⟨o, y⟩ :=
    List.forall_mem_singleton.mpr .present
  refine apply_alike hwhole hsome (congrArg Verdict.ofBool hsome) fun cs _ hop => ?_
  simp [AsksElements] at hop

/-- A choice goes on alike on two items as long as the alternatives are evaluated alike. -/
theorem Operator.apply_either_alike
    (h : ∀ alternative : Criteria, .nested alternative ∈ cs →
      (alternative.evaluate x).Alike (SameOrWhole x y) (alternative.evaluate y)) :
    (either.apply (.list cs) x).Alike (SameOrWhole x y) (either.apply (.list cs) y) := by
  have hwhole : ∀ o ∈ either.chain, SameOrWhole x y ⟨o, x⟩ ⟨o, y⟩ :=
    List.forall_mem_singleton.mpr .either
  have helements : List.Forall₂ (fun c d => c.kind = d.kind ∧
      ∀ q, c = .nested q → (c.evaluate x).Alike (SameOrWhole x y) (d.evaluate y)) cs cs := by
    refine List.forall₂_same.mpr fun c hc => ⟨rfl, ?_⟩
    rintro alternative rfl
    exact h alternative hc
  exact (Criterion.someSatisfied_alike helements _).ofOperator hwhole

/-- Criteria that look at paths are evaluated alike on items that have the same at each path of the
footprint. -/
theorem Criteria.LooksAtPaths.evaluate_alike (h : q.LooksAtPaths) (hsome : x.isSome = y.isSome)
    (hagree : AgreeAt q.footprint x y) :
    (q.evaluate x).Alike (SameOrWhole x y) (q.evaluate y) := by
  induction h with
  | nil => exact alike_of rfl
  | @path key c q hkey _ ih =>
    rw [footprint_cons_path hkey] at hagree
    have hitem : Path.resolve x key = Path.resolve y key := hagree key List.mem_cons_self
    have hrest := ih (hagree.mono (List.subset_cons_self _ _))
    simp only [evaluate, hkey, hitem]
    exact (alike_refl .same _).andThen hrest
  | @present key c q hkey _ ih =>
    rw [footprint_cons_present hkey] at hagree
    simp only [evaluate, hkey]
    exact (Operator.apply_present_alike hsome c).andThen (ih hagree)
  | @either key cs q hkey _ _ ihs ih =>
    rw [footprint_cons_either hkey] at hagree
    have halternatives (alternative : Criteria) (hmem : .nested alternative ∈ cs) :
        (alternative.evaluate x).Alike (SameOrWhole x y) (alternative.evaluate y) :=
      ihs alternative hmem <| hagree.mono fun _ hpath =>
        List.mem_append_left _ (Criterion.mem_footprintOfAll hmem hpath)
    have hrest := ih (hagree.mono (List.subset_append_right _ _))
    simp only [evaluate, hkey]
    exact (Operator.apply_either_alike halternatives).andThen hrest

/-! ### Changes beside the footprint -/

/-- The two items are the same, but for what they have where the keys lead. -/
inductive DifferAt : List String → Option Value → Option Value → Prop
  /-- Anything may have changed here. -/
  | here (x y : Option Value) : DifferAt [] x y
  /-- The other fields of an object have not changed. -/
  | under {key : String} {keys : List String} {fields others : Fields Value} :
      (∀ other, other ≠ key → fields.lookup other = others.lookup other) →
      DifferAt keys (fields.lookup key) (others.lookup key) →
      DifferAt (key :: keys) (some (.object fields)) (some (.object others))

/-- Keys that lead neither into the change nor to something around it lead to the same. -/
theorem DifferAt.follow_eq {keys path : List String} (h : DifferAt keys x y)
    (hinto : ¬keys <+: path) (haround : ¬path <+: keys) :
    Path.follow x path = Path.follow y path := by
  induction h generalizing path with
  | here x y => exact absurd List.nil_prefix hinto
  | @under key keys fields others hothers _ ih =>
    cases path with
    | nil => exact absurd List.nil_prefix haround
    | cons other path =>
      simp only [Path.follow_cons, Option.bind_some, Value.field?]
      by_cases hkey : other = key
      · subst hkey
        rw [List.cons_prefix_cons] at hinto haround
        exact ih (fun hp => hinto ⟨rfl, hp⟩) fun hp => haround ⟨rfl, hp⟩
      · rw [hothers other hkey]

/-- The change is beside some paths: none of them leads into it or to something around it. -/
def Beside (keys paths : List String) : Prop :=
  ∀ path ∈ paths, ¬keys <+: Path.keys path ∧ ¬Path.keys path <+: keys

theorem DifferAt.agreeAt {keys paths : List String} (h : DifferAt keys x y)
    (hbeside : Beside keys paths) : AgreeAt paths x y :=
  fun path hpath => h.follow_eq (hbeside path hpath).1 (hbeside path hpath).2

/-! ### Nothing else is looked at -/

/-- The dispatches are the same but for records as a whole, which stand at the same position of the
two collections. -/
def Collection.SameOrRecord (c d : Collection) (a b : Dispatch) : Prop :=
  ∃ e ∈ c.records.zip d.records, a.SameOrWhole (some e.1) (some e.2) b

/-- **The footprint is all that criteria look at.** -/
theorem footprint_suffices (q : Criteria) (h : q.LooksAtPaths) :
    -- On records that agree at the paths of the footprint, the verdict is the same and the same
    -- operators are dispatched, on the same items or, for presence and the choice, on the records
    -- as a whole.
    (∀ r s : Value, AgreeAt q.footprint (some r) (some s) →
      (q.evaluate (some r)).Alike (SameOrWhole (some r) (some s)) (q.evaluate (some s))) ∧
    -- So it is where a record is changed beside these paths.
    (∀ (keys : List String) (r s : Value), DifferAt keys (some r) (some s) →
      Beside keys q.footprint →
      (q.evaluate (some r)).Alike (SameOrWhole (some r) (some s)) (q.evaluate (some s))) ∧
    -- No query ends differently on collections of which the records agree at the footprint.
    ∀ c d : Collection,
      List.Forall₂ (fun r s => AgreeAt q.footprint (some r) (some s)) c.records d.records →
      Collection.QueriedAlike (c.SameOrRecord d) q c d := by
  have hrecords (r s : Value) (hagree : AgreeAt q.footprint (some r) (some s)) :
      (q.evaluate (some r)).Alike (SameOrWhole (some r) (some s)) (q.evaluate (some s)) :=
    h.evaluate_alike rfl hagree
  refine ⟨hrecords, fun keys r s hdiffer hbeside => hrecords r s (hdiffer.agreeAt hbeside), ?_⟩
  intro c d hagree
  obtain ⟨hlength, hzip⟩ := List.forall₂_iff_zip.mp hagree
  refine Collection.queriedAlike (List.forall₂_iff_zip.mpr ⟨hlength, fun {r s} hmem => ?_⟩)
  exact (hrecords r s (hzip hmem)).mono fun a b hab => ⟨(r, s), hmem, hab⟩

/-- A record with one field, whose value is another one, is changed in that field. -/
theorem DifferAt.single (key : String) (v w : Value) :
    DifferAt [key] (some (.object [(key, v)])) (some (.object [(key, w)])) := by
  refine .under (fun other hother => ?_) (.here _ _)
  rw [List.lookup_cons, List.lookup_cons, beq_false_of_ne hother]

/-- A change shows in the log, though no path leads to the changed field, where the record as a
whole is logged; and it shows in the verdict where a path leads through the changed field to what is
inside. -/
theorem changes_show :
    (let q : Criteria := [("$exists", .literal (.bool true))]
      let r : Value := .object [("a", .scalar (.number (.signed 1)))]
      let s : Value := .object [("a", .scalar (.number (.signed 2)))]
      q.LooksAtPaths ∧ q.footprint = [] ∧ DifferAt ["a"] (some r) (some s) ∧
        ∀ describe : Value → String, describe r ≠ describe s →
          (q.evaluate (some r)).log.map (LogEntry.message describe) ≠
            (q.evaluate (some s)).log.map (LogEntry.message describe)) ∧
    (let q : Criteria := [("a.b", .literal (.number (.signed 1)))]
      let r : Value := .object [("a", .scalar (.number (.signed 5)))]
      let s : Value := .object [("a", .object [("b", .scalar (.number (.signed 1)))])]
      q.LooksAtPaths ∧ q.footprint.map Path.keys = [["a", "b"]] ∧
        DifferAt ["a"] (some r) (some s) ∧
        (q.evaluate (some r)).verdict = .no ∧ (q.evaluate (some s)).verdict = .yes) := by
  refine ⟨⟨?present, ?nowhere, .single _ _ _, fun describe hne htexts => ?logged⟩,
    ⟨?path, ?through, .single _ _ _, ?no, ?yes⟩⟩
  case present => exact .present (by decide +kernel) .nil
  case path => exact .path (by decide +kernel) .nil
  case logged =>
    have htext := (List.cons.inj htexts).1
    simp only [LogEntry.message, LogEntry.itemText, String.append_right_inj,
      String.append_left_inj] at htext
    exact hne htext
  all_goals decide +kernel

/-- Criteria with a dotted path, and alternatives of which the last cannot be decided. -/
def reachable : Criteria :=
  [("user.name", .literal (.string "Ann")),
   ("$exists", .literal .null),
   ("$or", .list [.nested [("age", .nested [("$gt", .literal (.number (.signed 40)))])],
     .nested [("$or", .list [.nested [("tags", .list [.literal .null])], .literal .null])]])]

theorem reachable_looksAtPaths : reachable.LooksAtPaths := by
  have hage (c : Criterion) : Criteria.LooksAtPaths [("age", c)] := .path rfl .nil
  have htags (c : Criterion) : Criteria.LooksAtPaths [("tags", c)] := .path rfl .nil
  refine .path rfl (.present rfl (.either rfl ?alternatives .nil))
  simp only [List.mem_cons, List.not_mem_nil, or_false, Criterion.nested.injEq]
  rintro _ (rfl | rfl)
  · exact hage _
  · exact .either rfl (by simp [htags]) .nil

/-- A record of Ann at thirty with a mail address. -/
def annAt (mail : String) : Value :=
  .object
    [("user", .object [("name", .scalar (.string "Ann")), ("mail", .scalar (.string mail))]),
     ("age", .scalar (.number (.signed 30)))]

/-- No path leads to the mail address, so a change of it leaves the error what it is. -/
theorem mail_is_not_reachable :
    reachable.LooksAtPaths ∧ Beside ["user", "mail"] reachable.footprint ∧
      DifferAt ["user", "mail"] (some (annAt "a")) (some (annAt "b")) ∧
      (reachable.evaluate (some (annAt "a"))).verdict =
        .error (.mismatch .either .listOfCriteria .null) ∧
      (reachable.evaluate (some (annAt "a"))).Alike
        (SameOrWhole (some (annAt "a")) (some (annAt "b")))
        (reachable.evaluate (some (annAt "b"))) := by
  have hfootprint : reachable.footprint = ["user.name", "age", "tags"] := by decide +kernel
  have hbeside : Beside ["user", "mail"] reachable.footprint := by
    rw [hfootprint, Beside]
    decide +kernel
  have hdiffer : DifferAt ["user", "mail"] (some (annAt "a")) (some (annAt "b")) := by
    refine .under (fun other hother => ?_) (.under (fun other hother => ?_) (.here _ _))
    · simp [List.lookup_cons, beq_false_of_ne hother]
    · simp [List.lookup_cons, beq_false_of_ne hother]
  exact ⟨reachable_looksAtPaths, hbeside, hdiffer, by decide +kernel,
    (footprint_suffices reachable reachable_looksAtPaths).2.1 _ _ _ hdiffer hbeside⟩

end RecordSieve
