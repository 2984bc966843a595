import RecordSieve.Criterion.Basic

/-!
# Induction over criteria

A criterion holds other criteria in two ways: as the elements of a list and under the keys of
nested criteria. The induction that Lean derives walks along those lists and pairs step by step.
The one below gives what holds of every element and of every entry at once, so that a property of
criteria needs one case for each constructor.
-/

namespace RecordSieve

/-- What holds of a list as soon as it holds of its elements, of nested criteria as soon as it
holds of what stands under their keys, and of literals and patterns, holds of every criterion. -/
@[elab_as_elim, induction_eliminator]
theorem Criterion.induction {motive : Criterion → Prop}
    (literal : ∀ s, motive (.literal s))
    (pattern : ∀ p, motive (.pattern p))
    (list : ∀ cs, (∀ c ∈ cs, motive c) → motive (.list cs))
    (nested : ∀ entries : Criteria, (∀ e ∈ entries, motive e.2) → motive (.nested entries)) :
    ∀ c, motive c := by
  intro c
  refine @Criterion.rec motive (fun cs => ∀ c ∈ cs, motive c)
    (fun entries => ∀ e ∈ entries, motive e.2) (fun e => motive e.2) literal pattern (fun cs ih => list cs ih)
    (fun entries ih => nested entries ih) (by simp) ?_ (by simp) ?_ (fun _ _ ih => ih) c
  · intro c cs hc hcs d hd
    rcases List.mem_cons.mp hd with rfl | hd
    · exact hc
    · exact hcs d hd
  · intro e entries he hentries f hf
    rcases List.mem_cons.mp hf with rfl | hf
    · exact he
    · exact hentries f hf

end RecordSieve
