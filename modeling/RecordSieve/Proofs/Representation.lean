import RecordSieve.Delivery
import RecordSieve.Number.Numeral
import RecordSieve.Proofs.NumberOrder
import RecordSieve.Proofs.SideBySide

/-!
# Representations of an integer

An integer has several representations as a number: a signed word, an unsigned word, or a double
that is worth it. Which of them a literal is in depends on how criteria were made: what is read from
a text is signed if it can be, and what is built in a program is as it was there.

Below `2 ^ 53` it makes no difference. No number is rounded to a double of that size but the integer
that the double is worth, so every record, also one with a number that no double can hold, is
compared with all representations alike. Two words that hold the same integer make no difference
at any size. **`representation_is_irrelevant`** carries this from literals to all of criteria and to
the queries that are made with them. At `2 ^ 53` it ends: the double is equal to the next integer,
too, which a word is not.
-/

namespace RecordSieve

namespace Number

variable {a b : Number} {m n : Int}

/-- The number is a representation of the integer: a word that holds it, or, below `2 ^ 53`, a
double that is worth it. Both doubles that are worth zero represent it. -/
def Represents (a : Number) (n : Int) : Prop :=
  a.integer? = some n ∨ n.natAbs < 2 ^ 53 ∧ a.value? = some (.ofRat n)

theorem Represents.value?_eq (h : a.Represents n) : a.value? = some (.ofRat n) := by
  rcases h with hinteger | ⟨-, hvalue⟩
  · exact value?_of_integer? hinteger
  · exact hvalue

theorem Represents.eq_of_integer? (h : a.Represents n) (hm : a.integer? = some m) : m = n := by
  have hvalue : ExactValue.ofRat m = ExactValue.ofRat n :=
    Option.some.inj ((value?_of_integer? hm).symm.trans h.value?_eq)
  exact_mod_cast WithTop.coe_injective (WithBot.coe_injective hvalue)

/-- All numbers are compared alike with the representations of an integer. -/
theorem Represents.compare_eq (ha : a.Represents n) (hb : b.Represents n) (x : Number) :
    x.compare a = x.compare b := by
  have heq : a.compare b = some .eq := compare_eq_of_value_eq ha.value?_eq hb.value?_eq
  refine (compare_congr_iff heq).mpr ?_ x
  by_cases hn : n.natAbs < 2 ^ 53
  · right
    constructor
    · exact not_blurred_of_natAbs_lt fun m hm => ha.eq_of_integer? hm ▸ hn
    · exact not_blurred_of_natAbs_lt fun m hm => hb.eq_of_integer? hm ▸ hn
  · -- Beyond, only words represent the integer.
    left
    exact ⟨n, ha.resolve_right fun h => hn h.1, hb.resolve_right fun h => hn h.1⟩

/-- A double represents an integer below `2 ^ 53` if it has as many units. -/
theorem represents_double {x : Double} (hn : n.natAbs < 2 ^ 53) (hx : x.isNaN = false)
    (hunits : x.units = n * Double.unitsOfOne) : (double x).Represents n := by
  refine .inr ⟨hn, ?_⟩
  have hvalue : (double x).value? = some (ExactValue.ofUnits x.units) := value?_eq_ofUnits hx
  rw [hvalue, hunits, ExactValue.ofUnits_mul_unitsOfOne (by omega)]

/-- The double that an integer below `2 ^ 53` is rounded to represents the integer. -/
theorem represents_ofInt (hn : n.natAbs < 2 ^ 53) : (double (Double.ofInt n)).Represents n :=
  represents_double hn (Double.isNaN_ofInt n) (Double.units_ofInt_of_natAbs_le hn.le)

/-- An integer that some word holds is held by the word that is chosen for it. -/
theorem exists_ofInt? (ha : a.integer? = some n) :
    ∃ b, ofInt? n = some b ∧ b.integer? = some n := by
  by_cases hsigned : Int64.minValue.toInt ≤ n ∧ n ≤ Int64.maxValue.toInt
  · refine ⟨signed (Int64.ofInt n), if_pos hsigned, ?_⟩
    have hword : (Int64.ofInt n).toInt = n := Int64.toInt_ofInt_of_le hsigned.1 (by grind)
    rw [integer?, hword]
  · cases a with
    | signed k =>
      cases ha
      exact absurd ⟨k.minValue_le_toInt, k.toInt_le⟩ hsigned
    | unsigned k =>
      cases ha
      have hrange : (0 : Int) ≤ k.toNat ∧ (k.toNat : Int) < UInt64.size :=
        ⟨by omega, by exact_mod_cast k.toNat_lt_size⟩
      refine ⟨unsigned k, ?_, rfl⟩
      rw [ofInt?, if_neg hsigned, if_pos hrange, Int.toNat_natCast, UInt64.ofNat_toNat]
    | double x => cases ha

/-- What a program makes of an integer holds it. -/
theorem integer?_ofMachine (k : MachineInteger) : (ofMachine k).integer? = some k.toInt := by
  cases k <;> simp [ofMachine, integer?, MachineInteger.toInt]

end Number

/-- The integer that a numeral without fraction and exponent is written for. -/
def Numeral.integer (x : Numeral) : Int :=
  if x.negative then -(Digits.value x.whole : Int) else Digits.value x.whole

/-- What is written for an integer that some word holds is read as such a word. Minus zero is read
as a double, though. -/
theorem Numeral.exists_number? {x : Numeral} {a : Number} (hplain : x.plain = true)
    (hzero : x.negative = true → Digits.value x.whole ≠ 0) (ha : a.integer? = some x.integer) :
    ∃ b, x.number? = some b ∧ b.integer? = some x.integer := by
  obtain ⟨b, hb, hinteger⟩ := Number.exists_ofInt? ha
  have hcond : (!x.plain || (x.negative && Digits.value x.whole == 0)) = false := by
    cases hneg : x.negative <;> simp_all
  refine ⟨b, ?_, hinteger⟩
  rw [number?, hcond]
  exact congrArg (Option.orElse · _) hb

/-! ### Scalars and criteria -/

/-- The scalars are the same, or they are numbers that represent the same integer. -/
inductive Scalar.SameInteger : Scalar → Scalar → Prop
  /-- Nothing is replaced. -/
  | same (s : Scalar) : SameInteger s s
  /-- A number is replaced by another representation. -/
  | integer {a b : Number} {n : Int} : a.Represents n → b.Represents n →
      SameInteger (.number a) (.number b)

theorem Scalar.SameInteger.interchangeable {s t : Scalar} (h : s.SameInteger t) :
    s.Interchangeable t := by
  cases h with
  | same => exact s.interchangeable_refl
  | integer ha hb =>
    refine ⟨rfl, fun x => ?_⟩
    cases x with
    | number x => exact ha.compare_eq hb x
    | null | bool _ | string _ => rfl

theorem Criterion.restates_number {a b : Number} {n : Int} (ha : a.Represents n)
    (hb : b.Represents n) :
    (literal (.number a)).Restates Scalar.SameInteger (.literal (.number b)) :=
  .literal (.integer ha hb)

/-! ### Queries with criteria that are evaluated alike -/

namespace Collection

variable {q r : Criteria} (h : ∀ item, q.evaluate item = r.evaluate item)

include h

theorem hitsFrom_congr (k : Nat) (records : List Value) :
    hitsFrom q k records = hitsFrom r k records := by
  induction records generalizing k with
  | nil => rfl
  | cons v records ih => simp only [hitsFrom, h, ih]

theorem positionFrom_congr (k : Nat) (records : List Value) :
    positionFrom q k records = positionFrom r k records := by
  induction records generalizing k with
  | nil => rfl
  | cons v records ih => simp only [positionFrom, h, ih]

theorem sieve_congr (c : Collection) : c.sieve q = c.sieve r := by
  rw [sieve, sieve, hitsFrom_congr h]

theorem position_congr (c : Collection) : c.position q = c.position r :=
  positionFrom_congr h 0 c.records

end Collection

/-- **The representation of integers in criteria makes no difference.** -/
theorem representation_is_irrelevant {c d : Criterion} (h : c.Restates Scalar.SameInteger d) :
    -- With other representations of the integers in its literals, at any depth, a criterion is
    -- evaluated alike, looked for alike, and the operand of the same operators to the same end,
    -- with the same verdict and the same dispatches.
    (∀ item, c.evaluate item = d.evaluate item ∧ c.found item = d.found item ∧
      ∀ op : Operator, op.apply c item = op.apply d item) ∧
    -- So all queries with the one criteria end like those with the other, and log the same.
    (∀ q r : Criteria, c = .nested q → d = .nested r → ∀ records : Collection,
      records.sieve q = records.sieve r ∧ records.find q = records.find r ∧
      (∀ receiver, records.defer q receiver = records.defer r receiver) ∧
      records.count q = records.count r ∧ records.position q = records.position r ∧
      records.first q = records.first r ∧ records.any q = records.any r) ∧
    -- What is read where an integer is written and what a program makes of the same integer, in
    -- whichever type it has it, are representations of one integer.
    ∀ (x : Numeral) (k : MachineInteger), x.plain = true →
      (x.negative = true → Digits.value x.whole ≠ 0) → k.toInt = x.integer →
      ∃ b, x.number? = some b ∧ Scalar.SameInteger (.number (.ofMachine k)) (.number b) := by
  have hsame := h.same fun _ _ hst => hst.interchangeable
  refine ⟨hsame, fun q r hc hd records => ?_, fun x k hplain hzero hk => ?_⟩
  · have heval (item : Option Value) : q.evaluate item = r.evaluate item := by
      rw [← Criterion.evaluate_nested, ← Criterion.evaluate_nested, ← hc, ← hd]
      exact (hsame item).1
    have hsieve := Collection.sieve_congr heval records
    have hposition := Collection.position_congr heval records
    refine ⟨hsieve, ?_, fun receiver => ?_, ?_, hposition, ?_, ?_⟩
    · rw [Collection.find, Collection.find, hsieve]
    · rw [Collection.defer, Collection.defer, hsieve]
    · rw [Collection.count, Collection.count, hsieve]
    · rw [Collection.first, Collection.first, hposition]
    · rw [Collection.any, Collection.any, hposition]
  · have hmachine := Number.integer?_ofMachine k
    obtain ⟨b, hb, hinteger⟩ := Numeral.exists_number? hplain hzero (hk ▸ hmachine)
    exact ⟨b, hb, .integer (.inl hmachine) (.inl (hk ▸ hinteger))⟩

/-- At `2 ^ 53` the representation makes a difference to a record with the next integer. -/
example :
    let next : Option Value := some (.scalar (.number (.signed 9007199254740993)))
    (Criterion.literal (.number (.signed 9007199254740992))).evaluate next = .of .no ∧
      (Criterion.literal (.number (.double (.ofInt 9007199254740992)))).evaluate next = .of .yes := by
  decide +kernel

/-- Criteria with integers in nested criteria and in elements of a list. -/
def countsBetween (low zero high : Number) : Criteria :=
  [("count", .nested [("$gte", .literal (.number low)),
    ("$in", .list [.literal (.number zero), .nested [("$gt", .literal (.number high))]])])]

/-- The integers may be an unsigned word and two doubles, minus zero among them, or signed words,
also for a record with an integer that no double holds. -/
theorem representations_of_counts :
    let q := countsBetween (.unsigned 0) (.double ⟨0x8000000000000000⟩) (.double (.ofInt 5))
    let r := countsBetween (.signed 0) (.signed 0) (.signed 5)
    (Criterion.nested q).Restates Scalar.SameInteger (.nested r) ∧
      (∀ records : Collection, records.sieve q = records.sieve r) ∧
      (q.evaluate (some (.object [("count",
        .scalar (.number (.unsigned 9007199254740993)))]))).verdict = .yes := by
  have hzero : (Number.double ⟨0x8000000000000000⟩).Represents 0 :=
    Number.represents_double (by decide) (by decide) (by decide +kernel)
  have hfive : (Number.double (.ofInt 5)).Represents 5 := Number.represents_ofInt (by decide)
  have hrestates : (Criterion.nested
      (countsBetween (.unsigned 0) (.double ⟨0x8000000000000000⟩) (.double (.ofInt 5)))).Restates
      Scalar.SameInteger (.nested (countsBetween (.signed 0) (.signed 0) (.signed 5))) := by
    have hlow := Criterion.restates_number (a := .unsigned 0) (b := .signed 0) (.inl rfl) (.inl rfl)
    have hmember := Criterion.restates_number (b := .signed 0) hzero (.inl rfl)
    have hhigh := Criterion.restates_number (b := .signed 5) hfive (.inl rfl)
    refine .nested rfl (.cons (.nested rfl (.cons hlow (.cons (.list ?_) .nil))) .nil)
    exact .cons hmember (.cons (.nested rfl (.cons hhigh .nil)) .nil)
  refine ⟨hrestates, fun records => ?_, by decide +kernel⟩
  exact ((representation_is_irrelevant hrestates).2.1 _ _ rfl rfl records).1

end RecordSieve
