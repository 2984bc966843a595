import RecordSieve.Proofs.Equality

/-!
# Numbers of JSON

JSON has one type of numbers. Which of the representations of `Number` one of them gets is found out
by asking: it is a signed word if it is an integer that fits one, else an unsigned word if it is an
integer that fits one, and else a double.

The three questions overlap, for a small natural answers all of them, and a number that answered
none would become NaN. **`Number.ofJson_cases`** says how they end: an integer of JSON goes into the
first word that holds it, a double stays the same double, and every number answers. The
representation that a number gets thus gives the number back (`Number.json?_ofJson`).
-/

namespace RecordSieve

/-- A number of JSON: an integer that a signed or an unsigned word holds, or a finite double. -/
inductive JsonNumber where
  /-- An integer that is not negative. -/
  | natural (n : UInt64)
  /-- A negative integer. -/
  | negative (n : Int64) (lt_zero : n < 0)
  /-- A number that is written with a fraction or an exponent, or that no word holds. -/
  | double (x : Double) (isFinite : x.isFinite = true)
  deriving DecidableEq, Repr

/-- One of the words that stand for no number. -/
def Double.nan : Double := ⟨0x7FF8000000000000⟩

namespace JsonNumber

/-- The integer that the number is, unless it is a double. -/
def integer? : JsonNumber → Option Int
  | natural n => some n.toNat
  | negative n _ => some n.toInt
  | double _ _ => none

/-- The number as a signed word, if it is an integer that fits one. -/
def signed? : JsonNumber → Option Int64
  | natural n => if n ≤ Int64.maxValue.toUInt64 then some n.toInt64 else none
  | negative n _ => some n
  | double _ _ => none

/-- The number as an unsigned word, if it is an integer that fits one. -/
def unsigned? : JsonNumber → Option UInt64
  | natural n => some n
  | negative _ _ => none
  | double _ _ => none

/-- The number as a double; an integer is rounded to the nearest one. -/
def double? : JsonNumber → Option Double
  | natural n => some (.ofInt n.toNat)
  | negative n _ => some (.ofInt n.toInt)
  | double x _ => some x

/-- The number that a signed word is. -/
def ofSigned (n : Int64) : JsonNumber :=
  if h : n < 0 then negative n h else natural n.toUInt64

end JsonNumber

namespace Number

/-- The number in the first representation that it has as a number of JSON. -/
def ofJson (n : JsonNumber) : Number :=
  match n.signed? with
  | some k => signed k
  | none =>
    match n.unsigned? with
    | some k => unsigned k
    | none => double (n.double?.getD .nan)

/-- The number of JSON that a number is, unless it is no finite number. -/
def json? : Number → Option JsonNumber
  | signed n => some (.ofSigned n)
  | unsigned n => some (.natural n)
  | double x => if h : x.isFinite = true then some (.double x h) else none

end Number

/-! ### Words of one integer -/

namespace JsonNumber

variable {n : JsonNumber}

theorem le_maxValue_iff {n : UInt64} : n ≤ Int64.maxValue.toUInt64 ↔ n.toNat < 2 ^ 63 := by
  have hmax : Int64.maxValue.toUInt64.toNat = 2 ^ 63 - 1 := by decide
  rw [UInt64.le_iff_toNat_le]
  omega

theorem toInt_toInt64 {n : UInt64} (h : n.toNat < 2 ^ 63) : n.toInt64.toInt = n.toNat := by
  rw [← Int64.toInt_ofNat_of_lt h, ← UInt64.toInt64_ofNat', UInt64.ofNat_toNat]

theorem toNat_toUInt64 {n : Int64} (h : ¬n < 0) : (n.toUInt64.toNat : Int) = n.toInt := by
  have hnonneg : 0 ≤ n := Int64.not_lt.mp h
  rw [Int64.toNat_toUInt64_of_le hnonneg, Int64.cast_toNatClampNeg n hnonneg]

theorem signed?_ofSigned (k : Int64) : (ofSigned k).signed? = some k := by
  rw [ofSigned]
  split_ifs with hk
  · rfl
  · have hle : k.toUInt64 ≤ Int64.maxValue.toUInt64 := by
      have hnat := toNat_toUInt64 hk
      have hlt := k.toInt_lt
      exact le_maxValue_iff.mpr (by omega)
    rw [signed?, if_pos hle, Int64.toInt64_toUInt64]

/-- The number that has a signed word is the one that the word is. -/
theorem eq_ofSigned {k : Int64} (h : n.signed? = some k) : n = ofSigned k := by
  cases n with
  | natural n =>
    rw [signed?] at h
    split_ifs at h with hn
    obtain rfl := Option.some.inj h
    have hnonneg : ¬n.toInt64 < 0 := by
      rw [Int64.lt_iff_toInt_lt, toInt_toInt64 (le_maxValue_iff.mp hn), Int64.toInt_zero]
      omega
    rw [ofSigned, dif_neg hnonneg, UInt64.toUInt64_toInt64]
  | negative n hn =>
    obtain rfl := Option.some.inj h
    rw [ofSigned, dif_pos hn]
  | double x hx => cases h

theorem integer?_ofSigned (k : Int64) : (ofSigned k).integer? = some k.toInt := by
  rw [ofSigned]
  split_ifs with hk
  · rfl
  · rw [integer?, toNat_toUInt64 hk]

end JsonNumber

/-! ### The representation of a number -/

namespace Number

theorem ofJson_ofSigned (k : Int64) : ofJson (.ofSigned k) = signed k := by
  simp only [ofJson, JsonNumber.signed?_ofSigned]

theorem ofJson_natural {k : UInt64} (h : 2 ^ 63 ≤ k.toNat) : ofJson (.natural k) = unsigned k := by
  have hnone : (JsonNumber.natural k).signed? = none :=
    if_neg (mt JsonNumber.le_maxValue_iff.mp (by omega))
  simp only [ofJson, hnone]
  rfl

/-- A number of JSON is a signed word, or an unsigned word that is no signed one, or a double, and is
represented as such. -/
theorem ofJson_cases (n : JsonNumber) :
    (∃ k, n = .ofSigned k ∧ ofJson n = signed k) ∨
      (∃ k, n = .natural k ∧ 2 ^ 63 ≤ k.toNat ∧ ofJson n = unsigned k) ∨
      ∃ x h, n = .double x h ∧ ofJson n = double x := by
  cases hsigned : n.signed? with
  | some k =>
    obtain rfl := JsonNumber.eq_ofSigned hsigned
    exact .inl ⟨k, rfl, ofJson_ofSigned k⟩
  | none =>
    right
    cases n with
    | natural k =>
      rw [JsonNumber.signed?] at hsigned
      split_ifs at hsigned with hk
      have hlarge : 2 ^ 63 ≤ k.toNat := Nat.not_lt.mp (mt JsonNumber.le_maxValue_iff.mpr hk)
      exact .inl ⟨k, rfl, hlarge, ofJson_natural hlarge⟩
    | negative k hk => cases hsigned
    | double x h => exact .inr ⟨x, h, rfl, rfl⟩

/-- The representation of a number of JSON gives the number back. -/
theorem json?_ofJson (n : JsonNumber) : (ofJson n).json? = some n := by
  rcases ofJson_cases n with ⟨k, rfl, h⟩ | ⟨k, rfl, -, h⟩ | ⟨x, hx, rfl, h⟩
  · rw [h, json?]
  · rw [h, json?]
  · rw [h, json?, dif_pos hx]

/-- No number of JSON becomes NaN. -/
theorem isNaN_ofJson (n : JsonNumber) : (ofJson n).isNaN = false := by
  rcases ofJson_cases n with ⟨k, rfl, h⟩ | ⟨k, rfl, -, h⟩ | ⟨x, hx, rfl, h⟩
  · rw [h]
    rfl
  · rw [h]
    rfl
  · rw [Double.isFinite, bne_iff_ne] at hx
    rw [h, isNaN, Double.isNaN, beq_false_of_ne hx, Bool.false_and]

/-- The number that is chosen for an integer represents the integer of JSON. -/
theorem ofInt?_eq_some_iff {k : Int} {a : Number} :
    ofInt? k = some a ↔ ∃ n : JsonNumber, n.integer? = some k ∧ ofJson n = a := by
  have hmax : Int64.maxValue.toInt = 2 ^ 63 - 1 := Int64.toInt_maxValue
  constructor
  · intro h
    rw [ofInt?] at h
    split_ifs at h with hsigned hunsigned
    · obtain rfl := Option.some.inj h
      refine ⟨.ofSigned (Int64.ofInt k), ?_, ofJson_ofSigned _⟩
      rw [JsonNumber.integer?_ofSigned, Int64.toInt_ofInt_of_le hsigned.1 (by omega)]
    · obtain rfl := Option.some.inj h
      have hmin : Int64.minValue.toInt = -2 ^ 63 := Int64.toInt_minValue
      have hword : (UInt64.ofNat k.toNat).toNat = k.toNat :=
        UInt64.toNat_ofNat_of_lt' (by omega)
      refine ⟨.natural (UInt64.ofNat k.toNat), ?_, ofJson_natural (by omega)⟩
      rw [JsonNumber.integer?, hword, Int.toNat_of_nonneg hunsigned.1]
  · rintro ⟨n, hn, rfl⟩
    rcases ofJson_cases n with ⟨w, rfl, h⟩ | ⟨w, rfl, hw, h⟩ | ⟨x, hx, rfl, h⟩
    · obtain rfl := Option.some.inj ((JsonNumber.integer?_ofSigned w).symm.trans hn)
      rw [h, ofInt?, if_pos ⟨w.minValue_le_toInt, w.toInt_le⟩, Int64.ofInt_toInt]
    · obtain rfl := Option.some.inj hn
      have hrange : (0 : Int) ≤ w.toNat ∧ (w.toNat : Int) < UInt64.size :=
        ⟨by omega, by exact_mod_cast w.toNat_lt_size⟩
      rw [h, ofInt?, if_neg (by omega), if_pos hrange, Int.toNat_natCast, UInt64.ofNat_toNat]
    · cases hn

end Number

end RecordSieve
