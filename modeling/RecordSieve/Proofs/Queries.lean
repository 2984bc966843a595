import RecordSieve.Collection

/-!
# What the queries find

Two loops carry all queries. One evaluates every record and collects hits until a record cannot
be decided; the other stops at the first hit as well. Each goes on as long as something holds of
the records, and its result is decided by the record at which it stops, if there is one. Which
record that is, `Reaches` says: it stands at a position, and the loop goes on at all positions
before it.

**`queries_agree`** describes the result of every query by the verdicts on the records alone, each
at its position, and says how the results of the queries are related. Records are told apart by
their positions throughout, so it does not matter whether some of them are equal.
-/

namespace RecordSieve

/-! ### Where a loop stops -/

/-- A loop that goes on where `goesOn` holds comes to position `i`, where it meets `x`. -/
def Reaches {α : Type} (goesOn : α → Prop) (xs : List α) (i : Nat) (x : α) : Prop :=
  xs[i]? = some x ∧ ∀ j < i, ∀ y, xs[j]? = some y → goesOn y

variable {α : Type} {goesOn : α → Prop} {xs : List α} {i : Nat} {x : α}

/-- What goes on longer comes as far. -/
theorem Reaches.mono {further : α → Prop} (h : Reaches goesOn xs i x)
    (hmono : ∀ y, goesOn y → further y) : Reaches further xs i x :=
  ⟨h.1, fun j hj y hy => hmono y (h.2 j hj y hy)⟩

/-- The list is cut at the position: the loop goes on before it. -/
theorem Reaches.split (h : Reaches goesOn xs i x) :
    ∃ before after, xs = before ++ x :: after ∧ before.length = i ∧ ∀ y ∈ before, goesOn y := by
  obtain ⟨hx, hbefore⟩ := h
  obtain ⟨hi, rfl⟩ := List.getElem?_eq_some_iff.mp hx
  refine ⟨xs.take i, xs.drop (i + 1), by simp, by simp; omega, fun y hy => ?_⟩
  obtain ⟨j, hj, rfl⟩ := List.mem_iff_getElem.mp hy
  have hlt : j < i := by
    rw [List.length_take] at hj
    omega
  exact hbefore j hlt _ (by simp)

/-- A loop comes to the end, or it stops somewhere. -/
theorem forall_or_reaches (goesOn : α → Prop) (xs : List α) :
    (∀ x ∈ xs, goesOn x) ∨ ∃ i x, Reaches goesOn xs i x ∧ ¬goesOn x := by
  induction xs with
  | nil => simp
  | cons x xs ih =>
    by_cases hx : goesOn x
    · rcases ih with hall | ⟨i, y, ⟨hy, hbefore⟩, hstop⟩
      · exact .inl (List.forall_mem_cons.mpr ⟨hx, hall⟩)
      · refine .inr ⟨i + 1, y, ⟨by simpa using hy, fun j hj z hz => ?_⟩, hstop⟩
        cases j with
        | zero =>
          obtain rfl : x = z := by simpa using hz
          exact hx
        | succ j => exact hbefore j (by omega) z (by simpa using hz)
    · exact .inr ⟨0, x, ⟨rfl, fun j hj => absurd hj (by omega)⟩, hx⟩

/-! ### Verdicts on records -/

namespace Criteria

/-- The verdict on a record. -/
def verdictOn (q : Criteria) (r : Value) : Verdict := (q.evaluate (some r)).verdict

/-- The record is no hit; a query for the first hit goes on. -/
def Misses (q : Criteria) (r : Value) : Prop := q.verdictOn r = .no

/-- The record is a hit or it is none; a query for all hits goes on. -/
def Decided (q : Criteria) (r : Value) : Prop := ∀ cause, q.verdictOn r ≠ .error cause

theorem Misses.decided {q : Criteria} {r : Value} (h : q.Misses r) : q.Decided r := by
  intro cause
  rw [h]
  exact nofun

theorem Decided.yes_of_not_misses {q : Criteria} {r : Value} (h : q.Decided r)
    (hr : ¬q.Misses r) : q.verdictOn r = .yes := by
  cases hv : q.verdictOn r with
  | yes => rfl
  | no => exact absurd hv hr
  | error cause => exact absurd hv (h cause)

theorem exists_error_of_not_decided {q : Criteria} {r : Value} (h : ¬q.Decided r) :
    ∃ cause, q.verdictOn r = .error cause := by
  simpa [Decided] using h

end Criteria

namespace Collection

variable {c : Collection} {q : Criteria} {k : Nat} {r : Value} {before after rs : List Value}

/-! ### The loop that stops at the first hit -/

theorem result_positionFrom_cons :
    (positionFrom q k (r :: rs)).result =
      match q.verdictOn r with
      | .error cause => .error ⟨k, cause⟩
      | .yes => .ok (some k)
      | .no => (positionFrom q (k + 1) rs).result := by
  rw [positionFrom, Criteria.verdictOn]
  cases (q.evaluate (some r)).verdict <;> rfl

/-- Records that are no hits are passed over. -/
theorem result_positionFrom_append (h : ∀ r ∈ before, q.Misses r) :
    (positionFrom q k (before ++ rs)).result = (positionFrom q (k + before.length) rs).result := by
  induction before generalizing k with
  | nil => rfl
  | cons r before ih =>
    obtain ⟨hr, hrest⟩ := List.forall_mem_cons.mp h
    rw [List.cons_append, result_positionFrom_cons, hr]
    simp only
    rw [ih hrest, List.length_cons]
    congr 2
    omega

theorem result_position_of_misses (h : ∀ r ∈ c.records, q.Misses r) :
    (c.position q).result = .ok none := by
  have happend : (positionFrom q 0 (c.records ++ [])).result = _ := result_positionFrom_append h
  rw [List.append_nil] at happend
  exact happend

theorem result_position_of_hit (h : Reaches q.Misses c.records i r) (hr : q.verdictOn r = .yes) :
    (c.position q).result = .ok (some i) := by
  obtain ⟨before, after, hrs, rfl, hbefore⟩ := h.split
  rw [position, hrs, result_positionFrom_append hbefore, result_positionFrom_cons, hr, Nat.zero_add]

theorem result_position_of_error {cause : MatchError} (h : Reaches q.Misses c.records i r)
    (hr : q.verdictOn r = .error cause) : (c.position q).result = .error ⟨i, cause⟩ := by
  obtain ⟨before, after, hrs, rfl, hbefore⟩ := h.split
  rw [position, hrs, result_positionFrom_append hbefore, result_positionFrom_cons, hr, Nat.zero_add]

/-- All ways in which the search for the first hit ends. -/
theorem position_cases (c : Collection) (q : Criteria) :
    ((∀ r ∈ c.records, q.Misses r) ∧ (c.position q).result = .ok none) ∨
      (∃ i r, Reaches q.Misses c.records i r ∧ q.verdictOn r = .yes ∧
        (c.position q).result = .ok (some i)) ∨
      ∃ i r cause, Reaches q.Misses c.records i r ∧ q.verdictOn r = .error cause ∧
        (c.position q).result = .error ⟨i, cause⟩ := by
  rcases forall_or_reaches q.Misses c.records with hall | ⟨i, r, hi, hr⟩
  · exact .inl ⟨hall, result_position_of_misses hall⟩
  · cases hv : q.verdictOn r with
    | yes => exact .inr (.inl ⟨i, r, hi, hv, result_position_of_hit hi hv⟩)
    | no => exact absurd hv hr
    | error cause => exact .inr (.inr ⟨i, r, cause, hi, hv, result_position_of_error hi hv⟩)

theorem result_position_eq_none_iff :
    (c.position q).result = .ok none ↔ ∀ r ∈ c.records, q.Misses r := by
  refine ⟨fun h => ?_, result_position_of_misses⟩
  rcases position_cases c q with ⟨hall, -⟩ | ⟨i, r, -, -, hend⟩ | ⟨i, r, cause, -, -, hend⟩
  · exact hall
  · rw [h] at hend
    cases hend
  · rw [h] at hend
    cases hend

theorem result_position_eq_some_iff :
    (c.position q).result = .ok (some i) ↔
      ∃ r, Reaches q.Misses c.records i r ∧ q.verdictOn r = .yes := by
  refine ⟨fun h => ?_, fun ⟨r, hi, hr⟩ => result_position_of_hit hi hr⟩
  rcases position_cases c q with ⟨-, hend⟩ | ⟨j, r, hj, hr, hend⟩ | ⟨j, r, cause, -, -, hend⟩
  · rw [h] at hend
    cases hend
  · rw [h] at hend
    cases hend
    exact ⟨r, hj, hr⟩
  · rw [h] at hend
    cases hend

theorem result_position_eq_error_iff {e : ScanError} :
    (c.position q).result = .error e ↔
      ∃ r, Reaches q.Misses c.records e.index r ∧ q.verdictOn r = .error e.cause := by
  refine ⟨fun h => ?_, fun ⟨r, hi, hr⟩ => result_position_of_error hi hr⟩
  rcases position_cases c q with ⟨-, hend⟩ | ⟨i, r, -, -, hend⟩ | ⟨i, r, cause, hi, hr, hend⟩
  · rw [h] at hend
    cases hend
  · rw [h] at hend
    cases hend
  · rw [h] at hend
    cases hend
    exact ⟨r, hi, hr⟩

theorem result_first : (c.first q).result = (c.position q).result.map (·.bind c.hitAt) := rfl

theorem result_any : (c.any q).result = (c.position q).result.map Option.isSome := rfl

/-- There is a record at the position of the first hit. -/
theorem exists_result_first (h : (c.position q).result = .ok (some i)) :
    ∃ r, c.records[i]? = some r ∧ (c.first q).result = .ok (some ⟨i, r⟩) := by
  obtain ⟨r, ⟨hr, -⟩, -⟩ := result_position_eq_some_iff.mp h
  refine ⟨r, hr, ?_⟩
  rw [result_first, h]
  simp [Except.map, hitAt, hr]

/-! ### The loop that collects hits -/

/-- The hits among records whose positions are counted from `k`. -/
def hitsAmong (q : Criteria) (k : Nat) (rs : List Value) : List Hit :=
  ((rs.zipIdx k).filter fun x => q.verdictOn x.1 = .yes).map fun x => ⟨x.2, x.1⟩

theorem hitsAmong_cons :
    hitsAmong q k (r :: rs) =
      if q.verdictOn r = .yes then ⟨k, r⟩ :: hitsAmong q (k + 1) rs else hitsAmong q (k + 1) rs := by
  by_cases hr : q.verdictOn r = .yes <;> simp [hitsAmong, hr]

/-- Before the first hit there are none. -/
theorem hitsAmong_append (h : ∀ r ∈ before, q.Misses r) :
    hitsAmong q k (before ++ rs) = hitsAmong q (k + before.length) rs := by
  induction before generalizing k with
  | nil => rfl
  | cons r before ih =>
    obtain ⟨hr, hrest⟩ := List.forall_mem_cons.mp h
    rw [List.cons_append, hitsAmong_cons, hr, if_neg nofun, ih hrest, List.length_cons]
    congr 1
    omega

theorem mem_hitsAmong {hit : Hit} :
    hit ∈ hitsAmong q 0 rs ↔ rs[hit.index]? = some hit.record ∧ q.verdictOn hit.record = .yes := by
  obtain ⟨i, r⟩ := hit
  simp only [hitsAmong, List.mem_map, List.mem_filter, Prod.exists, Hit.mk.injEq,
    List.mk_mem_zipIdx_iff_getElem?, decide_eq_true_eq]
  constructor
  · rintro ⟨s, j, hs, rfl, rfl⟩
    exact hs
  · intro h
    exact ⟨r, i, h, rfl, rfl⟩

/-- Hits stand in the order of their positions, so none occurs twice. -/
theorem pairwise_hitsAmong : (hitsAmong q k rs).Pairwise (·.index < ·.index) := by
  have hpositions : ((rs.zipIdx k).map Prod.snd).Pairwise (· < ·) := by
    rw [List.zipIdx_map_snd]
    exact List.pairwise_lt_range'
  rw [List.pairwise_map] at hpositions
  rw [hitsAmong, List.pairwise_map]
  exact hpositions.filter _

theorem result_hitsFrom_cons :
    (hitsFrom q k (r :: rs)).result =
      match q.verdictOn r with
      | .error cause => .error ⟨k, cause⟩
      | .yes => (hitsFrom q (k + 1) rs).result.map (⟨k, r⟩ :: ·)
      | .no => (hitsFrom q (k + 1) rs).result := by
  rw [hitsFrom, Criteria.verdictOn]
  cases (q.evaluate (some r)).verdict <;> rfl

/-- Records that are decided add their hits to what comes of the rest. -/
theorem result_hitsFrom_append (h : ∀ r ∈ before, q.Decided r) :
    (hitsFrom q k (before ++ rs)).result =
      (hitsFrom q (k + before.length) rs).result.map (hitsAmong q k before ++ ·) := by
  induction before generalizing k with
  | nil => cases h : (hitsFrom q k rs).result <;> simp [hitsAmong, h, Except.map]
  | cons r before ih =>
    obtain ⟨hr, hrest⟩ := List.forall_mem_cons.mp h
    have hlength : k + 1 + before.length = k + (r :: before).length := by
      rw [List.length_cons]
      omega
    rw [List.cons_append, result_hitsFrom_cons, ih hrest, hitsAmong_cons, hlength]
    cases hv : q.verdictOn r with
    | yes => cases (hitsFrom q (k + (r :: before).length) rs).result <;> rfl
    | no => rfl
    | error cause => exact absurd hv (hr cause)

theorem result_sieve : (c.sieve q).result = (hitsFrom q 0 c.records).result := by
  rw [sieve]
  cases h : (hitsFrom q 0 c.records).result <;> simp [h]

theorem result_sieve_of_decided (h : ∀ r ∈ c.records, q.Decided r) :
    (c.sieve q).result = .ok (hitsAmong q 0 c.records) := by
  have happend : (hitsFrom q 0 (c.records ++ [])).result = _ := result_hitsFrom_append h
  rw [List.append_nil] at happend
  rw [result_sieve, happend]
  simp [hitsFrom, Except.map]

theorem result_sieve_of_error {cause : MatchError} (h : Reaches q.Decided c.records i r)
    (hr : q.verdictOn r = .error cause) : (c.sieve q).result = .error ⟨i, cause⟩ := by
  obtain ⟨before, after, hrs, rfl, hbefore⟩ := h.split
  rw [result_sieve, hrs, result_hitsFrom_append hbefore, result_hitsFrom_cons, hr, Nat.zero_add]
  rfl

/-- All ways in which sieving ends. -/
theorem sieve_cases (c : Collection) (q : Criteria) :
    ((∀ r ∈ c.records, q.Decided r) ∧ (c.sieve q).result = .ok (hitsAmong q 0 c.records)) ∨
      ∃ i r cause, Reaches q.Decided c.records i r ∧ q.verdictOn r = .error cause ∧
        (c.sieve q).result = .error ⟨i, cause⟩ := by
  rcases forall_or_reaches q.Decided c.records with hall | ⟨i, r, hi, hr⟩
  · exact .inl ⟨hall, result_sieve_of_decided hall⟩
  · obtain ⟨cause, hv⟩ := Criteria.exists_error_of_not_decided hr
    exact .inr ⟨i, r, cause, hi, hv, result_sieve_of_error hi hv⟩

theorem result_sieve_eq_ok_iff {hits : List Hit} :
    (c.sieve q).result = .ok hits ↔
      (∀ r ∈ c.records, q.Decided r) ∧ hits = hitsAmong q 0 c.records := by
  refine ⟨fun h => ?_, fun ⟨hall, hhits⟩ => hhits ▸ result_sieve_of_decided hall⟩
  rcases sieve_cases c q with ⟨hall, hsieve⟩ | ⟨i, r, cause, -, -, hsieve⟩
  · rw [h] at hsieve
    cases hsieve
    exact ⟨hall, rfl⟩
  · rw [h] at hsieve
    cases hsieve

theorem result_sieve_eq_error_iff {e : ScanError} :
    (c.sieve q).result = .error e ↔
      ∃ r, Reaches q.Decided c.records e.index r ∧ q.verdictOn r = .error e.cause := by
  refine ⟨fun h => ?_, fun ⟨r, hi, hr⟩ => result_sieve_of_error hi hr⟩
  rcases sieve_cases c q with ⟨-, hsieve⟩ | ⟨i, r, cause, hi, hr, hsieve⟩
  · rw [h] at hsieve
    cases hsieve
  · rw [h] at hsieve
    cases hsieve
    exact ⟨r, hi, hr⟩

/-! ### How the queries are related -/

/-- Where all hits are found, the first hit is the first of them. -/
theorem result_position_of_sieve_ok {hits : List Hit} (h : (c.sieve q).result = .ok hits) :
    (c.position q).result = .ok (hits.head?.map (·.index)) := by
  obtain ⟨hall, rfl⟩ := result_sieve_eq_ok_iff.mp h
  rcases forall_or_reaches q.Misses c.records with hmiss | ⟨i, r, hi, hr⟩
  · have hnone : hitsAmong q 0 (c.records ++ []) = _ := hitsAmong_append hmiss
    rw [List.append_nil] at hnone
    rw [result_position_of_misses hmiss, hnone]
    rfl
  · have hyes := (hall r (List.mem_of_getElem? hi.1)).yes_of_not_misses hr
    rw [result_position_of_hit hi hyes]
    obtain ⟨before, after, hrs, rfl, hbefore⟩ := hi.split
    rw [hrs, hitsAmong_append hbefore, hitsAmong_cons, if_pos hyes, Nat.zero_add]
    rfl

/-- A hit is the record at its position. -/
theorem hitAt_of_mem {hit : Hit} (h : hit ∈ hitsAmong q 0 c.records) :
    c.hitAt hit.index = some hit := by
  rw [hitAt, (mem_hitsAmong.mp h).1]
  rfl

theorem result_first_of_sieve_ok {hits : List Hit} (h : (c.sieve q).result = .ok hits) :
    (c.first q).result = .ok hits.head? := by
  rw [result_first, result_position_of_sieve_ok h]
  obtain ⟨-, hhits⟩ := result_sieve_eq_ok_iff.mp h
  cases hits with
  | nil => rfl
  | cons hit rest =>
    have hhit : c.hitAt hit.index = some hit := hitAt_of_mem (hhits ▸ List.mem_cons_self)
    simp [Except.map, hhit]

/-- What stops the search for the first hit stops the sieving as well. -/
theorem result_sieve_of_position_error {e : ScanError} (h : (c.position q).result = .error e) :
    (c.sieve q).result = .error e := by
  obtain ⟨r, hi, hr⟩ := result_position_eq_error_iff.mp h
  exact result_sieve_of_error (hi.mono fun s hs => hs.decided) hr

/-- What stops the sieving stops the search for the first hit, unless there is a hit before. -/
theorem result_position_of_sieve_error {e : ScanError} (h : (c.sieve q).result = .error e) :
    (c.position q).result = .error e ∨ ∃ j < e.index, (c.position q).result = .ok (some j) := by
  obtain ⟨r, ⟨hr, hbefore⟩, hv⟩ := result_sieve_eq_error_iff.mp h
  have hnot : ¬q.Misses r := by
    intro hmiss
    rw [Criteria.Misses, hv] at hmiss
    cases hmiss
  rcases forall_or_reaches q.Misses c.records with hall | ⟨j, s, hj, hs⟩
  · exact absurd (hall r (List.mem_of_getElem? hr)) hnot
  · have hle : j ≤ e.index := Nat.le_of_not_lt fun hlt => hnot (hj.2 e.index hlt r hr)
    rcases Nat.lt_or_eq_of_le hle with hlt | rfl
    · have hyes := (hbefore j hlt s hj.1).yes_of_not_misses hs
      exact .inr ⟨j, hlt, result_position_of_hit hj hyes⟩
    · obtain rfl : r = s := Option.some.inj (hr.symm.trans hj.1)
      exact .inl (result_position_of_error hj hv)

/-- **All queries tell of one and the same sieving.** -/
theorem queries_agree (c : Collection) (q : Criteria) :
    -- All hits are found, each once and in order, unless a record cannot be decided.
    ((∃ hits, (c.sieve q).result = .ok hits) ↔ ∀ r ∈ c.records, q.Decided r) ∧
    (∀ hits, (c.sieve q).result = .ok hits → hits.Pairwise (·.index < ·.index) ∧
      ∀ hit : Hit, hit ∈ hits ↔
        c.records[hit.index]? = some hit.record ∧ q.verdictOn hit.record = .yes) ∧
    -- Otherwise the first such record is told, with what went wrong there.
    (∀ e, (c.sieve q).result = .error e ↔
      ∃ r, Reaches q.Decided c.records e.index r ∧ q.verdictOn r = .error e.cause) ∧
    (c.find q).result = (c.sieve q).result.toOption ∧
    (c.count q).result = (c.sieve q).result.map List.length ∧
    -- The position is that of the first record that is a hit or cannot be decided.
    (∀ i, (c.position q).result = .ok (some i) ↔
      ∃ r, Reaches q.Misses c.records i r ∧ q.verdictOn r = .yes) ∧
    (∀ e, (c.position q).result = .error e ↔
      ∃ r, Reaches q.Misses c.records e.index r ∧ q.verdictOn r = .error e.cause) ∧
    ((c.position q).result = .ok none ↔ ∀ r ∈ c.records, q.Misses r) ∧
    -- The other queries for the first hit agree with it.
    (∀ i, (c.position q).result = .ok (some i) →
      (c.any q).result = .ok true ∧
      ∃ r, c.records[i]? = some r ∧ (c.first q).result = .ok (some ⟨i, r⟩)) ∧
    ((c.position q).result = .ok none →
      (c.any q).result = .ok false ∧ (c.first q).result = .ok none) ∧
    -- Where all hits are found, the first hit is the first of them.
    (∀ hits, (c.sieve q).result = .ok hits →
      (c.position q).result = .ok (hits.head?.map (·.index)) ∧
      (c.any q).result = .ok !hits.isEmpty ∧ (c.first q).result = .ok hits.head?) ∧
    -- An error of the queries for the first hit is an error of all of them.
    (∀ e, (c.position q).result = .error e →
      (c.sieve q).result = .error e ∧ (c.count q).result = .error e ∧
      (c.any q).result = .error e ∧ (c.first q).result = .error e) ∧
    -- An error of the others is theirs as well, or there is a hit before.
    (∀ e, (c.sieve q).result = .error e →
      (c.position q).result = .error e ∨
        ∃ j < e.index, (c.position q).result = .ok (some j)) := by
  refine ⟨?sieve_ok, ?hits, fun e => result_sieve_eq_error_iff, ?find, rfl,
    fun i => result_position_eq_some_iff, fun e => result_position_eq_error_iff,
    result_position_eq_none_iff, ?some, ?none, ?head, ?error,
    fun e => result_position_of_sieve_error⟩
  case sieve_ok =>
    constructor
    · rintro ⟨hits, hhits⟩
      exact (result_sieve_eq_ok_iff.mp hhits).1
    · exact fun h => ⟨_, result_sieve_of_decided h⟩
  case hits =>
    intro hits hhits
    obtain ⟨-, rfl⟩ := result_sieve_eq_ok_iff.mp hhits
    exact ⟨pairwise_hitsAmong, fun hit => mem_hitsAmong⟩
  case find =>
    rw [find]
    cases (c.sieve q).result <;> rfl
  case some =>
    intro i h
    refine ⟨?_, exists_result_first h⟩
    rw [result_any, h]
    rfl
  case none =>
    intro h
    rw [result_any, result_first, h]
    exact ⟨rfl, rfl⟩
  case head =>
    intro hits h
    have hposition := result_position_of_sieve_ok h
    refine ⟨hposition, ?_, result_first_of_sieve_ok h⟩
    rw [result_any, hposition]
    cases hits <;> rfl
  case error =>
    intro e h
    have hsieve := result_sieve_of_position_error h
    refine ⟨hsieve, ?_, ?_, ?_⟩
    · rw [count, Logged.result_map, hsieve]
      rfl
    · rw [result_any, h]
      rfl
    · rw [result_first, h]
      rfl

/-- The first record satisfies the first alternative, so the second, which is broken, is not asked
of it: there is a first hit, but not all hits. -/
example :
    let q : Criteria := [("$or", .list [.nested [("a", .literal .null)],
      .nested [("b", .nested [("$gt", .list [])])]])]
    let c : Collection := ⟨[.object [("a", .scalar .null)], .object []]⟩
    (c.position q).result = .ok (some 0) ∧
      (c.sieve q).result = .error ⟨1, .mismatch .greater .scalar .list⟩ :=
  ⟨rfl, rfl⟩

end Collection

end RecordSieve
