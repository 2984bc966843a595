import RecordSieve.Proofs.Json
import RecordSieve.Value.Reader

/-!
# Values that are read

What is read from a text is a value of a record, which could hold more than JSON can: NaN or an
infinity as a number, the same integer in a word that is not the first to hold it, a key twice in
one object. None of that is ever read (**`Value.isJson_of_ofText?`**).

A numeral is the interesting case. One that no word holds goes through the arithmetic of doubles,
and there it stays finite: the digits that are gathered fit a word, to scale down is to divide by
powers of ten, none of which is less than one, and scaling up is given up at infinity. The rest is
a walk over what the reader does, first the characters and then the tokens, where each step keeps
what was read so far within JSON.
-/

namespace RecordSieve

/-! ### Numbers -/

namespace Numeral

theorem lt_of_append? {word word' : Nat} {digit : Char} (h : append? word digit = some word') :
    word' < 2 ^ 64 := by
  rw [append?] at h
  split_ifs at h with hlt
  obtain rfl := Option.some.inj h
  exact hlt

theorem word_gatherWhole_lt {word : Nat} (h : word < 2 ^ 64) (digits : List Char) :
    (gatherWhole word digits).word < 2 ^ 64 := by
  induction digits generalizing word with
  | nil => exact h
  | cons digit digits ih =>
    rw [gatherWhole]
    cases happend : append? word digit with
    | none => exact h
    | some word' => exact ih (lt_of_append? happend)

theorem word_gatherFraction_lt {g : Gathered} (h : g.word < 2 ^ 64) (digits : List Char) :
    (gatherFraction g digits).word < 2 ^ 64 := by
  induction digits generalizing g with
  | nil => exact h
  | cons digit digits ih =>
    rw [gatherFraction]
    cases happend : append? g.word digit with
    | none => exact h
    | some word' => exact ih (lt_of_append? happend)

theorem word_gathered_lt (x : Numeral) : x.gathered.word < 2 ^ 64 :=
  word_gatherFraction_lt (word_gatherWhole_lt (by decide) _) _

open Double

theorem unitsOfOne_le_power (exponent : Nat) : unitsOfOne ≤ (power exponent).magnitude := by
  have hone : magnitudeOfNat 1 = unitsOfOne := by
    rw [magnitudeOfNat_of_le (by decide), Nat.one_mul]
  rw [power, magnitude_ofRatio, ← hone]
  exact magnitudeOfNat_mono (Nat.pow_pos (by decide))

theorem isFinite_scaledDown {x : Double} (h : x.isFinite = true) (exponent : Nat) :
    (scaledDown x exponent).isFinite = true := by
  fun_induction scaledDown x exponent with
  | case1 x exponent hle => exact isFinite_div h (unitsOfOne_le_power exponent)
  | case2 x exponent hgt hzero => exact h
  | case3 x exponent hgt hne ih => exact ih (isFinite_div h (unitsOfOne_le_power powerLimit))

theorem isFinite_of_scaledUp? {x y : Double} {exponent : Nat} (hx : x.isFinite = true)
    (h : scaledUp? x exponent = some y) : y.isFinite = true := by
  simp only [scaledUp?] at h
  split_ifs at h with hzero hlimit hfinite
  · exact Option.some.inj h ▸ hx
  · exact Option.some.inj h ▸ hfinite

/-- The double of a numeral is finite. -/
theorem isFinite_of_double? {x : Numeral} {y : Double} (h : x.double? = some y) :
    y.isFinite = true := by
  have hword : (Double.ofInt x.gathered.word).isFinite = true :=
    isFinite_ofInt (by have := x.word_gathered_lt; omega)
  obtain ⟨size, hsize, rfl⟩ := Option.map_eq_some_iff.mp h
  have hfinite : size.isFinite = true := by
    split_ifs at hsize
    · obtain rfl := Option.some.inj hsize
      exact isFinite_ofInt (by decide)
    · obtain rfl := Option.some.inj hsize
      exact isFinite_scaledDown hword _
    · exact isFinite_of_scaledUp? hword hsize
  split_ifs
  · rw [isFinite_neg, hfinite]
  · exact hfinite

/-- What is read from a numeral is chosen for an integer, or it is the double. -/
theorem number?_cases {x : Numeral} {a : Number} (h : x.number? = some a) :
    (∃ k, Number.ofInt? k = some a) ∨ ∃ y, x.double? = some y ∧ a = .double y := by
  simp only [number?] at h
  split at h
  · obtain ⟨y, hy, rfl⟩ := Option.map_eq_some_iff.mp h
    exact .inr ⟨y, hy, rfl⟩
  · cases hk : Number.ofInt? (if x.negative then -Digits.value x.whole else Digits.value x.whole) with
    | some b =>
      rw [hk] at h
      exact .inl ⟨_, hk.trans h⟩
    | none =>
      rw [hk] at h
      obtain ⟨y, hy, rfl⟩ := Option.map_eq_some_iff.mp h
      exact .inr ⟨y, hy, rfl⟩

/-- What is read from a numeral represents a number of JSON. -/
theorem exists_json {x : Numeral} {a : Number} (h : x.number? = some a) :
    ∃ n, Number.ofJson n = a := by
  rcases number?_cases h with ⟨k, hk⟩ | ⟨y, hy, rfl⟩
  · obtain ⟨n, -, hn⟩ := Number.ofInt?_eq_some_iff.mp hk
    exact ⟨n, hn⟩
  · exact ⟨.double y (isFinite_of_double? hy), rfl⟩

end Numeral

/-! ### Tokens -/

/-- The value is what a record has of a JSON value. -/
def Value.IsJson (v : Value) : Prop := ∃ j : Json, j.KeysDistinct ∧ j.value = v

theorem Value.isJson_null : (scalar .null).IsJson := ⟨.null, .null, rfl⟩

theorem Value.isJson_bool (b : Bool) : (scalar (.bool b)).IsJson := ⟨.bool b, .bool b, rfl⟩

theorem Value.isJson_string (s : String) : (scalar (.string s)).IsJson :=
  ⟨.string s, .string s, rfl⟩

theorem Value.isJson_number {text : List Char} {a : Number} (h : Number.ofChars? text = some a) :
    (scalar (.number a)).IsJson := by
  obtain ⟨x, -, hx⟩ := Option.bind_eq_some_iff.mp h
  obtain ⟨n, rfl⟩ := Numeral.exists_json hx
  exact ⟨.number n, .number n, rfl⟩

/-- The scalar of a token, if it has one, is a JSON value. -/
def Token.IsJson : Token → Prop
  | scalar s => (Value.scalar s).IsJson
  | _ => True

namespace Cutter

theorem isJson_of_wordScalar? {word : List Char} {s : Scalar} (h : wordScalar? word = some s) :
    (Value.scalar s).IsJson := by
  rw [wordScalar?] at h
  split at h
  · cases h
    exact Value.isJson_null
  · cases h
    exact Value.isJson_bool true
  · cases h
    exact Value.isJson_bool false
  · cases h

theorem isJson_of_finish {state : Cutter} {tokens : List Token} (h : state.finish = some tokens) :
    ∀ t ∈ tokens, t.IsJson := by
  cases state with
  | between => cases h; simp
  | word read =>
    obtain ⟨s, hs, rfl⟩ := Option.map_eq_some_iff.mp h
    simpa [Token.IsJson] using isJson_of_wordScalar? hs
  | number read =>
    obtain ⟨a, ha, rfl⟩ := Option.map_eq_some_iff.mp h
    simpa [Token.IsJson] using Value.isJson_number ha
  | string | escape | unit | pairBackslash | pairLetter => cases h

theorem isJson_of_start {c : Char} {next : Cutter} {tokens : List Token}
    (h : start c = some (next, tokens)) : ∀ t ∈ tokens, t.IsJson := by
  -- No scalar is complete with its first character.
  unfold start at h
  split at h
  case h_12 => split_ifs at h <;> cases h <;> simp
  all_goals
    cases h
    simp [Token.IsJson]

theorem isJson_of_restart {state next : Cutter} {c : Char} {tokens : List Token}
    (h : step.restart state c = some (next, tokens)) : ∀ t ∈ tokens, t.IsJson := by
  obtain ⟨ended, hended, h⟩ := Option.bind_eq_some_iff.mp h
  obtain ⟨⟨after, new⟩, hnew, h⟩ := Option.bind_eq_some_iff.mp h
  cases h
  exact List.forall_mem_append.mpr ⟨isJson_of_finish hended, isJson_of_start hnew⟩

/-- Only words, numbers and strings are scalars, and all of them are JSON values. -/
theorem isJson_of_step {state next : Cutter} {c : Char} {tokens : List Token}
    (h : state.step c = some (next, tokens)) : ∀ t ∈ tokens, t.IsJson := by
  cases state with
  | between => exact isJson_of_start h
  | word read =>
    rw [step] at h
    split_ifs at h
    · cases h
      simp
    · exact isJson_of_restart h
  | number read =>
    rw [step] at h
    split_ifs at h
    · cases h
      simp
    · exact isJson_of_restart h
  | string read =>
    rw [step] at h
    split_ifs at h
    · cases h
      simpa [Token.IsJson] using Value.isJson_string _
    · cases h
      simp
    · cases h
      simp
  | escape read =>
    rw [step] at h
    split_ifs at h
    · cases h
      simp
    · obtain ⟨d, -, hd⟩ := Option.map_eq_some_iff.mp h
      cases hd
      simp
  | unit read high value left =>
    obtain ⟨digit, -, h⟩ := Option.bind_eq_some_iff.mp h
    split_ifs at h
    · obtain ⟨after, -, h⟩ := Option.bind_eq_some_iff.mp h
      cases h
      simp
    · cases h
      simp
  | pairBackslash read high | pairLetter read high =>
    rw [step] at h
    split_ifs at h
    cases h
    simp

end Cutter

/-- What each step of a run keeps, the run keeps. -/
theorem foldlM_keeps {σ α : Type} {P : σ → Prop} {Q : α → Prop} {step : σ → α → Option σ}
    (hstep : ∀ s a t, P s → Q a → step s a = some t → P t) {s t : σ} {as : List α}
    (has : ∀ a ∈ as, Q a) (hs : P s) (h : as.foldlM step s = some t) : P t := by
  induction as generalizing s with
  | nil =>
    cases h
    exact hs
  | cons a as ih =>
    obtain ⟨ha, has⟩ := List.forall_mem_cons.mp has
    rw [List.foldlM_cons] at h
    obtain ⟨u, hu, h⟩ := Option.bind_eq_some_iff.mp h
    exact ih has (hstep s a u hs ha hu) h

theorem Token.isJson_of_ofChars? {text : List Char} {tokens : List Token}
    (h : ofChars? text = some tokens) : ∀ t ∈ tokens, t.IsJson := by
  obtain ⟨⟨state, read⟩, hread, h⟩ := Option.bind_eq_some_iff.mp h
  obtain ⟨last, hlast, h⟩ := Option.bind_eq_some_iff.mp h
  cases h
  have hjson : ∀ t ∈ read, t.IsJson := by
    refine foldlM_keeps (P := fun s : Cutter × List Token => ∀ t ∈ s.2, t.IsJson)
      (Q := fun _ => True) ?_ (fun _ _ => trivial) (by simp) hread
    rintro ⟨state, tokens⟩ c s hs - hstep
    obtain ⟨⟨next, new⟩, hnew, h⟩ := Option.bind_eq_some_iff.mp hstep
    cases h
    refine List.forall_mem_append.mpr ⟨fun t ht => ?_, hs⟩
    exact Cutter.isJson_of_step hnew t (List.mem_reverse.mp ht)
  refine List.forall_mem_append.mpr ⟨fun t ht => ?_, Cutter.isJson_of_finish hlast⟩
  exact hjson t (List.mem_reverse.mp ht)

/-! ### Values -/

namespace Value

theorem isJson_array {items : List Value} (h : ∀ v ∈ items, v.IsJson) : (array items).IsJson := by
  choose! json hdistinct hvalue using h
  refine ⟨.array (items.map json), .array ?_, ?_⟩
  · exact List.forall_mem_map.mpr hdistinct
  · rw [Json.value_array, List.map_map]
    exact congrArg array ((List.map_congr_left hvalue).trans (List.map_id items))

theorem isJson_object {fields : Fields Value} (hnodup : (Fields.keys fields).Nodup)
    (h : ∀ e ∈ fields, e.2.IsJson) : (object fields).IsJson := by
  choose! json hdistinct hvalue using h
  have hkeys : Fields.keys (fields.map fun e => (e.1, json e)) = Fields.keys fields := List.map_map
  refine ⟨.object (fields.map fun e => (e.1, json e)), .object (hkeys ▸ hnodup) ?_, ?_⟩
  · exact List.forall_mem_map.mpr hdistinct
  · have hfield : ∀ e ∈ fields, (e.1, (json e).value) = e :=
      fun e he => Prod.ext rfl (hvalue e he)
    rw [Json.value_object, List.map_map]
    exact congrArg object ((List.map_congr_left hfield).trans (List.map_id fields))

end Value

/-- The fields are those of a JSON object. -/
def Fields.AreJson (fields : Fields Value) : Prop :=
  (keys fields).Nodup ∧ ∀ e ∈ fields, e.2.IsJson

theorem Fields.AreJson.put {fields : Fields Value} {v : Value} (h : fields.AreJson) (key : String)
    (hv : v.IsJson) : (Fields.put key v fields).AreJson := by
  refine ⟨nodup_keys_put key v h.1, fun e he => ?_⟩
  rcases eq_or_mem_of_mem_put he with rfl | hmem
  · exact hv
  · exact h.2 e hmem

theorem Fields.areJson_nil : Fields.AreJson [] := ⟨List.nodup_nil, by simp⟩

/-- What was read of an open array or object are JSON values. -/
def OpenValue.IsJson : OpenValue → Prop
  | array items => ∀ v ∈ items, v.IsJson
  | object fields _ => Fields.AreJson fields

namespace Due

/-- What was read so far are JSON values. -/
def IsJson : Due → Prop
  | value opened => ∀ o ∈ opened, o.IsJson
  | firstItem opened => ∀ o ∈ opened, o.IsJson
  | firstKey opened => ∀ o ∈ opened, o.IsJson
  | key fields opened => fields.AreJson ∧ ∀ o ∈ opened, o.IsJson
  | colon fields _ opened => fields.AreJson ∧ ∀ o ∈ opened, o.IsJson
  | after v opened => v.IsJson ∧ ∀ o ∈ opened, o.IsJson

theorem IsJson.begin (limit : Nat) {opened : List OpenValue} {t : Token} {due : Due}
    (hopened : ∀ o ∈ opened, o.IsJson) (ht : t.IsJson) (h : begin limit opened t = some due) :
    due.IsJson := by
  cases t with
  | scalar s =>
    cases h
    exact ⟨ht, hopened⟩
  | openArray | openObject =>
    rw [Due.begin] at h
    split_ifs at h
    cases h
    exact hopened
  | closeArray | closeObject | comma | colon => cases h

/-- Where a token is read, what was read so far stay JSON values. -/
theorem IsJson.step {limit : Nat} {due next : Due} {t : Token} (hdue : due.IsJson) (ht : t.IsJson)
    (h : Due.step limit due t = some next) : next.IsJson := by
  cases due with
  | value opened => exact IsJson.begin limit hdue ht h
  | firstItem opened =>
    -- An item may begin as well, in the array that is open and has none yet.
    have hempty : (OpenValue.array []).IsJson := by simp [OpenValue.IsJson]
    have hopened := List.forall_mem_cons.mpr ⟨hempty, hdue⟩
    cases t with
    | closeArray =>
      cases h
      exact ⟨Value.isJson_array hempty, hdue⟩
    | scalar s => exact IsJson.begin limit hopened ht h
    | openArray | openObject | closeObject | comma | colon => exact IsJson.begin limit hopened ht h
  | firstKey opened =>
    cases t with
    | closeObject =>
      cases h
      exact ⟨Value.isJson_object List.nodup_nil (by simp), hdue⟩
    | scalar s =>
      cases s with
      | string k =>
        cases h
        exact ⟨Fields.areJson_nil, hdue⟩
      | null | bool | number => cases h
    | openArray | openObject | closeArray | comma | colon => cases h
  | key fields opened =>
    cases t with
    | scalar s =>
      cases s with
      | string k =>
        cases h
        exact hdue
      | null | bool | number => cases h
    | openArray | openObject | closeArray | closeObject | comma | colon => cases h
  | colon fields k opened =>
    cases t with
    | colon =>
      cases h
      exact List.forall_mem_cons.mpr hdue
    | scalar | openArray | openObject | closeArray | closeObject | comma => cases h
  | after v opened =>
    obtain ⟨hv, hopened⟩ := hdue
    cases opened with
    | nil => cases t <;> cases h
    | cons o opened =>
      obtain ⟨ho, hrest⟩ := List.forall_mem_cons.mp hopened
      cases o with
      | array items =>
        have hitems : ∀ w ∈ v :: items, w.IsJson := List.forall_mem_cons.mpr ⟨hv, ho⟩
        cases t with
        | comma =>
          cases h
          exact List.forall_mem_cons.mpr ⟨hitems, hrest⟩
        | closeArray =>
          cases h
          exact ⟨Value.isJson_array fun w hw => hitems w (List.mem_reverse.mp hw), hrest⟩
        | scalar | openArray | openObject | closeObject | colon => cases h
      | object fields k =>
        have hfields : (Fields.put k v fields).AreJson := Fields.AreJson.put ho k hv
        cases t with
        | comma =>
          cases h
          exact ⟨hfields, hrest⟩
        | closeObject =>
          cases h
          exact ⟨Value.isJson_object hfields.1 hfields.2, hrest⟩
        | scalar | openArray | openObject | closeArray | colon => cases h

end Due

/-- **What is read from a text is a JSON value.** -/
theorem Value.isJson_of_ofText? {limit : Nat} {text : String} {v : Value}
    (h : ofText? limit text = some v) : v.IsJson := by
  obtain ⟨tokens, htokens, h⟩ := Option.bind_eq_some_iff.mp h
  have htokens := Token.isJson_of_ofChars? htokens
  rw [ofTokens?] at h
  split at h
  · next w hrun =>
    cases h
    have hdue : (Due.after v []).IsJson :=
      foldlM_keeps (fun due t next => Due.IsJson.step) htokens (by simp [Due.IsJson]) hrun
    exact hdue.1
  · cases h

end RecordSieve
