import RecordSieve.Value.Basic

/-!
# Paths

A path names a place inside a record: keys joined by dots, each the key of an object field. Every
text is a path; the empty text is the path of one empty key. Following a path loses the value for
good as soon as a step meets something that is no object or lacks the field, arrays included.
-/

namespace RecordSieve

namespace Path

/-- Cuts a text at its dots. -/
def splitAtDots : List Char → List (List Char)
  | [] => [[]]
  | c :: text =>
    if c = '.' then [] :: splitAtDots text
    else
      match splitAtDots text with
      | [] => [[c]]
      | segment :: segments => (c :: segment) :: segments

/-- The keys of a path, in order. -/
def keys (path : String) : List String := (splitAtDots path.toList).map String.ofList

/-- Follows some keys into an item, one after the other. -/
def follow (item : Option Value) (keys : List String) : Option Value :=
  keys.foldl (fun value key => value.bind (Value.field? key)) item

/-- What an item has at a path. -/
def resolve (item : Option Value) (path : String) : Option Value := follow item (keys path)

@[simp] theorem follow_nil (item : Option Value) : follow item [] = item := rfl

@[simp] theorem follow_cons (item : Option Value) (key : String) (rest : List String) :
    follow item (key :: rest) = follow (item.bind (Value.field? key)) rest := rfl

/-- Following two lists of keys is following them one after the other. -/
theorem follow_append (item : Option Value) (first second : List String) :
    follow item (first ++ second) = follow (follow item first) second := by
  simp [follow]

/-- What is lost stays lost. -/
theorem follow_none (keys : List String) : follow none keys = none := by
  induction keys with
  | nil => rfl
  | cons key rest ih => exact ih

theorem splitAtDots_ne_nil (text : List Char) : splitAtDots text ≠ [] := by
  cases text with
  | nil => exact List.cons_ne_nil _ _
  | cons c text =>
    rw [splitAtDots]
    repeat' split
    all_goals exact List.cons_ne_nil _ _

/-- Every path takes a step, and no step leads into an array. -/
theorem resolve_array (items : List Value) (path : String) :
    resolve (some (.array items)) path = none := by
  rw [resolve, keys]
  cases hsegments : splitAtDots path.toList with
  | nil => exact absurd hsegments (splitAtDots_ne_nil _)
  | cons segment segments => exact follow_none _

end Path

end RecordSieve
