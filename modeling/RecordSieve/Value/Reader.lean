import RecordSieve.Value.Basic
import RecordSieve.Value.Token

/-!
# Reading values

A value is read from its tokens with the arrays and objects that are still open at hand, innermost
first. Every token is either the one that is due, and moves the reading on, or makes the text
invalid; there is no going back. How many arrays and objects may be open at once is limited.

An object with a repeated key has it once: at its first place, with its last value.
-/

namespace RecordSieve

/-- An array or object that is still open. -/
inductive OpenValue where
  /-- An array, with its items so far, last first. -/
  | array (items : List Value)
  /-- An object, with its fields so far and the key whose value is being read. -/
  | object (fields : Fields Value) (key : String)

/-- What is due next, and what is open around it. -/
inductive Due where
  /-- A value. -/
  | value (opened : List OpenValue)
  /-- The first item of an array, or its end. -/
  | firstItem (opened : List OpenValue)
  /-- The first key of an object, or its end. -/
  | firstKey (opened : List OpenValue)
  /-- A further key of an object. -/
  | key (fields : Fields Value) (opened : List OpenValue)
  /-- The colon behind a key. -/
  | colon (fields : Fields Value) (key : String) (opened : List OpenValue)
  /-- What follows a value: a comma, the end of what is open, or nothing. -/
  | after (v : Value) (opened : List OpenValue)

namespace Due

/-- Reads the first token of a value. -/
def begin (limit : Nat) (opened : List OpenValue) : Token → Option Due
  | .scalar s => some (after (.scalar s) opened)
  | .openArray => if opened.length < limit then some (firstItem opened) else none
  | .openObject => if opened.length < limit then some (firstKey opened) else none
  | _ => none

/-- Reads the token that is due. -/
def step (limit : Nat) : Due → Token → Option Due
  | value opened, t => begin limit opened t
  | firstItem opened, .closeArray => some (after (.array []) opened)
  | firstItem opened, t => begin limit (.array [] :: opened) t
  | firstKey opened, .closeObject => some (after (.object []) opened)
  | firstKey opened, .scalar (.string k) => some (colon [] k opened)
  | key fields opened, .scalar (.string k) => some (colon fields k opened)
  | colon fields k opened, .colon => some (value (.object fields k :: opened))
  | after v (.array items :: opened), .comma => some (value (.array (v :: items) :: opened))
  | after v (.array items :: opened), .closeArray =>
    some (after (.array (v :: items).reverse) opened)
  | after v (.object fields k :: opened), .comma => some (key (fields.put k v) opened)
  | after v (.object fields k :: opened), .closeObject =>
    some (after (.object (fields.put k v)) opened)
  | _, _ => none

end Due

namespace Value

/-- The value that some tokens spell, with at most `limit` arrays and objects open at once. -/
def ofTokens? (limit : Nat) (tokens : List Token) : Option Value :=
  match tokens.foldlM (Due.step limit) (.value []) with
  | some (.after v []) => some v
  | _ => none

/-- The value that a text spells, with at most `limit` arrays and objects open at once. -/
def ofText? (limit : Nat) (text : String) : Option Value :=
  (Token.ofChars? text.toList).bind (ofTokens? limit)

end Value

end RecordSieve
