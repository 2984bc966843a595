import RecordSieve.Unicode.Ranges

/-!
# Versions

The versions of the Unicode standard that added characters.
-/

namespace RecordSieve.Unicode

/-- A version of the standard, and what it added. -/
structure Version where
  /-- The number before the point. -/
  major : Nat
  /-- The number behind the point. -/
  minor : Nat
  /-- The code points that were assigned in this version first. -/
  added : Ranges

end RecordSieve.Unicode
