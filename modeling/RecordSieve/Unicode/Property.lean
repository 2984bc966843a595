import RecordSieve.Unicode.Age.Table
import RecordSieve.Unicode.Break.Sentence
import RecordSieve.Unicode.Property.Basic

/-!
# Sets by the name of a property

A set is named by a property that its members have, by their general category or script, or by a
property together with its value. A name for itself is looked up among the properties first, then
among the general categories, and then among the scripts. Three short names stand for a category and
for a property with values alike, and mean the category.
-/

namespace RecordSieve.Unicode

/-- Splits a text at the first place where some text stands, which is dropped. -/
def splitAt? (mark : List Char) : List Char → Option (List Char × List Char)
  | [] => none
  | c :: text =>
    if mark.isPrefixOf (c :: text) then some ([], (c :: text).drop mark.length)
    else (splitAt? mark text).map fun (front, rest) => (c :: front, rest)

/-- The name of a property and a value, parted by one of three signs. That which says "unequal" is
taken for the others. -/
def valuedName? (text : List Char) : Option (List Char × List Char) :=
  splitAt? ['!', '='] text <|> splitAt? [':'] text <|> splitAt? ['='] text

/-- The code points with a property, by its loose name. -/
def ofLooseName? (name : List Char) : Option Ranges :=
  let property :=
    if isNamed name ["cf", "sc", "lc"] then none else NamedSet.find? name properties
  property <|> NamedSet.find? name categories <|> scriptMembers? name

/-- The code points for which a property has a value, by the loose names of both. -/
def ofLooseValue? (property value : List Char) : Option Ranges :=
  if isNamed property ["General_Category", "gc"] then NamedSet.find? value categories
  else if isNamed property ["Script", "sc"] then scriptMembers? value
  else if isNamed property ["Script_Extensions", "scx"] then scriptExtension? value
  else if isNamed property ["Age"] then addedUpTo? value versions
  else if isNamed property ["Grapheme_Cluster_Break", "GCB"] then
    NamedSet.find? value graphemeBreaks
  else if isNamed property ["Word_Break", "WB"] then NamedSet.find? value wordBreaks
  else if isNamed property ["Sentence_Break", "SB"] then NamedSet.find? value sentenceBreaks
  else none

/-- The code points that a text names. -/
def Ranges.ofProperty? (text : List Char) : Option Ranges :=
  match valuedName? text with
  | some (property, value) => ofLooseValue? (looseName property) (looseName value)
  | none => ofLooseName? (looseName text)

end RecordSieve.Unicode
