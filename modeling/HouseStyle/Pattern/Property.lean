import HouseStyle.Text.Age
import HouseStyle.Text.Boundary
import HouseStyle.Text.Category
import HouseStyle.Text.Find
import HouseStyle.Text.Newcomer
import HouseStyle.Text.Script
import HouseStyle.Text.Trait

/-!
# Properties in a pattern

A pattern can ask for the characters with a property, of a general category, of a script, or with a
role at the edges of graphemes, words and sentences. Names are compared loosely: case, blanks,
dashes and underscores do not count, nor does a leading `is`, nor any character beyond ASCII. All
sets are in their shortest form.
-/

namespace HouseStyle.Pattern

open Text

/-- The comparison key of a name. -/
def looseName (name : List Char) : List Char :=
  let isSeparator (c : Char) : Bool := c == ' ' || c == '_' || c == '-'
  let key (text : List Char) : List Char :=
    (text.filter fun c => c.toNat < 0x80 && !isSeparator c).map Char.toLower
  match name with
  | i :: s :: rest =>
    if i.toLower = 'i' ∧ s.toLower = 's' then
      if key rest = ['c'] then "isc".toList else key rest
    else key name
  | _ => key name

/-- Whether a name is one of those listed with blanks between them. -/
def isListed (name : List Char) (names : String) : Bool := (words names.toList).contains name

/-- The table of a name. -/
def table? (tables : List (String × String)) (name : List Char) : Option CodeSet :=
  (tables.find? fun entry => isListed name entry.1).map fun entry => .ofHex entry.2

/-- The codes of the categories that satisfy a test on their names. -/
def categories (p : List Char → Bool) : List (Nat × Nat) :=
  categoryTables.flatMap fun entry =>
    if p entry.1.toList then (CodeSet.ofHex entry.2).ranges else []

/-- The codes that stand for no character of their own. -/
def surrogates : Nat × Nat := (0xD800, 0xDFFF)

/-- The codes without a character. -/
def unassigned : CodeSet :=
  (CodeSet.normalize ⟨surrogates :: categories fun _ => true⟩).complement

/-- The characters of the categories that begin with the given letter; those beginning with `c`
are all that is left by the others. -/
def majorCategory (letter : Char) : CodeSet :=
  .normalize ⟨categories (·.head? = some letter)
    ++ if letter = 'c' then surrogates :: unassigned.ranges else []⟩

/-- The letters that have a case. -/
def casedLetters : CodeSet :=
  .normalize ⟨categories fun names => ["lu", "ll", "lt"].any (·.toList.isPrefixOf names)⟩

/-- The classes of several categories at once, with their names. -/
def majorCategories : List (String × Char) :=
  [("c other", 'c'), ("l letter", 'l'), ("m mark combiningmark", 'm'), ("n number", 'n'),
    ("p punctuation punct", 'p'), ("s symbol", 's'), ("z separator", 'z')]

/-- The characters of a general category. -/
def category? (name : List Char) : Option CodeSet :=
  if isListed name "any" then some CodeSet.empty.complement
  else if isListed name "assigned" then some unassigned.complement
  else if isListed name "ascii" then some (.ofHex "0-7F")
  else if isListed name "cn unassigned" then some unassigned
  else if isListed name "lc casedletter" then some casedLetters
  else
    match majorCategories.find? fun entry => isListed name entry.1 with
    | some entry => some (majorCategory entry.2)
    | none => table? categoryTables name

/-- The characters assigned in a version of the standard or before. -/
def age? (name : List Char) : Option CodeSet :=
  let isVersion (entry : String × String) : Bool := isListed name entry.1
  if ageTables.any isVersion then
    let older := ageTables.takeWhile fun entry => !isVersion entry
    let newest := (ageTables.find? isVersion).toList
    some (.normalize ⟨(older ++ newest).flatMap fun entry => (CodeSet.ofHex entry.2).ranges⟩)
  else none

/-- The characters with a property, of a category or of a script. -/
def plainProperty? (name : List Char) : Option CodeSet :=
  let name := looseName name
  (table? traitTables name).or <| (category? name).or <| table? scriptTables name

/-- The characters with a value of a property. -/
def valuedProperty? (name value : List Char) : Option CodeSet :=
  let name := looseName name
  let value := looseName value
  if isListed name "gc generalcategory" then category? value
  else if isListed name "sc script" then table? scriptTables value
  else if isListed name "scx scriptextensions" then
    (table? scriptUseTables value).or (table? scriptTables value)
  else if isListed name "age" then age? value
  else if isListed name "gcb graphemeclusterbreak" then table? graphemeTables value
  else if isListed name "wb wordbreak" then table? wordTables value
  else if isListed name "sb sentencebreak" then table? sentenceTables value
  else none

/-- What stands in the braces behind `\p`: a name, or a name and a value with `=`, `:` or `!=`
between them. The flag tells whether the complement of the class is asked for. -/
def property? (text : List Char) : Option (Bool × CodeSet) :=
  let valued (mark : List Char) : Option CodeSet :=
    let name := before mark text
    valuedProperty? name (text.drop (name.length + mark.length))
  if contains ['!', '='] text then (valued ['!', '=']).map (true, ·)
  else if contains [':'] text then (valued [':']).map (false, ·)
  else if contains ['='] text then (valued ['=']).map (false, ·)
  else (plainProperty? text).map (false, ·)

/-! ## Names of groups -/

/-- Whether a character is a letter of some script. -/
def isAlphabetic (c : Char) : Bool :=
  newLetters.contains c || (table? traitTables "alphabetic".toList).any (·.contains c)

/-- Whether a character is a number of some script. -/
def isNumeric (c : Char) : Bool := newNumbers.contains c || (majorCategory 'n').contains c

end HouseStyle.Pattern
