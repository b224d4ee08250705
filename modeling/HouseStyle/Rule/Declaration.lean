import HouseStyle.Pattern.Search

/-!
# The shape of a declaration

The patterns by which the rules recognise declarations with an initial value and the word
`final`. They work on the words of the line alone: words and blanks up to an equals sign, then a
semicolon somewhere behind it.
-/

namespace HouseStyle

open Pattern Text

/-- The class of the characters from `lo` to `hi`. -/
private def span (lo hi : Char) : CodeSet := .range lo hi

/-- The characters that name a variable all by themselves: letters other than `i`, `j` and `k`,
digits, and the underscore. -/
def loneNameChars : CharClass :=
  .of ((span 'a' 'h').union <| (span 'l' 'z').union <| (span 'A' 'Z').union <|
    (span '0' '9').union <| .single '_')

/-- A word followed by blanks. -/
def wordThenBlanks : Pattern := .seq (.plus (.one .word)) (.plus (.one .blank))

/-- An equals sign, with blanks around it, and a semicolon behind it on the same line. -/
def initializer : Pattern :=
  .sequence [.star (.one .blank), .one (.single '='), .star (.one .blank),
    .star (.one .notNewline), .one (.single ';')]

/-- A declaration with an initial value: at least one word, then the name. -/
def declaration : Pattern :=
  .sequence [.anchor .textStart, .star (.one .blank), .plus wordThenBlanks,
    .alt (.one loneNameChars) (.seq (.one .word) (.plus (.one .word))), initializer]

/-- The letters of a text, one after the other. -/
def literal (word : String) : Pattern :=
  .sequence (word.toList.map fun c => .one (.single c))

/-- A name with a small ASCII letter in it. -/
def smallLetterName : Pattern :=
  .sequence [.star (.one .word), .plus (.one (.of (span 'a' 'z'))), .star (.one .word)]

/-- A declaration with `final` in front of a name with a small letter in it. -/
def smallConstant : Pattern :=
  .sequence [.anchor .textStart, .star (.one .blank), .star wordThenBlanks,
    .plus (.seq (literal "final") (.plus (.one .blank))), .star wordThenBlanks,
    smallLetterName, initializer]

/-- The word `final`, standing alone. -/
def finalWord : Pattern :=
  .sequence [.anchor (.wordEdge .every), literal "final", .anchor (.wordEdge .every)]

end HouseStyle
