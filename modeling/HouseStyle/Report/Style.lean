/-!
# Colours on a terminal

A text is coloured by a control sequence in front and one that resets the terminal behind. Where
colours are off, the text stays as it is.
-/

namespace HouseStyle

/-- How a piece of text is to look. -/
inductive Style where
  | red
  | yellow
  | cyan
  | bold
  | dim
  deriving DecidableEq, Repr

namespace Style

/-- The control sequence with the given number. -/
def control (code : String) : String := "\x1b[" ++ code ++ "m"

/-- The control sequence that resets the terminal. -/
def reset : String := control "0"

/-- The control sequence that starts a style. -/
def start : Style → String
  | red => control "31"
  | yellow => control "33"
  | cyan => control "36"
  | bold => control "1"
  | dim => control "2"

/-- A text in a style, if colours are on. -/
def paint (style : Style) (colours : Bool) (text : String) : String :=
  if colours then style.start ++ text ++ reset else text

end Style

end HouseStyle
