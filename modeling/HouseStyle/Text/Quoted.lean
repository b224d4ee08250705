import HouseStyle.Text.Category
import HouseStyle.Text.Newcomer
import HouseStyle.Text.Trait

/-!
# Quoted texts

A text between quotes in which every character can be told from every other: quotes, backslashes
and the usual control characters get a letter, and what does not show on its own, blanks other
than the ordinary one and marks that join the character before them included, gets its code.
-/

namespace HouseStyle.Text

/-- The characters that show: letters, marks, numbers, punctuation and symbols. -/
def visible : CodeSet :=
  .union newcomers ⟨categoryTables.flatMap fun entry =>
    if entry.1.toList.head?.any (fun c => c != 'c' && c != 'z') then
      (CodeSet.ofHex entry.2).ranges
    else []⟩

/-- The characters that join the one before them. -/
def joining : CodeSet :=
  (traitTables.find? fun entry => entry.1 = "grext graphemeextend").elim newJoining
    fun entry => .union newJoining (.ofHex entry.2)

/-- Whether a character is shown as it is. -/
def showsItself (c : Char) : Bool := c == ' ' || (visible.contains c && !joining.contains c)

/-- A character within quotes. -/
def quotedChar (c : Char) : List Char :=
  match c with
  | '\x00' => ['\\', '0']
  | '\t' => ['\\', 't']
  | '\r' => ['\\', 'r']
  | '\n' => ['\\', 'n']
  | '"' => ['\\', '"']
  | '\\' => ['\\', '\\']
  | c =>
    if showsItself c then [c]
    else ['\\', 'u', '\x7b'] ++ Nat.toDigits 16 c.toNat ++ ['\x7d']

/-- A text between quotes. -/
def quoted (text : String) : String :=
  String.ofList ('"' :: text.toList.flatMap quotedChar ++ ['"'])

end HouseStyle.Text
