import Storyboard.Text.Hidden

/-!
# Quoted text

Messages put the names that users chose between double quotes. Inside, a quote and a backslash
follow a backslash, the usual control characters have their letters, and every other hidden
character is written by number, as `\u{301}`. Everything else stands as it is.
-/

namespace Storyboard.Text

/-- How quoted text writes one character. -/
def quotedChar (c : Char) : List Char :=
  match c with
  | '"' => ['\\', '"']
  | '\\' => ['\\', '\\']
  | '\n' => ['\\', 'n']
  | '\r' => ['\\', 'r']
  | '\t' => ['\\', 't']
  | '\x00' => ['\\', '0']
  | c =>
    if isHidden c then '\\' :: 'u' :: '\x7b' :: Nat.toDigits 16 c.toNat ++ ['\x7d'] else [c]

/-- A text between quotes, as messages show it. -/
def quoted (s : String) : String :=
  String.ofList ('"' :: s.toList.flatMap quotedChar ++ ['"'])

/-- Several texts between quotes, as a list in brackets. -/
def quotedList (names : List String) : String :=
  "[" ++ String.intercalate ", " (names.map quoted) ++ "]"

end Storyboard.Text
