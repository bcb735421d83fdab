import SqlTemplate.Text.Hidden

/-! A text shown in double quotes for a message: quotes, backslashes and hidden
characters are written as escapes, so the shown text stays on one line and shows all it
holds. -/

namespace SqlTemplate.Text

/-- How one character is shown. A hidden character without a short escape is shown by its number. -/
def shownChar (c : Char) : Text :=
  match c with
  | '\x00' => ['\\', '0']
  | '\t' => ['\\', 't']
  | '\n' => ['\\', 'n']
  | '\r' => ['\\', 'r']
  | '"' => ['\\', '"']
  | '\\' => ['\\', '\\']
  | c => if isHidden c then '\\' :: 'u' :: '\x7b' :: Nat.toDigits 16 c.toNat ++ ['\x7d'] else [c]

def quoted (t : Text) : Text :=
  '"' :: t.flatMap shownChar ++ ['"']

end SqlTemplate.Text
