import KeyedBreakers.Unicode.Unseen

/-!
# Quoted text

Text between quotation marks, so that it can stand inside a message without ending it or breaking
the line. A quotation mark and a backslash are written after a backslash, the four commonest
controls by a letter, and every other character that cannot be shown by its code in hexadecimal
between curly brackets.

* `escape` — how one character is written;
* `encode` — the whole text between quotation marks.
-/

namespace KeyedBreakers.Text.Quoted

open KeyedBreakers.Unicode

/-- A character by its code: `\u` and the hexadecimal digits in curly brackets. -/
def byCode (c : Char) : List Char :=
  ['\\', 'u', '\x7b'] ++ hexadecimal c.toNat ++ ['\x7d']

/-- How the character `c` is written between quotation marks. -/
def escape (c : Char) : List Char :=
  if c = '\x00' then ['\\', '0']
  else if c = '\t' then ['\\', 't']
  else if c = '\r' then ['\\', 'r']
  else if c = '\n' then ['\\', 'n']
  else if c = '\\' then ['\\', '\\']
  else if c = '"' then ['\\', '"']
  else if isShown c then [c]
  else byCode c

/-- The codes of the characters in order, without the quotation marks. -/
def body (cs : List Char) : List Char :=
  cs.flatMap escape

/-- The text between quotation marks. -/
def encode (text : String) : String :=
  String.ofList ('"' :: body text.toList ++ ['"'])

/-! ### Small equations -/

@[simp] theorem body_nil : body [] = [] := rfl

@[simp] theorem body_cons (c : Char) (cs : List Char) : body (c :: cs) = escape c ++ body cs := rfl

theorem toList_encode (text : String) :
    (encode text).toList = '"' :: body text.toList ++ ['"'] := by
  simp [encode]

end KeyedBreakers.Text.Quoted
