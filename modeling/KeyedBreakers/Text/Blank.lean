/-!
# Blank text

White space as Unicode has it, and the trimming of ASCII control characters that addresses use. The
two differ: a zero-width space is not white space, and a no-break space is.
-/

namespace KeyedBreakers.Text

/-- The characters with the Unicode property `White_Space`. -/
def isBlank (c : Char) : Bool :=
  let n := c.toNat
  (9 ≤ n && n ≤ 13) || n == 0x20 || n == 0x85 || n == 0xA0 || n == 0x1680
    || (0x2000 ≤ n && n ≤ 0x200A) || n == 0x2028 || n == 0x2029 || n == 0x202F || n == 0x205F
    || n == 0x3000

/-- Text is blank when every character of it is white space; the empty text is blank. -/
def allBlank (text : String) : Bool :=
  text.toList.all isBlank

/-- The text without the characters at both ends that `drop` accepts. -/
def trimBy (drop : Char → Bool) (cs : List Char) : List Char :=
  ((cs.dropWhile drop).reverse.dropWhile drop).reverse

end KeyedBreakers.Text
