/-!
# Blank characters

The characters that are trimmed from the ends of a name or a number: the ASCII controls from tab
to carriage return, the four information separators, the space, the next-line control and every
Unicode space.  Main definitions: `isBlank` and `trimWhere`, of which `trimmed` and `trimNumber`
are two cases.
-/

namespace RecallChat.Text

set_option autoImplicit false

/-- The code points of the blank characters. -/
def blankCodes : List Nat :=
  [0x9, 0xa, 0xb, 0xc, 0xd, 0x1c, 0x1d, 0x1e, 0x1f, 0x20, 0x85, 0xa0, 0x1680,
   0x2000, 0x2001, 0x2002, 0x2003, 0x2004, 0x2005, 0x2006, 0x2007, 0x2008, 0x2009, 0x200a,
   0x2028, 0x2029, 0x202f, 0x205f, 0x3000]

/-- Whether a character is blank. -/
def isBlank (c : Char) : Bool := blankCodes.contains c.toNat

/-- Whether a character is blank around a number: the four information separators are not. -/
def isNumberBlank (c : Char) : Bool := isBlank c && !(0x1c ≤ c.toNat && c.toNat ≤ 0x1f)

/-- A text without its leading and trailing characters of a class. -/
def trimWhere (p : Char → Bool) (cs : List Char) : List Char :=
  ((cs.dropWhile p).reverse.dropWhile p).reverse

/-- A string without its leading and trailing blanks. -/
def trimmed (text : String) : String := String.ofList (trimWhere isBlank text.toList)

/-- The characters of a number without the blanks around it. -/
def trimNumber (cs : List Char) : List Char := trimWhere isNumberBlank cs

end RecallChat.Text
