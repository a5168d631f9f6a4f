/-!
# Blank characters and trimming

A blank is a character with the White_Space property. Trimming removes blanks
from the ends of a text and never touches what stands between two others.
-/

namespace ProtocolHeaders.Text

/-- The twenty-five characters with the White_Space property. -/
def isBlank (c : Char) : Bool :=
  (0x9 <= c.toNat && c.toNat <= 0xD) || c.toNat == 0x20 || c.toNat == 0x85 || c.toNat == 0xA0 ||
    c.toNat == 0x1680 || (0x2000 <= c.toNat && c.toNat <= 0x200A) || c.toNat == 0x2028 ||
    c.toNat == 0x2029 || c.toNat == 0x202F || c.toNat == 0x205F || c.toNat == 0x3000

/-- The text without its leading blanks. -/
def trimStart (text : List Char) : List Char :=
  text.dropWhile isBlank

/-- The text without its trailing blanks. -/
def trimEnd (text : List Char) : List Char :=
  (text.reverse.dropWhile isBlank).reverse

/-- The text without its leading and trailing blanks. -/
def trim (text : List Char) : List Char :=
  trimEnd (trimStart text)

/-- A text of blanks only, the empty one included. -/
def onlyBlanks (text : List Char) : Bool :=
  text.all isBlank

@[simp] theorem trimEnd_nil : trimEnd [] = [] := rfl

end ProtocolHeaders.Text
