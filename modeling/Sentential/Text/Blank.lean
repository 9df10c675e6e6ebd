import Sentential.Text.CodePoints

/-! Blank characters, the class White_Space, and trimming. -/
namespace Sentential.Text

/-- The zero width space, the byte order mark and the separators U+001C to U+001F are not blank. -/
def blanks : CodePoints := [
  (0x09, 0x0D), (0x20, 0x20), (0x85, 0x85), (0xA0, 0xA0), (0x1680, 0x1680), (0x2000, 0x200A),
  (0x2028, 0x2029), (0x202F, 0x202F), (0x205F, 0x205F), (0x3000, 0x3000)]

def isBlank (c : Char) : Bool := blanks.contains c

def trimStart (text : List Char) : List Char := text.dropWhile isBlank

def trimEnd (text : List Char) : List Char := (trimStart text.reverse).reverse

def trim (text : String) : String := String.ofList (trimEnd (trimStart text.toList))

end Sentential.Text
