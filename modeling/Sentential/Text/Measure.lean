/-! The length of a text in UTF-8 bytes, the unit of positions in messages. -/
namespace Sentential.Text

def byteLength : List Char → Nat
  | [] => 0
  | c :: cs => c.utf8Size + byteLength cs

end Sentential.Text
