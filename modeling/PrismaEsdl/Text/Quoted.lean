import PrismaEsdl.Text.Printable

/-!
The quoted form in which messages show a text: between apostrophes, or between quotation marks
where the text holds an apostrophe and no quotation mark, with what is not printable escaped.
-/

namespace PrismaEsdl.Text

/-- How a code point is written between two given marks. -/
def quotedPoint (mark : Char) : CodePoint → Text
  | .char '\n' => "\\n"
  | .char '\r' => "\\r"
  | .char '\t' => "\\t"
  | p =>
    if p = .char mark ∨ p = .char '\\' then [.char '\\', p]
    else if p.isPrintable then [p]
    else if p.value < 0x100 then "\\x" ++ ofNatHex 2 p.value
    else if p.value < 0x10000 then "\\u" ++ ofNatHex 4 p.value
    else "\\U" ++ ofNatHex 8 p.value

/-- The mark that a text is quoted with. -/
def quotationMark (t : Text) : Char :=
  if t.contains (.char '\'') && !t.contains (.char '"') then '"' else '\''

/-- A text in its quoted form. -/
def quoted (t : Text) : Text :=
  let mark := t.quotationMark
  .char mark :: t.flatMap (quotedPoint mark) ++ [.char mark]

/-- Bytes in their quoted form: each one as the character with its number, or as an escape. -/
def quotedBytes (b : List UInt8) : Text :=
  let t : Text := b.map fun byte => .char (Char.ofNat byte.toNat)
  let mark := t.quotationMark
  .char 'b' :: .char mark :: t.flatMap (quotedByte mark) ++ [.char mark]
where
  quotedByte (mark : Char) (p : CodePoint) : Text :=
    if 0x80 ≤ p.value then "\\x" ++ ofNatHex 2 p.value else quotedPoint mark p

end PrismaEsdl.Text
