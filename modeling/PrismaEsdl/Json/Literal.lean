import PrismaEsdl.Text.CodePoint

/-!
String literals of JSON. `encode` escapes the quotation mark, the backslash and the control
characters and writes every other code point as it is. `decode?` accepts every literal of the
standard, reads two escaped halves of a surrogate pair as the one character they stand for, and
leaves a half that stands alone as it is.
-/

namespace PrismaEsdl.Json.Literal

/-- How a code point is written inside a literal. -/
def encodePoint : CodePoint → Text
  | .char '"' => "\\\""
  | .char '\\' => "\\\\"
  | .char '\n' => "\\n"
  | .char '\r' => "\\r"
  | .char '\t' => "\\t"
  | .char '\x08' => "\\b"
  | .char '\x0c' => "\\f"
  | p => if p.value < 0x20 then "\\u" ++ Text.ofNatHex 4 p.value else [p]

/-- The literal of a text. -/
def encode (t : Text) : Text :=
  .char '"' :: t.flatMap encodePoint ++ [.char '"']

/-- The character that a letter after a backslash stands for. -/
def escaped? : CodePoint → Option CodePoint
  | .char '"' => some (.char '"')
  | .char '\\' => some (.char '\\')
  | .char '/' => some (.char '/')
  | .char 'b' => some (.char '\x08')
  | .char 'f' => some (.char '\x0c')
  | .char 'n' => some (.char '\n')
  | .char 'r' => some (.char '\r')
  | .char 't' => some (.char '\t')
  | _ => none

/-- A code point of a literal, and whether it was written by its number. -/
structure Piece where
  point : CodePoint
  numbered : Bool

/-- The code point that four hexadecimal digits write. -/
def numbered? (a b c d : CodePoint) : Option CodePoint :=
  (Text.toNat? 16 [a, b, c, d]).bind CodePoint.ofNat?

/-- Reads the inside of a literal and its closing mark, and gives what follows the mark. -/
def pieces? : Text → Option (List Piece × Text)
  | [] => none
  | .char '"' :: rest => some ([], rest)
  | .char '\\' :: .char 'u' :: a :: b :: c :: d :: rest => do
    let p ← numbered? a b c d
    (pieces? rest).map fun (pieces, after) => (⟨p, true⟩ :: pieces, after)
  | .char '\\' :: letter :: rest => do
    let p ← escaped? letter
    (pieces? rest).map fun (pieces, after) => (⟨p, false⟩ :: pieces, after)
  | p :: rest =>
    if p.value < 0x20 ∨ p = .char '\\' then none
    else (pieces? rest).map fun (pieces, after) => (⟨p, false⟩ :: pieces, after)

/-- The character of a surrogate pair. -/
def paired? : CodePoint → CodePoint → Option CodePoint
  | .surrogate high, .surrogate low =>
    if high.val < 0x400 ∧ 0x400 ≤ low.val then
      CodePoint.ofNat? (0x10000 + high.val * 0x400 + (low.val - 0x400))
    else none
  | _, _ => none

/-- The text of the pieces: two halves of a pair that were written by their numbers, one right
after the other, are one character. -/
def joined : List Piece → Text
  | [] => []
  | [piece] => [piece.point]
  | piece :: next :: rest =>
    match if piece.numbered && next.numbered then paired? piece.point next.point else none with
    | some p => p :: joined rest
    | none => piece.point :: joined (next :: rest)

/-- The text of a literal, or none where the text is not one whole literal. -/
def decode? : Text → Option Text
  | .char '"' :: rest =>
    match pieces? rest with
    | some (pieces, []) => some (joined pieces)
    | _ => none
  | _ => none

end PrismaEsdl.Json.Literal
