import PrismaEsdl.Text.Utf8

/-!
The content of a file as text: UTF-8, with every line ended by a line feed.

A text is taken in as far as it is asked for. A request for some code points takes pieces of bytes
from the file until there are enough, and a piece is decoded as a whole; so a request may fail over
bytes behind what it asks for, and what earlier requests gave stays good. Where the bytes of a file
write a text, requests give that text and nothing else.
-/

namespace PrismaEsdl.Files

/-- A text with each carriage return, alone or before a line feed, read as a line feed. -/
def unifyLineEnds : Text → Text
  | [] => []
  | .char '\r' :: .char '\n' :: rest => .char '\n' :: unifyLineEnds rest
  | .char '\r' :: rest => .char '\n' :: unifyLineEnds rest
  | p :: rest => p :: unifyLineEnds rest

/-- The text that the bytes of a file write, if they write one. -/
def text? (content : List UInt8) : Option Text := (Text.Utf8.decode? content).map unifyLineEnds

/-- What was taken in of a file, and what is left of it. -/
structure Intake where
  /-- The bytes that were not taken yet. -/
  left : List UInt8
  /-- The bytes that were taken of a character that is not complete. -/
  begun : List UInt8 := []
  /-- Whether a carriage return was taken that a line feed may follow. -/
  returned : Bool := false
  /-- The text that was decoded and not asked for yet. -/
  ready : Text := []
  /-- The number of bytes in the last piece. -/
  lastBytes : Nat := 0
  /-- The number of code points that the last piece gave. -/
  lastPoints : Nat := 0

namespace Intake

/-- The least number of bytes in a piece. -/
def leastPiece : Nat := 8192

/-- The number of bytes to take for a number of code points, judging by the last piece. -/
def pieceSize (s : Intake) (wanted : Nat) : Nat :=
  max leastPiece (s.lastBytes * wanted / s.lastPoints)

/-- A text without the carriage return that it may end with, and whether it does. -/
def withoutReturn (t : Text) : Text × Bool :=
  if t.getLast? = some (.char '\r') then (t.dropLast, true) else (t, false)

/-- Takes in a piece. A carriage return at its end waits for the next one. -/
def take (s : Intake) (wanted : Nat) : Option Intake := do
  let piece := s.left.take (s.pieceSize wanted)
  let (decoded, begun) ← Text.Utf8.decodeFront? (s.begun ++ piece)
  let decoded := if s.returned && !decoded.isEmpty then .char '\r' :: decoded else decoded
  let (decoded, returned) := if decoded.isEmpty then ([], s.returned) else withoutReturn decoded
  let made := unifyLineEnds decoded
  return {
    left := s.left.drop (s.pieceSize wanted), begun, returned
    ready := s.ready ++ made, lastBytes := piece.length, lastPoints := made.length }

/-- Takes in the end of the file. -/
def finish (s : Intake) : Option Intake :=
  match s.begun with
  | [] =>
    let ending : Text := if s.returned then [.char '\n'] else []
    some { s with ready := s.ready ++ ending, returned := false }
  | _ => none

/-- Gives out code points, as many as are wanted if there are so many. -/
def give (wanted : Nat) (s : Intake) : Text × Intake :=
  (s.ready.take wanted, { s with ready := s.ready.drop wanted })

/-- The next code points of a text, from at most a number of pieces. -/
def requestIn (wanted : Nat) : Nat → Intake → Option (Text × Intake)
  | 0, s => s.finish.map (give wanted)
  | pieces + 1, s =>
    if wanted ≤ s.ready.length then some (s.give wanted)
    else if s.left.isEmpty then s.finish.map (give wanted)
    else do requestIn wanted pieces (← s.take (wanted - s.ready.length))

/-- The next code points of a text, as many as are wanted if there are so many. A piece has at least
one byte, so there are no more pieces than bytes. -/
def request (s : Intake) (wanted : Nat) : Option (Text × Intake) :=
  requestIn wanted s.left.length s

end Intake

end PrismaEsdl.Files
