import PrismaEsdl.Text.CodePoint

/-!
UTF-8. Writing fails exactly where a surrogate stands alone; reading is strict: it accepts the
shortest form of each character and nothing else. Bytes may come in pieces: `decodeFront?` leaves
the beginning of a character that the next piece completes.
-/

namespace PrismaEsdl.Text.Utf8

/-- The bytes of a text, or none where it holds a lone surrogate. -/
def encode? : Text → Option (List UInt8)
  | [] => some []
  | .char c :: rest => (encode? rest).map (String.utf8EncodeChar c ++ ·)
  | .surrogate _ :: _ => none

/-- The six payload bits of a continuation byte. -/
def continuation? (b : UInt8) : Option Nat :=
  if 0x80 ≤ b ∧ b < 0xC0 then some (b.toNat - 0x80) else none

/-- The character with a number, where the number is at least the least one that needs as many
bytes as were read. -/
def character? (least n : Nat) : Option CodePoint :=
  if least ≤ n ∧ n.isValidChar then some (.char (Char.ofNat n)) else none

/-- Whether bytes are the beginning of a character that takes more bytes. A second byte that only
a surrogate would have is found out with the third one. -/
def isBegun : List UInt8 → Bool
  | [b] => 0xC2 ≤ b && b < 0xF5
  | [b, b₁] => (continuation? b₁).isSome &&
    (b == 0xE0 && 0xA0 ≤ b₁ || 0xE1 ≤ b && b < 0xF0 || b == 0xF0 && 0x90 ≤ b₁
      || 0xF1 ≤ b && b < 0xF4 || b == 0xF4 && b₁ < 0x90)
  | [b, b₁, b₂] => (continuation? b₁).isSome && (continuation? b₂).isSome &&
    (b == 0xF0 && 0x90 ≤ b₁ || 0xF1 ≤ b && b < 0xF4 || b == 0xF4 && b₁ < 0x90)
  | _ => false

/-- The character that two bytes write. -/
def ofTwo? (b b₁ : UInt8) : Option CodePoint := do
  let c₁ ← continuation? b₁
  if 0xC0 ≤ b then character? 0x80 ((b.toNat - 0xC0) * 0x40 + c₁) else none

/-- The character that three bytes write. -/
def ofThree? (b b₁ b₂ : UInt8) : Option CodePoint := do
  let c₁ ← continuation? b₁
  let c₂ ← continuation? b₂
  character? 0x800 (((b.toNat - 0xE0) * 0x40 + c₁) * 0x40 + c₂)

/-- The character that four bytes write. -/
def ofFour? (b b₁ b₂ b₃ : UInt8) : Option CodePoint := do
  let c₁ ← continuation? b₁
  let c₂ ← continuation? b₂
  let c₃ ← continuation? b₃
  character? 0x10000 ((((b.toNat - 0xF0) * 0x40 + c₁) * 0x40 + c₂) * 0x40 + c₃)

/-- A text with a character before it, and what is left over behind it. -/
def putBefore (p : CodePoint) (front : Text × List UInt8) : Text × List UInt8 :=
  (p :: front.1, front.2)

/-- The characters that bytes write, and the bytes of a last one that is not complete; none where
some of the bytes are found to write no character. -/
def decodeFront? (bytes : List UInt8) : Option (Text × List UInt8) :=
  if isBegun bytes then some ([], bytes)
  else match bytes with
    | [] => some ([], [])
    | b :: rest =>
      if b < 0x80 then return putBefore (.char (Char.ofNat b.toNat)) (← decodeFront? rest)
      else if b < 0xE0 then
        match rest with
        | b₁ :: rest => return putBefore (← ofTwo? b b₁) (← decodeFront? rest)
        | _ => none
      else if b < 0xF0 then
        match rest with
        | b₁ :: b₂ :: rest => return putBefore (← ofThree? b b₁ b₂) (← decodeFront? rest)
        | _ => none
      else
        match rest with
        | b₁ :: b₂ :: b₃ :: rest =>
          return putBefore (← ofFour? b b₁ b₂ b₃) (← decodeFront? rest)
        | _ => none

/-- The text that bytes write, or none where they are not well formed. -/
def decode? (bytes : List UInt8) : Option Text :=
  match decodeFront? bytes with
  | some (t, []) => some t
  | _ => none

end PrismaEsdl.Text.Utf8
