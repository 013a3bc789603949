import PrismaEsdl.Text.CodePoint

/-!
Base64: bytes in groups of three, each written with four digits of six bits. Reading passes over
whatever is no digit. A group of two or three digits is ended by as many equals signs as it lacks
digits, and so is the whole text; it cannot end within a group.
-/

namespace PrismaEsdl.Text.Base64

/-- The value of a digit. -/
def digit? (p : CodePoint) : Option Nat :=
  match p with
  | .surrogate _ => none
  | .char c =>
    if 'A' ≤ c ∧ c ≤ 'Z' then some (c.toNat - 65)
    else if 'a' ≤ c ∧ c ≤ 'z' then some (c.toNat - 71)
    else if c.isDigit then some (c.toNat + 4)
    else if c = '+' then some 62
    else if c = '/' then some 63
    else none

/-- The whole bytes of a group of up to four digits. -/
def groupBytes : List Nat → List UInt8
  | a :: b :: rest => .ofNat (a * 4 + b / 16) :: match rest with
    | c :: rest => .ofNat (b * 16 + c / 4) :: match rest with
      | d :: _ => [.ofNat (c * 64 + d)]
      | [] => []
    | [] => []
  | _ => []

/-- The bytes of a text after the digits of a group and some of the equals signs that end it. -/
def decodeFrom (group : List Nat) (pads : Nat) : Text → Option (List UInt8)
  | [] => if group.isEmpty then some [] else none
  | p :: rest =>
    if p = .char '=' then
      if group.length < 2 then decodeFrom group pads rest
      else if 4 ≤ group.length + pads + 1 then some (groupBytes group)
      else decodeFrom group (pads + 1) rest
    else
      match digit? p with
      | none => decodeFrom group pads rest
      | some d =>
        if group.length = 3 then
          (decodeFrom [] 0 rest).map (groupBytes (group ++ [d]) ++ ·)
        else decodeFrom (group ++ [d]) 0 rest

/-- The bytes that a text writes, if it writes some. -/
def decode? (t : Text) : Option (List UInt8) := decodeFrom [] 0 t

end PrismaEsdl.Text.Base64
