/-!
Code points and text.

Documents are read from escapes, and an escape may name half of a surrogate pair. Such text is
kept as it was written and only refused where it is written out as bytes, so a text is a list of
code points rather than a list of characters. `CodePoint.ofNat?_value` says that a code point is
determined by its number.
-/

namespace PrismaEsdl

/-- A Unicode code point: a character, or one of the 2048 surrogates standing alone. -/
inductive CodePoint where
  | char (c : Char)
  | surrogate (offset : Fin 0x800)
  deriving DecidableEq, Inhabited, Repr

namespace CodePoint

/-- The number of a code point. -/
def value : CodePoint → Nat
  | char c => c.toNat
  | surrogate offset => 0xD800 + offset

/-- The code point with a number, if there is one. -/
def ofNat? (n : Nat) : Option CodePoint :=
  if valid : n.isValidChar then some (.char (Char.ofNatAux n valid))
  else if surrogates : 0xD800 ≤ n ∧ n < 0xE000 then some (.surrogate ⟨n - 0xD800, by omega⟩)
  else none

theorem ofNat?_value : ∀ p : CodePoint, ofNat? p.value = some p
  | char c => by
    have valid : c.toNat.isValidChar := c.valid
    exact dif_pos valid
  | surrogate offset => by
    have invalid : ¬ (0xD800 + offset.val).isValidChar := by
      have bound := offset.isLt
      simp only [Nat.isValidChar]
      omega
    have surrogates : 0xD800 ≤ 0xD800 + offset.val ∧ 0xD800 + offset.val < 0xE000 := by omega
    have number : ofNat? (0xD800 + offset.val)
        = some (.surrogate ⟨0xD800 + offset.val - 0xD800, by omega⟩) :=
      (dif_neg invalid).trans (dif_pos surrogates)
    rw [value, number]
    simp

/-- The value of an ASCII decimal digit. -/
def digit? : CodePoint → Option Nat
  | char c => if c.isDigit then some (c.toNat - 48) else none
  | surrogate _ => none

/-- The value of an ASCII hexadecimal digit of either case. -/
def hexDigit? : CodePoint → Option Nat
  | char c =>
    if c.isDigit then some (c.toNat - 48)
    else if 'a' ≤ c ∧ c ≤ 'f' then some (c.toNat - 87)
    else if 'A' ≤ c ∧ c ≤ 'F' then some (c.toNat - 55)
    else none
  | surrogate _ => none

def isDigit (p : CodePoint) : Bool := p.digit?.isSome

/-- Whether a code point is one of the characters of a string. -/
def isAmong (p : CodePoint) (characters : String) : Bool :=
  match p with
  | char c => characters.toList.contains c
  | surrogate _ => false

/-- An ASCII letter or digit, `-` or `_`. -/
def isWord : CodePoint → Bool
  | char c => c.isAlphanum || c == '-' || c == '_'
  | surrogate _ => false

end CodePoint

/-- A text: a list of code points. -/
abbrev Text := List CodePoint

namespace Text

def ofString (s : String) : Text := s.toList.map .char

instance : Coe String Text := ⟨ofString⟩

@[simp] theorem ofString_inj {s s' : String} : ofString s = ofString s' ↔ s = s' := by
  have injective : Function.Injective CodePoint.char := fun _ _ => CodePoint.char.inj
  rw [ofString, ofString, List.map_inj_right injective, String.toList_inj]

/-- A natural number in decimal digits. -/
def ofNat (n : Nat) : Text := (Nat.toDigits 10 n).map .char

/-- An integer in decimal digits, with a minus sign where it is negative. -/
def ofInt (i : Int) : Text :=
  if i < 0 then .char '-' :: ofNat i.natAbs else ofNat i.natAbs

/-- A row of zeros. -/
def zeros (n : Nat) : Text := List.replicate n (.char '0')

/-- Digits, filled with zeros up to a width. -/
def padded (width : Nat) (digits : Text) : Text := zeros (width - digits.length) ++ digits

/-- A natural number in lower-case hexadecimal digits, filled with zeros up to a width. -/
def ofNatHex (width n : Nat) : Text := padded width ((Nat.toDigits 16 n).map .char)

/-- The number that a run of digits writes in a base, or none where a code point is no digit of
that base. -/
def toNat? (base : Nat) (digits : Text) : Option Nat :=
  digits.foldlM (fun n p => do
    let d ← p.hexDigit?
    if d < base then some (n * base + d) else none) 0

/-- The parts of a text with a separator between them. -/
def join (separator : Text) (parts : List Text) : Text := List.intercalate separator parts

/-- Whether a text occurs inside another. -/
def isWithin (part : Text) : Text → Bool
  | [] => part.isEmpty
  | p :: rest => part.isPrefixOf (p :: rest) || part.isWithin rest

/-- The pieces between the occurrences of one code point; there is always at least one. -/
def split (separator : CodePoint) : Text → List Text
  | [] => [[]]
  | p :: rest =>
    if p = separator then [] :: split separator rest
    else match split separator rest with
      | [] => [[p]]
      | piece :: pieces => (p :: piece) :: pieces

/-- A text without the line feed at its end, if there is one. -/
def withoutLastBreak (t : Text) : Text :=
  if t.getLast? = some (.char '\n') then t.dropLast else t

/-- Order by code point. -/
def le : Text → Text → Bool
  | [], _ => true
  | _ :: _, [] => false
  | p :: ps, q :: qs => p.value < q.value || (p == q && le ps qs)

end Text

end PrismaEsdl
