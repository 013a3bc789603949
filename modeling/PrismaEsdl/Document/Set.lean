import PrismaEsdl.Document.Basic

/-!
The order of the members of a set.

A set of numbers is kept in a table by the residues of the numbers, and its members are listed by
their places in the table. The place of a member is the first one that is free on a walk which its
residue begins: some neighbours first, then places further and further from it. Members of other
kinds have no residue that is the same in every run, and stand as they come.
-/

namespace PrismaEsdl.Document

/-! ### Residues -/

/-- The modulus of residues, a prime. -/
def modulus : Nat := Nat.pow 2 61 - 1

/-- A residue with a sign. There is none with the value -1. -/
def signedResidue (negative : Bool) (n : Nat) : Int :=
  let residue : Int := if negative then -(n % modulus : Nat) else (n % modulus : Nat)
  if residue = -1 then -2 else residue

/-- The residue of a number; equal numbers have the same residue, however they are written. The
power of two in a fraction is inverted: the sixty-first power is 1. -/
def residue? : Document → Option Int
  | bool b => some (if b then 1 else 0)
  | int i => some (signedResidue (decide (i < 0)) i.natAbs)
  | float (.finite negative significand exponent) =>
    some (signedResidue negative (significand * Nat.pow 2 (exponent % 61).toNat))
  | float (.infinite negative) => some (if negative then -314159 else 314159)
  | _ => none

/-! ### Places -/

/-- The number of places for some members: a power of two. -/
def tableSize (members : Nat) : Nat :=
  if members < 5 then 8 else Nat.pow 2 (Nat.log2 (2 * members) + 1)

/-- The places that are tried in some rounds, from a place on. -/
def walk (size : Nat) : (rounds place residue : Nat) → List Nat
  | 0, _, _ => []
  | rounds + 1, place, residue =>
    let near := if place + 9 < size then List.range' place 10 else [place]
    let residue := residue / 32
    near ++ walk size rounds ((place * 5 + 1 + residue) % size) residue

/-- The first free place for a residue; a walk reaches all places in the end. -/
def freePlace (size : Nat) (taken : List Nat) (residue : Int) : Nat :=
  let start := (residue % (Nat.pow 2 64 : Nat)).toNat
  ((walk size (size + 13) (start % size) start).find? (!taken.contains ·)).getD 0

/-- The places of residues, taken one after the other. -/
def placesOf (size : Nat) (residues : List Int) : List Nat :=
  (residues.foldl (fun taken residue => freePlace size taken residue :: taken) []).reverse

/-- The set of some members, all different. -/
def ofMembers (members : List Document) : Document :=
  match members.mapM residue? with
  | some residues =>
    let places := placesOf (tableSize members.length) residues
    set (((members.zip places).mergeSort fun a b => a.2 ≤ b.2).map Prod.fst)
  | none => set members

end PrismaEsdl.Document
