import PrismaEsdl.Decimal.Binary64

/-!
The shortest decimal that reads back as a given binary64 number.

A decimal reads back as a number exactly if it lies in the interval of the reals that round to it;
the interval holds its ends if the significand is even. On the grid of the multiples of a power of
ten, if any point lies in the interval, so does one of the two neighbours of the number. The search
takes grids from coarse to fine, so the first grid with a point has the fewest digits.
-/

namespace PrismaEsdl

/-- The number `digits · 10 ^ exponent`. -/
structure Decimal where
  digits : Nat
  exponent : Int
  deriving DecidableEq, Repr

namespace Decimal

/-- The reals that round to a binary64 number, in quarters of its last place: the number, the two
ends, and whether the ends belong to it. -/
structure Interval where
  value : Nat
  low : Nat
  high : Nat
  closed : Bool

/-- The interval of a positive number. Below a power of two the numbers lie twice as close. -/
def Interval.of (significand : Nat) (exponent : Int) : Interval where
  value := 4 * significand
  low :=
    if significand = Binary64.leastNormal ∧ Binary64.leastExponent < exponent then
      4 * significand - 1
    else 4 * significand - 2
  high := 4 * significand + 2
  closed := significand % 2 == 0

/-- A grid of decimals beside an interval: a number of quarters times `up` is on the same scale as
a grid point times `down`. -/
structure Grid where
  exponent : Int
  up : Nat
  down : Nat

/-- The multiples of `10 ^ place` beside the numbers of quarters of `2 ^ exponent`. -/
def Grid.of (exponent place : Int) : Grid where
  exponent := place
  up := Nat.pow 2 (exponent - 2).toNat * Nat.pow 10 (-place).toNat
  down := Nat.pow 2 (2 - exponent).toNat * Nat.pow 10 place.toNat

/-- Whether a point of a grid lies in an interval. -/
def Grid.holds (grid : Grid) (interval : Interval) (point : Nat) : Bool :=
  if interval.closed then
    interval.low * grid.up ≤ point * grid.down && point * grid.down ≤ interval.high * grid.up
  else
    interval.low * grid.up < point * grid.down && point * grid.down < interval.high * grid.up

/-- The point of a grid that is nearest to the number, of those in its interval. -/
def Grid.nearest? (grid : Grid) (interval : Interval) : Option Nat :=
  let number := interval.value * grid.up
  let below := number / grid.down
  let above := below + 1
  match grid.holds interval below, grid.holds interval above with
  | false, false => none
  | true, false => some below
  | false, true => some above
  | true, true =>
    let toBelow := number - below * grid.down
    let toAbove := above * grid.down - number
    if toBelow < toAbove then some below
    else if toAbove < toBelow then some above
    else some (below + below % 2)

/-- Searches the grids from `10 ^ place` downwards. -/
def search (interval : Interval) (exponent : Int) : Nat → Int → Decimal
  | 0, place =>
    let grid := Grid.of exponent place
    ⟨interval.value * grid.up / grid.down, place⟩
  | steps + 1, place =>
    match (Grid.of exponent place).nearest? interval with
    | some point => ⟨point, place⟩
    | none => search interval exponent steps (place - 1)

/-- The place of the first digit of `significand · 2 ^ exponent`, or the one above it. -/
def firstPlace (significand : Nat) (exponent : Int) : Int :=
  ((significand.log2 : Int) + exponent + 1) * 30103 / 100000 + 1

/-- The shortest decimal for a positive number. Seventeen digits always suffice. -/
def shortest (significand : Nat) (exponent : Int) : Decimal :=
  search (.of significand exponent) exponent 20 (firstPlace significand exponent)

end Decimal

end PrismaEsdl
