import Phrasebook.Decimal.Binary64

/-!
# Shortest decimal texts

`shortest` finds the fewest digits that read back as the same number (the
nearest of those, a tie going to the even last digit); `Binary64.text` writes
them positionally when the first digit stands at 10^-5 up to 10^15, and with a
signed exponent otherwise.
-/

namespace Phrasebook
namespace Binary64

/-- The power of ten of the first digit of `numerator / denominator`, which is
positive. -/
def leadingPower (numerator denominator : Nat) : Int :=
  if denominator ≤ numerator then
    ((Nat.toDigits 10 (numerator / denominator)).length : Int) - 1
  else
    let digits := (Nat.toDigits 10 (denominator / numerator)).length
    if numerator * Nat.pow 10 (digits - 1) = denominator then 1 - (digits : Int)
      else -(digits : Int)

/-- The multiple of `10^power` nearest to the number among its two neighbours on
that grid that read back as the number. Numbers read back when they lie between
the midpoints to the adjacent binary64 numbers, the midpoints included when the
significand is even. -/
def onGrid? (number : Binary64) (power : Int) : Option Nat :=
  let centre := 4 * number.significand
  let above := centre + 2
  let below :=
    centre - (if number.significand = Nat.pow 2 52 ∧
      -1074 < number.exponent then 1 else 2)
  let quarter := number.exponent - 2
  let grid := Nat.pow 2 (-quarter).toNat * Nat.pow 10 power.toNat
  let unit := Nat.pow 2 quarter.toNat * Nat.pow 10 (-power).toNat
  let readsBack (multiple : Nat) : Bool :=
    if number.significand % 2 = 0 then
      below * unit ≤ multiple * grid && multiple * grid ≤ above * unit
    else below * unit < multiple * grid && multiple * grid < above * unit
  let floor := centre * unit / grid
  let floorGap := centre * unit - floor * grid
  let ceilGap := (floor + 1) * grid - centre * unit
  let floorFirst :=
    floorGap < ceilGap || (floorGap == ceilGap && floor % 2 == 0)
  let candidates := if floorFirst then [floor, floor + 1]
    else [floor + 1, floor]
  candidates.find? fun multiple => 0 < multiple && readsBack multiple

/-- Removes the trailing zeros of `digits`, counting them into the power of ten;
`fuel` bounds their number. -/
def dropZeros (fuel : Nat) (digits : Nat) (power : Int) : Nat × Int :=
  match fuel with
  | 0 => (digits, power)
  | fuel + 1 => if digits % 10 = 0 then dropZeros fuel (digits / 10) (power + 1)
      else (digits, power)

/-- The digits and the power of ten of their last one, for a number other than
zero. -/
def shortest (number : Binary64) : Nat × Int :=
  let leading := leadingPower number.ratio.1 number.ratio.2
  let found := (List.range 17).findSome? fun (fewer : Nat) =>
    (number.onGrid? (leading - fewer)).map fun digits =>
      (digits, leading - (fewer : Int))
  match found with
  | some (digits, power) => dropZeros 18 digits power
  | none => (0, 0)

/-- Digits with a decimal point or an exponent, by the position of the first
digit. -/
def layout (digits : List Char) (power : Int) : List Char :=
  let leading := power + digits.length - 1
  if -5 ≤ leading ∧ leading < 16 then
    if 0 ≤ power then digits ++ List.replicate power.toNat '0' ++ ['.', '0']
    else if 0 ≤ leading then
      digits.take (leading.toNat + 1) ++ ['.'] ++
        digits.drop (leading.toNat + 1)
    else ['0', '.'] ++ List.replicate (-leading - 1).toNat '0' ++ digits
  else
    let mantissa := match digits with
      | first :: second :: rest => first :: '.' :: second :: rest
      | short => short
    let sign := if 0 ≤ leading then '+' else '-'
    mantissa ++ ['e', sign] ++ Nat.toDigits 10 leading.natAbs

/-- The decimal text of a number, zero written `0.0`. -/
def text (number : Binary64) : String :=
  let sign := if number.negative then ['-'] else []
  if number.isZero then String.ofList (sign ++ ['0', '.', '0'])
  else
    let (digits, power) := number.shortest
    String.ofList (sign ++ layout (Nat.toDigits 10 digits) power)

end Binary64
end Phrasebook
