namespace RecordQuery.Decimal

/-- A positive double and the ends of the interval that rounds to it, over one denominator.
The ends belong to the interval when the significand is even. -/
structure Rounding where
  low : Nat
  value : Nat
  high : Nat
  den : Nat
  closed : Bool

/-- The interval of a finite double other than zero. Below a power of two the spacing halves. -/
def Rounding.ofBits (bits : UInt64) : Rounding :=
  let fraction := bits.toNat % Nat.pow 2 52
  let field := bits.toNat / Nat.pow 2 52 % Nat.pow 2 11
  let significand := if field = 0 then fraction else fraction + Nat.pow 2 52
  let quarter : Int := (max field 1 : Nat) - 1077
  let below := if fraction = 0 && 1 < field then 1 else 2
  let unit := Nat.pow 2 quarter.toNat
  { low := (4 * significand - below) * unit
    value := 4 * significand * unit
    high := (4 * significand + 2) * unit
    den := Nat.pow 2 (-quarter).toNat
    closed := significand % 2 == 0 }

/-- Which of two multiples is taken when the value lies in the middle between them. -/
inductive Tie where
  | upward
  | toEven
  deriving DecidableEq

/-- Whether the lower of two neighbours wins a tie. -/
def Tie.takesLower (tie : Tie) (lower : Nat) : Bool := tie == .toEven && lower % 2 == 0

/-- The multiple of `10 ^ place` in the interval that is nearest to the value. -/
def Rounding.onGrid (r : Rounding) (tie : Tie) (place : Int) : Option Nat :=
  let scale := Nat.pow 10 (-place).toNat
  let unit := r.den * Nat.pow 10 place.toNat
  let inside (n : Nat) : Bool :=
    if r.closed then r.low * scale ≤ n * unit && n * unit ≤ r.high * scale
    else r.low * scale < n * unit && n * unit < r.high * scale
  let floor := r.value * scale / unit
  let rest := r.value * scale % unit
  let lower := 2 * rest < unit || (2 * rest == unit && tie.takesLower floor)
  if inside floor && (lower || !inside (floor + 1)) then some floor
  else if inside (floor + 1) then some (floor + 1)
  else none

/-- The exponent `k` with `10 ^ (k - 1) ≤ value < 10 ^ k`. -/
def Rounding.point (r : Rounding) : Int :=
  let binary : Int := (r.value.log2 : Int) - r.den.log2
  let start := (binary - 1) * 30103 / 100000 - 1
  let fits (k : Int) : Bool :=
    r.value * Nat.pow 10 (-k).toNat < r.den * Nat.pow 10 k.toNat
  ((List.range 5).map fun (i : Nat) => start + i).find? fits |>.getD (start + 5)

/-- Decimal digits without zeros at the ends, read as `0.d₁d₂… * 10 ^ point`. -/
structure Digits where
  digits : List Char
  point : Int

/-- The shortest digits of a finite double other than zero. On a grid only the two neighbours of the
value can be the nearest point of its interval, so grids of one digit, two digits and so on are
tried; seventeen always suffice. -/
def shortest (tie : Tie) (bits : UInt64) : Digits :=
  let r := Rounding.ofBits bits
  let k := r.point
  let found := (List.range 17).findSome? fun (n : Nat) =>
    (r.onGrid tie (k - (n + 1))).map fun d => (Nat.toDigits 10 d, k - (n + 1))
  match found with
  | none => ⟨[], 0⟩
  | some (ds, place) => ⟨(ds.reverse.dropWhile (· == '0')).reverse, place + ds.length⟩

end RecordQuery.Decimal
