import RecordQuery.Decimal.Shortest
import RecordQuery.Text.Basic

namespace RecordQuery.Decimal

/-- How a double is spelled: which digits win a tie, the points at which an exponent is written,
what stands before an exponent that is not negative, and what ends a number without a fraction. -/
structure FloatStyle where
  tie : Tie
  exponential : Int → Bool
  rising : String
  whole : String

/-- Literals never have an exponent, and whole numbers have no fraction. -/
def FloatStyle.plain : FloatStyle := ⟨.upward, fun _ => false, "", ""⟩

/-- Messages write an exponent below `1e-4` and from `1e16` on. -/
def FloatStyle.message : FloatStyle :=
  ⟨.upward, fun point => point ≤ -4 || 16 < point, "", ".0"⟩

/-- Wire data write an exponent, always with its sign, below `1e-5` and from `1e16` on. -/
def FloatStyle.wire : FloatStyle :=
  ⟨.toEven, fun point => point ≤ -5 || 16 < point, "+", ".0"⟩

private def zeros (n : Int) : List Char := List.replicate n.toNat '0'

/-- The digits with the decimal point at their place. -/
def positional (whole : String) (d : Digits) : List Char :=
  if d.point ≤ 0 then '0' :: '.' :: (zeros (-d.point) ++ d.digits)
  else if d.digits.length ≤ d.point then
    d.digits ++ zeros (d.point - d.digits.length) ++ whole.toList
  else d.digits.take d.point.toNat ++ '.' :: d.digits.drop d.point.toNat

/-- The first digit, the others as a fraction, and the exponent. -/
def withExponent (rising : String) (d : Digits) : List Char :=
  let fraction := match d.digits.drop 1 with
    | [] => []
    | rest => '.' :: rest
  let sign := if 1 ≤ d.point then rising.toList else []
  d.digits.take 1 ++ fraction ++ 'e' :: (sign ++ (toString (d.point - 1)).toList)

/-- The text of a double. The sign of zero is kept, and not-a-number has none. -/
def FloatStyle.text (style : FloatStyle) (f : Float) : String :=
  let bits := f.toBits
  if f.isNaN then "NaN"
  else
    let magnitude := bits.toNat % Nat.pow 2 63
    let body :=
      if f.isInf then "inf".toList
      else if magnitude = 0 then '0' :: style.whole.toList
      else
        let d := shortest style.tie bits
        if style.exponential d.point then withExponent style.rising d
        else positional style.whole d
    String.ofList (if magnitude = bits.toNat then body else '-' :: body)

/-- The double nearest to `mantissa * 10 ^ exponent`. -/
def nearest (mantissa : Nat) (exponent : Int) : Float :=
  OfScientific.ofScientific mantissa (exponent < 0) exponent.natAbs

private def exponent? : List Char → Option Int
  | [] => some 0
  | c :: cs => if c == 'e' || c == 'E' then Text.integer? cs else none

private def magnitude? (cs : List Char) : Option Float :=
  let (whole, rest) := Text.digitRun cs
  let (fraction, rest) := match rest with
    | '.' :: more => Text.digitRun more
    | _ => ([], rest)
  if whole.isEmpty && fraction.isEmpty then none
  else (exponent? rest).map fun e =>
    nearest (Text.decimal (whole ++ fraction)) (e - fraction.length)

/-- Reads a decimal number with an optional fraction and exponent, or one of the words `NaN`,
`inf` and `infinity` in any case, after an optional sign. -/
def float? (s : String) : Option Float :=
  let (negative, cs) := Text.splitSign s.toList
  let word := String.ofList (cs.map Char.toLower)
  let magnitude :=
    if word == "nan" then some (0.0 / 0.0)
    else if word == "inf" || word == "infinity" then some (1.0 / 0.0)
    else magnitude? cs
  magnitude.map fun f => if negative then -f else f

end RecordQuery.Decimal
