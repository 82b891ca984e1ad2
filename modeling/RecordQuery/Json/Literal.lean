import RecordQuery.Json.Basic
import RecordQuery.Text.Basic

namespace RecordQuery.Json

structure Literal where
  negative : Bool
  whole : List Nat
  fraction : Option (List Nat)
  exponent : Option Int

private def digitValues (cs : List Char) : List Nat × List Char :=
  let (digits, rest) := Text.digitRun cs
  (digits.map Text.digitValue, rest)

private def fractionOf (cs : List Char) : Option (Option (List Nat) × List Char) :=
  match cs with
  | '.' :: rest =>
    match digitValues rest with
    | ([], _) => none
    | (ds, rest) => some (some ds, rest)
  | _ => some (none, cs)

/-- Splits the characters of a literal. A zero stands alone before the point. -/
def Literal.ofChars? (cs : List Char) : Option Literal := do
  let (negative, rest) := match cs with
    | '-' :: cs => (true, cs)
    | cs => (false, cs)
  let (whole, rest) := digitValues rest
  if whole.isEmpty || (whole.head? == some 0 && 1 < whole.length) then none
  let (fraction, rest) ← fractionOf rest
  match rest with
  | [] => some ⟨negative, whole, fraction, none⟩
  | c :: rest =>
    if c == 'e' || c == 'E' then
      let e ← Text.integer? rest
      some ⟨negative, whole, fraction, some e⟩
    else none

/-- Takes digits into the significand while it fits a word; the count is of those left out. -/
def takeDigits : Nat → List Nat → Nat × Nat
  | n, [] => (n, 0)
  | n, d :: ds =>
    if 10 * n + d < UInt64.size then takeDigits (10 * n + d) ds else (n, ds.length + 1)

private def power (n : Nat) : Float := OfScientific.ofScientific 1 false n

/-- `f * 10 ^ e` in double arithmetic, in steps of at most `10 ^ 308`. -/
def scaled (f : Float) (e : Int) : Option Float :=
  if e.natAbs ≤ 308 then
    if 0 ≤ e then
      let g := f * power e.toNat
      if g.isInf then none else some g
    else some (f / power e.natAbs)
  else if f == 0.0 then some f
  else if 0 ≤ e then none
  else scaled (f / power 308) (e + 308)
termination_by (-e).toNat

private def float (significand : Nat) : Float := significand.toUInt64.toFloat

private def signed (negative : Bool) (f : Float) : Number := .real (if negative then -f else f)

private def realOf (l : Literal) (significand : Nat) (places : Int) : Option Number :=
  let e := l.exponent.getD 0
  if 2147483648 ≤ e.natAbs then
    if 0 < e && significand ≠ 0 then none else some (signed l.negative 0.0)
  else (scaled (float significand) (places + e)).map (signed l.negative)

/-- The number a literal denotes, if there is one: an integer that fits a word is itself, and
everything else a double, scaled by powers of ten in double arithmetic. The literal `-0` is a
double. -/
def Literal.number? (l : Literal) : Option Number :=
  let (significand, dropped) := takeDigits 0 l.whole
  match l.fraction, l.exponent with
  | none, none =>
    let i : Int := if l.negative then -(significand : Int) else significand
    if h : dropped = 0 ∧ ¬(l.negative = true ∧ significand = 0) ∧
        Int64.minValue.toInt ≤ i ∧ i < UInt64.size then
      some (.int ⟨i, h.2.2⟩)
    else realOf l significand dropped
  | none, some _ => realOf l significand dropped
  | some ds, _ =>
    let (full, rest) := takeDigits significand ds
    realOf l full (dropped - (ds.length - rest : Nat))

end RecordQuery.Json
