namespace RecordQuery

/-- An integer that fits a signed or an unsigned 64-bit word. -/
abbrev WireInt := { i : Int // Int64.minValue.toInt ≤ i ∧ i < UInt64.size }

namespace Json

/-- A number on the wire is a word-sized integer or a double. -/
inductive Number where
  | int (i : WireInt)
  | real (f : Float)

/-- An integer and a double are never the same number. -/
instance : BEq Number where
  beq
    | .int a, .int b => a == b
    | .real a, .real b => a == b
    | _, _ => false

end Json

/-- A wire value. The members of an object are in the order of their names. -/
inductive Json where
  | null
  | bool (b : Bool)
  | number (n : Json.Number)
  | text (s : String)
  | array (items : List Json)
  | object (members : List (String × Json))

instance : Inhabited Json := ⟨.null⟩

namespace Json

mutual

def same : Json → Json → Bool
  | .null, .null => true
  | .bool a, .bool b => a == b
  | .number a, .number b => a == b
  | .text a, .text b => a == b
  | .array xs, .array ys => sameItems xs ys
  | .object xs, .object ys => sameMembers xs ys
  | _, _ => false

def sameItems : List Json → List Json → Bool
  | [], [] => true
  | x :: xs, y :: ys => same x y && sameItems xs ys
  | _, _ => false

def sameMembers : List (String × Json) → List (String × Json) → Bool
  | [], [] => true
  | (a, x) :: xs, (b, y) :: ys => a == b && same x y && sameMembers xs ys
  | _, _ => false

end

instance : BEq Json := ⟨same⟩

theorem wireInt_int64 (i : Int64) : Int64.minValue.toInt ≤ i.toInt ∧ i.toInt < UInt64.size :=
  ⟨i.le_toInt, Int.lt_trans i.toInt_lt (by decide)⟩

theorem wireInt_uint64 (n : UInt64) :
    Int64.minValue.toInt ≤ (n.toNat : Int) ∧ (n.toNat : Int) < UInt64.size :=
  ⟨Int.le_trans (by decide) (Int.natCast_nonneg _), Int.ofNat_lt.2 n.toNat_lt⟩

def ofInt64 (i : Int64) : Json := .number (.int ⟨i.toInt, wireInt_int64 i⟩)

def ofUInt64 (n : UInt64) : Json := .number (.int ⟨n.toNat, wireInt_uint64 n⟩)

end Json

/-- One row as it appears on the wire: named values in the order of their names. -/
abbrev Row := List (String × Json)

end RecordQuery
