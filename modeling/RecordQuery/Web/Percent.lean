import RecordQuery.Text.Basic

namespace RecordQuery.Web

/-- Characters that are encoded in every part of an address. -/
def isControl (c : Char) : Bool := c.toNat < 0x20 || 0x7E < c.toNat

def hiddenInFragment (c : Char) : Bool := isControl c || " \"<>`".toList.contains c

/-- Characters that are encoded in a query; the quote only where the scheme is known. -/
def hiddenInQuery (known : Bool) (c : Char) : Bool :=
  isControl c || " \"#<>".toList.contains c || (known && c == '\'')

def hiddenInPath (c : Char) : Bool := hiddenInFragment c || "#?\x7b\x7d".toList.contains c

def hiddenInUser (c : Char) : Bool := hiddenInPath c || "/:;=@[\\]^|".toList.contains c

/-- A byte as `%` and two capital digits. -/
def percentByte (b : UInt8) : List Char :=
  '%' :: ((Text.upper (Text.hex (0x100 + b.toNat))).toList.drop 1)

/-- The characters with those of the class encoded byte by byte. -/
def percentEncoded (hidden : Char → Bool) (cs : List Char) : List Char :=
  cs.flatMap fun c =>
    if hidden c then c.toString.toUTF8.toList.flatMap percentByte else [c]

/-- The bytes that the characters stand for. A `%` without two digits stands for itself. -/
def percentDecoded : List Char → List UInt8
  | [] => []
  | '%' :: a :: b :: cs =>
    match Text.hexValue? a, Text.hexValue? b with
    | some x, some y => (x * 16 + y).toUInt8 :: percentDecoded cs
    | _, _ => 0x25 :: percentDecoded (a :: b :: cs)
  | c :: cs => c.toString.toUTF8.toList ++ percentDecoded cs

def textOfBytes? (bytes : List UInt8) : Option String := String.fromUTF8? ⟨bytes.toArray⟩

end RecordQuery.Web
