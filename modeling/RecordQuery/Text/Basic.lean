namespace RecordQuery.Text

/-- The text with the ASCII capitals made small. -/
def lower (s : String) : String := String.ofList (s.toList.map Char.toLower)

/-- The text with the small ASCII letters made capital. -/
def upper (s : String) : String := String.ofList (s.toList.map Char.toUpper)

/-- Equality up to the case of ASCII letters. -/
def sameLetters (a b : String) : Bool := lower a == lower b

def occursIn (needle : List Char) : List Char → Bool
  | [] => needle.isEmpty
  | c :: cs => needle.isPrefixOf (c :: cs) || occursIn needle cs

def contains (s needle : String) : Bool := occursIn needle.toList s.toList

/-- What follows `lead` at the start of the characters, if they start with it. -/
def after? (lead cs : List Char) : Option (List Char) :=
  if lead.isPrefixOf cs then some (cs.drop lead.length) else none

/-- The pieces between the occurrences of `sep`: one more than there are occurrences. -/
def pieces (sep : Char) : List Char → List (List Char)
  | [] => [[]]
  | c :: cs =>
    if c = sep then [] :: pieces sep cs
    else match pieces sep cs with
      | [] => [[c]]
      | p :: ps => (c :: p) :: ps

def hexValue? (c : Char) : Option Nat :=
  if '0' ≤ c ∧ c ≤ '9' then some (c.toNat - 48)
  else if 'a' ≤ c ∧ c ≤ 'f' then some (c.toNat - 87)
  else if 'A' ≤ c ∧ c ≤ 'F' then some (c.toNat - 55)
  else none

/-- A number in small hexadecimal digits, without leading zeros. -/
def hex (n : Nat) : String := String.ofList (Nat.toDigits 16 n)

/-- A count of something in decimal digits, filled with zeros to `width`. -/
def padded (width n : Nat) : String :=
  let digits := (toString n).toList
  String.ofList (List.replicate (width - digits.length) '0' ++ digits)

def digitValue (c : Char) : Nat := c.toNat - 48

/-- The number that decimal digits spell. -/
def decimal (digits : List Char) : Nat := digits.foldl (fun n c => 10 * n + digitValue c) 0

def digitRun (cs : List Char) : List Char × List Char :=
  (cs.takeWhile Char.isDigit, cs.dropWhile Char.isDigit)

/-- Whether a text begins with a minus, and what follows its sign. -/
def splitSign : List Char → Bool × List Char
  | '-' :: cs => (true, cs)
  | '+' :: cs => (false, cs)
  | cs => (false, cs)

/-- The whole number that a text spells with an optional sign. -/
def integer? (cs : List Char) : Option Int :=
  let (negative, rest) := splitSign cs
  match digitRun rest with
  | (d :: ds, []) => some (if negative then -(decimal (d :: ds) : Int) else decimal (d :: ds))
  | _ => none

/-- The characters of the Unicode property White_Space. -/
def isBlank (c : Char) : Bool :=
  let n := c.toNat
  (9 ≤ n && n ≤ 13) || n == 0x20 || n == 0x85 || n == 0xA0 || n == 0x1680 ||
  (0x2000 ≤ n && n ≤ 0x200A) || n == 0x2028 || n == 0x2029 || n == 0x202F || n == 0x205F ||
  n == 0x3000

def skipBlanks (cs : List Char) : List Char := cs.dropWhile isBlank

/-- The text without the blanks at its ends. -/
def trimmed (s : String) : String :=
  String.ofList (skipBlanks (skipBlanks s.toList).reverse).reverse

def wordsOf : List Char → List (List Char)
  | [] => []
  | c :: cs =>
    if isBlank c then wordsOf cs
    else match cs, wordsOf cs with
      | d :: _, w :: ws => if isBlank d then [c] :: w :: ws else (c :: w) :: ws
      | _, ws => [c] :: ws

/-- The words of a text with one space between them. -/
def singleSpaced (s : String) : String :=
  " ".intercalate ((wordsOf s.toList).map String.ofList)

/-- Membership in the set of code points that is written down as its changes: the rising list of the
code points at which membership changes, so that a member has an odd number of them at or below it.
The tables written so follow the Unicode character database, version 17. -/
def inRanges (changes : List Nat) (n : Nat) : Bool :=
  (changes.takeWhile (· ≤ n)).length % 2 == 1

/-- The rows that have been read, and the row and the number that are being read, all reversed. -/
structure TableReader where
  rows : List (List Nat) := []
  row : List Nat := []
  number : Option Nat := none

namespace TableReader

def endNumber (r : TableReader) : TableReader :=
  match r.number with
  | none => r
  | some n => { r with row := n :: r.row, number := none }

/-- Ends the row; a row without numbers is none. -/
def endRow (r : TableReader) : TableReader :=
  let r := r.endNumber
  if r.row.isEmpty then r else { r with rows := r.row.reverse :: r.rows, row := [] }

def step (r : TableReader) (c : Char) : TableReader :=
  match hexValue? c with
  | some d => { r with number := some (16 * r.number.getD 0 + d) }
  | none => if c == ';' || c == '\n' then r.endRow else r.endNumber

end TableReader

/-- The rows of a table: hexadecimal numbers with a space between them, where a row ends with a
semicolon or with the line. -/
def hexRows (table : String) : List (List Nat) :=
  (table.toList.foldl TableReader.step {}).endRow.rows.reverse

end RecordQuery.Text
