import RecordQuery.Text.Basic
import RecordQuery.Web.Domain.Basic
import RecordQuery.Web.Percent

namespace RecordQuery.Web

/-- Characters that no domain has. -/
def isForbiddenInDomain (c : Char) : Bool :=
  c.toNat ≤ 0x20 || c.toNat == 0x7F || "#%/:<>?@[\\]^|".toList.contains c

/-- The digits of a number with their base: hexadecimal after `0x`, octal after `0`. -/
def numberParts : List Char → Nat × List Char
  | '0' :: 'x' :: cs => (16, cs)
  | '0' :: 'X' :: cs => (16, cs)
  | '0' :: c :: cs => (8, c :: cs)
  | cs => (10, cs)

/-- The number that a part of an IPv4 address spells. -/
def partNumber? (part : List Char) : Option Nat :=
  if part.isEmpty then none
  else
    let (base, digits) := numberParts part
    digits.foldlM (fun n c => do
      let v ← Text.hexValue? c
      if v < base then some (base * n + v) else none) 0

/-- The parts of a domain; one empty part at the end is dropped. -/
def domainParts (domain : List Char) : List (List Char) :=
  let parts := Text.pieces '.' domain
  if parts.getLast? = some [] then parts.dropLast else parts

/-- Whether the last part of a domain is a number. -/
def endsInNumber (domain : List Char) : Bool :=
  match (domainParts domain).getLast? with
  | none => false
  | some part => (!part.isEmpty && part.all Char.isDigit) || (partNumber? part).isSome

/-- The value of an IPv4 address; its last part fills the bytes that are left. -/
def ipv4? (domain : List Char) : Option Nat := do
  let numbers ← (domainParts domain).mapM partNumber?
  let last ← numbers.getLast?
  let front := numbers.dropLast
  if 3 < front.length || Nat.pow 256 (4 - front.length) ≤ last || front.any (255 < ·) then none
  return front.foldl (fun n b => 256 * n + b) 0 * Nat.pow 256 (4 - front.length) + last

def ipv4Text (address : Nat) : List Char :=
  (".".intercalate ([3, 2, 1, 0].map fun i => toString (address / Nat.pow 256 i % 256))).toList

private def byteText? (cs : List Char) : Option Nat :=
  if cs.isEmpty || !cs.all Char.isDigit || (1 < cs.length && cs.head? == some '0') then none
  else if Text.decimal cs < 256 then some (Text.decimal cs) else none

private def hexGroup? (cs : List Char) : Option Nat :=
  if cs.isEmpty || 4 < cs.length then none
  else cs.foldlM (fun n c => (Text.hexValue? c).map (16 * n + ·)) 0

/-- The 16-bit groups of a part without `::`; at the very end four bytes may stand for two. -/
def groups? (final : Bool) (cs : List Char) : Option (List Nat) :=
  if cs.isEmpty then some []
  else
    let parts := Text.pieces ':' cs
    let last := parts.getLastD []
    if final && last.contains '.' then do
      let front ← parts.dropLast.mapM hexGroup?
      match ← (Text.pieces '.' last).mapM byteText? with
      | [a, b, c, d] => some (front ++ [256 * a + b, 256 * c + d])
      | _ => none
    else parts.mapM hexGroup?

/-- Splits at the first `::`. -/
def splitGap : List Char → Option (List Char × List Char)
  | [] => none
  | ':' :: ':' :: cs => some ([], cs)
  | c :: cs => (splitGap cs).map fun (a, b) => (c :: a, b)

/-- The eight groups of an IPv6 address; `::` stands for one or more groups of zeros. -/
def ipv6? (cs : List Char) : Option (List Nat) :=
  match splitGap cs with
  | none => do
    let gs ← groups? true cs
    if gs.length = 8 then some gs else none
  | some (a, b) => do
    let front ← groups? false a
    let back ← groups? true b
    let n := front.length + back.length
    if n < 8 then some (front ++ List.replicate (8 - n) 0 ++ back) else none

/-- The first of the longest runs of zeros, as its start and its length. -/
def longestGap (groups : List Nat) : Nat × Nat :=
  (List.range 8).foldl (fun best i =>
    let run := ((groups.drop i).takeWhile (· == 0)).length
    if best.2 < run then (i, run) else best) (0, 0)

/-- The text of an IPv6 address; the longest run of two or more zeros is `::`. -/
def ipv6Text (groups : List Nat) : List Char :=
  let texts (gs : List Nat) := ":".intercalate (gs.map Text.hex)
  let (start, length) := longestGap groups
  let body := if length < 2 then texts groups
    else texts (groups.take start) ++ "::" ++ texts (groups.drop (start + length))
  ("[" ++ body ++ "]").toList

/-- The host in brackets, or nothing when there are no brackets. -/
def bracketed? (cs : List Char) : Option (Option (List Char)) :=
  if cs.head? ≠ some '[' then none
  else if cs.getLast? ≠ some ']' then some none
  else some ((ipv6? (cs.drop 1).dropLast).map ipv6Text)

/-- The host of an address whose scheme names hosts by domains. A domain that ends in a number is an
IPv4 address in one of its historical spellings. -/
def domainHost? (cs : List Char) : Option (List Char) :=
  match bracketed? cs with
  | some found => found
  | none => do
    let decoded ← textOfBytes? (percentDecoded cs)
    let domain ← Domain.ascii? decoded.toList
    if domain.isEmpty || domain.any isForbiddenInDomain then none
    if endsInNumber domain then (ipv4? domain).map ipv4Text else some domain

/-- The host of an address of any other scheme; it may be empty. -/
def plainHost? (cs : List Char) : Option (List Char) :=
  match bracketed? cs with
  | some found => found
  | none =>
    if cs.any fun c => c == '\x00' || " #/:<>?@[\\]^|".toList.contains c then none
    else some (percentEncoded isControl cs)

end RecordQuery.Web
