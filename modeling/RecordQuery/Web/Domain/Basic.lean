import RecordQuery.Text.Composition
import RecordQuery.Web.Domain.Direction
import RecordQuery.Web.Domain.Joining
import RecordQuery.Web.Domain.Mapping
import RecordQuery.Web.Punycode

namespace RecordQuery.Web.Domain

/-- The name with every character replaced by what it means, in composed form. -/
def normalized? (name : List Char) : Option (List Char) :=
  if name.all fun c => c.toNat < 0x80 then some (name.map Char.toLower)
  else (name.mapM fun c => meaning? c.toNat).map fun meanings =>
    (Text.composed meanings.flatten).map Char.ofNat

structure Label where
  shown : List Char
  written : List Char
  deriving DecidableEq

namespace Label

def mark : List Char := ['x', 'n', '-', '-']

/-- The longest label that is written in ASCII form. -/
def maxShown : Nat := 1000

/-- The longest ASCII form that is read. -/
def maxWritten : Nat := 2000

/-- Whether a label can be shown: it does not begin with a mark, and its joiners are in place. -/
def isShowable (label : List Char) : Bool :=
  !label.head?.any Text.isMark && joinersFit [] label && label.length ≤ maxShown

/-- The label that some normalized characters spell. -/
def ofChars? (cs : List Char) : Option Label :=
  match Text.after? mark cs with
  | some code => do
    if code.isEmpty || code.getLast? == some '-' || maxWritten < code.length then none
    let shown ← Punycode.decode? code
    if normalized? shown == some shown && isShowable shown then some ⟨shown, cs⟩ else none
  | none =>
    if cs.all fun c => c.toNat < 0x80 then some ⟨cs, cs⟩
    else if isShowable cs then some ⟨cs, mark ++ Punycode.encode cs⟩
    else none

end Label

/-- The ASCII form of a name: every character is replaced by what it means, and then every label
with characters outside ASCII is written in ASCII. A label that is already written so must be one
that the first stage would have left as it is. -/
def ascii? (name : List Char) : Option (List Char) := do
  let normalized ← normalized? name
  let labels ← (Text.pieces '.' normalized).mapM Label.ofChars?
  if directionsAgree (labels.map (·.shown)) then
    some (['.'].intercalate (labels.map (·.written)))
  else none

end RecordQuery.Web.Domain
