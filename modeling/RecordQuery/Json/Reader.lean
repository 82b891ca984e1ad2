import RecordQuery.Json.Document
import RecordQuery.Fields

namespace RecordQuery.Json

/-- How many containers may be open at once. -/
def maxDepth : Nat := 127

namespace Document

mutual

/-- The wire value of a document, when every scalar denotes something and at most `room`
containers are open at once. Of several members with one name the last stays. -/
def json? (room : Nat) : Document → Option Json
  | .null => some .null
  | .bool b => some (.bool b)
  | .number n => n.map .number
  | .text s => s.map .text
  | .array ds => if room = 0 then none else (items? (room - 1) ds).map .array
  | .object ms => if room = 0 then none else (members? (room - 1) ms).map .object

def items? (room : Nat) : List Document → Option (List Json)
  | [] => some []
  | d :: ds => do
    let j ← json? room d
    let js ← items? room ds
    return j :: js

def members? (room : Nat) (ms : List (Option String × Document)) :
    Option (List (String × Json)) :=
  (memberList? room ms).map Fields.ofList

def memberList? (room : Nat) : List (Option String × Document) → Option (List (String × Json))
  | [] => some []
  | (name, d) :: ms => do
    let n ← name
    let j ← json? room d
    let js ← memberList? room ms
    return (n, j) :: js

end

/-- The document of each known member: given by name, each name at most once and every name
readable, or given by position, no more than are known. -/
def known? (names : List String) : Document → Option (List (Option Document))
  | .object ms =>
    if ms.all (fun m => m.1.isSome) then
      names.mapM fun n =>
        match ms.filter (fun m => m.1 == some n) with
        | [] => some none
        | [m] => some (some m.2)
        | _ => none
    else none
  | .array ds =>
    if ds.length ≤ names.length then some (names.mapIdx fun i _ => ds[i]?) else none
  | _ => none

def bool? : Document → Option Bool
  | .bool b => some b
  | _ => none

def text? : Document → Option String
  | .text s => s
  | _ => none

/-- A count that fits an unsigned 64-bit word. -/
def count? : Document → Option Nat
  | .number (some (.int i)) => if 0 ≤ i.val then some i.val.toNat else none
  | _ => none

/-- A value that may be absent, written `null`. -/
def optional? (read : Document → Option α) : Document → Option (Option α)
  | .null => some none
  | d => (read d).map some

def list? (read : Document → Option α) : Document → Option (List α)
  | .array ds => ds.mapM read
  | _ => none

def row? (room : Nat) : Document → Option Row
  | .object ms => if room = 0 then none else members? (room - 1) ms
  | _ => none

end Document

def ofText? (s : String) : Option Json := do
  let d ← Document.ofText? s
  d.json? maxDepth

end RecordQuery.Json
