import RecordQuery.Fault
import RecordQuery.Fields
import RecordQuery.Json.Printer
import RecordQuery.Json.Reader
import RecordQuery.Wire.Response

namespace RecordQuery

/-- One page. A page that is not the last one names the next in `next`; the store may report how
many records there are altogether. -/
structure Page where
  records : List Row
  done : Bool
  next : Option String
  total : Option UInt64

namespace Page

def last (records : List Row) : Page :=
  ⟨records, true, none, some (UInt64.ofNat records.length)⟩

def before (records : List Row) (next : String) : Page := ⟨records, false, some next, none⟩

def memberNames : List String := ["records", "done", "nextRecordsUrl", "totalSize"]

private def countOf? (d : Json.Document) : Option UInt64 := d.count?.map UInt64.ofNat

/-- The page that a document spells. Only `done` must be there. -/
def ofDocument? (d : Json.Document) : Option Page := do
  match ← d.known? memberNames with
  | [records, done, next, total] =>
    let records ← match records with
      | none => some []
      | some d => d.list? (Json.Document.row? (Json.maxDepth - 2))
    let done ← done.bind Json.Document.bool?
    let next ← match next with
      | none => some none
      | some d => d.optional? Json.Document.text?
    let total ← match total with
      | none => some none
      | some d => d.optional? countOf?
    return ⟨records, done, next, total⟩
  | _ => none

/-- The page as wire data; an absent member is not written. -/
def toJson (p : Page) : Json :=
  let next := match p.next with
    | none => []
    | some url => [("nextRecordsUrl", .text url)]
  let total := match p.total with
    | none => []
    | some n => [("totalSize", Json.ofUInt64 n)]
  .object (("records", .array (p.records.map .object)) :: ("done", .bool p.done) :: next ++ total)

end Page

/-- The page in a response, if the store accepted the request and sent one. -/
def Response.page (r : Response) : Except Fault Page :=
  if r.isSuccess then
    match (Json.Document.ofText? r.body).bind Page.ofDocument? with
    | some page => .ok page
    | none => .error (.malformedResponse "invalid page body")
  else
    .error (.transport ("remote store answered " ++ Response.statusText r.status ++ ": " ++ r.body))

/-- The member that the store adds to every row. -/
def envelopeName : String := "attributes"

def withoutEnvelope (row : Row) : Row := Fields.erase row envelopeName

end RecordQuery
