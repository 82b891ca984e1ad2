import RecordQuery.Text.Basic
import RecordQuery.Wire.Transport

namespace RecordQuery

/-- What a script answers to a query. -/
inductive Answer where
  | page (page : Page)
  | failure (reason : String)

/-- Routes in the order of their registration, and responses by address. -/
structure Script where
  instanceUrl : String
  routes : List (String × Answer)
  followUps : FieldMap Response
  chains : Nat

namespace Script

def defaultUrl : String := "https://mock.my.example.com"

def empty (instanceUrl : String) : Script := ⟨instanceUrl, [], .empty, 0⟩

/-- The path under which chained pages are found. -/
def queryPath : String := "/services/data/v60.0/query"

/-- The cursor of a page of a chain. -/
def cursor (chain index : Nat) : String :=
  queryPath ++ "/01g" ++ toString chain ++ "-" ++ toString index

def onQuery (s : Script) (needle : String) (answer : Answer) : Script :=
  { s with routes := s.routes ++ [(needle, answer)] }

def onFollowUp (s : Script) (cursor : String) (response : Response) : Script :=
  { s with followUps := s.followUps.insert (s.instanceUrl ++ cursor) response }

def onFollowUpPage (s : Script) (cursor : String) (page : Page) : Script :=
  s.onFollowUp cursor (.ok page.toJson.toText)

/-- The pages of a chain; each but the last names the next by its place in the chain. -/
def chained (chain : Nat) : Nat → List (List Row) → List Page
  | _, [] => []
  | _, [rows] => [.last rows]
  | index, rows :: more => .before rows (cursor chain (index + 1)) :: chained chain (index + 1) more

/-- Answers queries in which `needle` occurs with pages of rows. The first page reports how many
rows there are altogether; no pages at all are one empty last page. -/
def respond (s : Script) (needle : String) (pages : List (List Row)) : Script :=
  let chain := s.chains + 1
  let total := UInt64.ofNat pages.flatten.length
  let s := { s with chains := chain }
  match chained chain 0 pages with
  | [] => s.onQuery needle (.page { Page.last [] with total := some total })
  | first :: rest =>
    let s := (rest.mapIdx fun i page => (cursor chain (i + 1), page)).foldl
      (fun s (cursor, page) => s.onFollowUpPage cursor page) s
    s.onQuery needle (.page { first with total := some total })

/-- The answer to a query, by the first route whose needle occurs in it. Without one it is an empty
last page. -/
def answer (s : Script) (text : String) : Except Fault Page :=
  match s.routes.find? fun route => Text.contains text route.1 with
  | none => .ok (.last [])
  | some (_, .page page) => .ok page
  | some (_, .failure reason) => .error (.transport reason)

def respondTo (s : Script) (url : String) : Except Fault Response :=
  match s.followUps.find? url with
  | some response => .ok response
  | none => .error (.transport ("no route for " ++ url))

/-- The script as a transport. Its answers depend on the request alone. -/
def transport (s : Script) : Transport Unit where
  instanceUrl := s.instanceUrl
  query _ text := fun u => (s.answer text, u)
  request _ url := fun u => (s.respondTo url, u)

/-- A row with the envelope that the store adds: its object and its address. -/
def enveloped (object : String) (fields : Row) : Row :=
  let id := match Fields.find? fields "Id" with
    | some (.text id) => id
    | _ => ""
  let envelope : Row := [("type", .text object),
    ("url", .text ("/services/data/v60.0/sobjects/" ++ object ++ "/" ++ id))]
  fields.foldl (fun row (name, value) => Fields.insert row name value)
    [(envelopeName, .object envelope)]

end Script

end RecordQuery
