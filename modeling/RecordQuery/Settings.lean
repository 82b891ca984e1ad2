import RecordQuery.Json.Printer
import RecordQuery.Json.Reader

namespace RecordQuery

/-- Settings are fixed when a store is opened. -/
structure Settings where
  /-- How many pages one query may have. -/
  maxPages : UInt64
  /-- Fields whose mention in a condition sends the query to all records. -/
  archiveMarkers : List String
  /-- What a query selects that selects nothing. -/
  defaultFields : List String
  logLevel : String
  debug : Bool

namespace Settings

/-- The settings when nothing is said. -/
def default : Settings := ⟨2000, ["IsDeleted", "IsArchived"], ["Id"], "info", false⟩

def isArchiveMarker (s : Settings) (field : String) : Bool := s.archiveMarkers.contains field

/-- The members of settings on the wire, in the order in which they are written. -/
def memberNames : List String :=
  ["max_pages", "archive_marker_fields", "default_fields", "log_level", "debug"]

/-- The settings that a document spells; absent members are as in `default`. -/
def ofDocument? (d : Json.Document) : Option Settings := do
  match ← d.known? memberNames with
  | [maxPages, archiveMarkers, defaultFields, logLevel, debug] =>
    let orDefault {α : Type} (read : Json.Document → Option α) (other : α) :
        Option Json.Document → Option α
      | none => some other
      | some d => read d
    let texts := Json.Document.list? Json.Document.text?
    return {
      maxPages := ← orDefault (fun d => d.count?.map UInt64.ofNat) default.maxPages maxPages
      archiveMarkers := ← orDefault texts default.archiveMarkers archiveMarkers
      defaultFields := ← orDefault texts default.defaultFields defaultFields
      logLevel := ← orDefault Json.Document.text? default.logLevel logLevel
      debug := ← orDefault Json.Document.bool? default.debug debug }
  | _ => none

def ofText? (s : String) : Option Settings := (Json.Document.ofText? s).bind ofDocument?

/-- The value of each member on the wire. -/
def members (s : Settings) : List (String × Json) :=
  memberNames.zip [Json.ofUInt64 s.maxPages, .array (s.archiveMarkers.map .text),
    .array (s.defaultFields.map .text), .text s.logLevel, .bool s.debug]

def toText (s : Settings) : String := (Json.object s.members).toText

private def shownTexts (texts : List String) : String :=
  "[" ++ ", ".intercalate (texts.map Text.quoted) ++ "]"

def shown (s : Settings) : String :=
  "Settings \x7b max_pages: " ++ toString s.maxPages.toNat ++
  ", archive_marker_fields: " ++ shownTexts s.archiveMarkers ++
  ", default_fields: " ++ shownTexts s.defaultFields ++
  ", log_level: " ++ Text.quoted s.logLevel ++
  ", debug: " ++ (if s.debug then "true" else "false") ++ " \x7d"

end Settings

end RecordQuery
