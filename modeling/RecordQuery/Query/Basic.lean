import RecordQuery.Log.Event
import RecordQuery.Query.Dialect
import RecordQuery.Settings

namespace RecordQuery

/-- The largest count a word holds. -/
def maxCount : Nat := UInt64.size - 1

/-- A query with the dialect it is written in and the first mistake made so far. -/
structure Query where
  dialect : Dialect
  statement : Select
  fault : Option Fault

namespace Query

/-- The query that says nothing yet. -/
def new (dialect : Dialect) : Query := ⟨dialect, .about "", none⟩

/-- A query that says nothing, on the same store. -/
def renewed (q : Query) : Query := new q.dialect.plain

def object (q : Query) : String := q.statement.object

/-- Keeps a mistake unless there is one already. -/
def fail (q : Query) (fault : Fault) : Query := { q with fault := q.fault.or (some fault) }

/-- Keeps the mistake of another query. -/
def absorb (q sub : Query) : Query := { q with fault := q.fault.or sub.fault }

/-- The text of the query, unless a mistake was made. -/
def text (q : Query) : Traced (Except Fault String) :=
  match q.fault with
  | some fault => pure (.error fault)
  | none =>
    match q.statement.text q.dialect with
    | .error fault => pure (.error fault)
    | .ok text => do
      Traced.emit (.compiled text)
      return .ok text

def withSchema (q : Query) (schema : Schema) : Query :=
  { q with dialect := { q.dialect with schema := some schema } }

def select (q : Query) (names : List String) : Query :=
  { q with statement := { q.statement with fields := names.map .field } }

private def alsoSelect (q : Query) (s : Selected) : Query :=
  { q with statement := { q.statement with fields := q.statement.fields ++ [s] } }

def addSelect (q : Query) (name : String) : Query := q.alsoSelect (.field name)

/-- Whether a field is selected, in any case. A query that selects nothing selects everything. -/
def covers (q : Query) (name : String) : Bool :=
  q.statement.fields.isEmpty || q.statement.fields.any fun
    | .field other => Text.sameLetters other name
    | .select _ => false

/-- Selects a field unless it is selected already. -/
def ensureSelected (q : Query) (name : String) : Query :=
  if q.covers name then q else q.addSelect name

/-- Selects the rows of a sub-select. -/
def addSelectQuery (q sub : Query) : Query := (q.absorb sub).alsoSelect (.select sub.statement)

def about (q : Query) (object : String) : Query :=
  { q with statement := { q.statement with object } }

def require (q : Query) (c : Clause) : Query :=
  { q with statement := { q.statement with clauses := q.statement.clauses ++ [c] } }

/-- The clause that compares a field with a value. Null is compared by being null or not, truth
values and moments have clauses of their own, and so has a list with a set operator. -/
def comparison (field : String) (op : Operator) (v : Value) : Clause :=
  match v with
  | .null => if op = .eq then .null field else .notNull field
  | .bool b => .boolean field op b
  | .list values =>
    if op = .isIn then .isIn field values
    else if op = .notIn then .notIn field values
    else .compare field op (.list values)
  | v =>
    match Moment.ofValue? v with
    | some m => .moment field op m
    | none => .compare field op v

def compare (q : Query) (field : String) (op : Operator) (v : Value) : Query :=
  q.require (comparison field op v)

/-- Compares a field with a value by an operator given as text. -/
def compareBy (q : Query) (field op : String) (v : Value) : Query :=
  match Operator.ofText op with
  | .ok op => q.compare field op v
  | .error fault => q.fail fault

/-- A query whose clauses become a group. -/
def subgroup (q : Query) : Query := q.renewed.about q.object

/-- Adds the clauses of another query as one group. -/
def group (q sub : Query) : Query := (q.absorb sub).require (.group sub.statement.clauses)

/-- Compares a field with a sub-select that is written together with this query. -/
def compareQuery (q : Query) (field : String) (op : Operator) (sub : Query) : Query :=
  (q.absorb sub).require (.inSelect field op sub.statement)

/-- A sub-select that is written at once. -/
inductive Subselect where
  | raw (text : String)
  | built (query : Query)

/-- The text of a raw sub-select, which must begin with the word `SELECT`. -/
def rawText (text : String) : Except Fault String :=
  let start := String.ofList ((Text.skipBlanks text.toList).take 7)
  if Text.sameLetters start "SELECT " then .ok (Text.trimmed text)
  else .error (.invalidSubselect ("expected a SELECT statement, got " ++ Text.quoted text))

def Subselect.text : Subselect → Traced (Except Fault String)
  | .raw text => pure (rawText text)
  | .built query => query.text

/-- Keeps the rows whose field is among those of the sub-select, or is not. -/
def inSubselect (q : Query) (field : String) (negated : Bool) (sub : Subselect) :
    Traced Query := do
  match ← sub.text with
  | .ok text => return q.require (if negated then .notInText field text else .inText field text)
  | .error fault => return q.fail fault

def orderBy (q : Query) (o : Order) : Query :=
  { q with statement := { q.statement with orders := q.statement.orders ++ [o] } }

def unordered (q : Query) : Query := { q with statement := { q.statement with orders := [] } }

def limit (q : Query) (n : Nat) : Query :=
  { q with statement := { q.statement with limit := some n } }

def offset (q : Query) (n : Nat) : Query :=
  { q with statement := { q.statement with offset := some n } }

/-- Asks for a page of rows; the first is page 1. -/
def forPage (q : Query) (page perPage : Nat) : Query :=
  (q.offset (min ((page - 1) * perPage) maxCount)).limit perPage

/-- Whether a clause outside every group is about archived records. -/
def asksForArchive (q : Query) (settings : Settings) : Bool :=
  (q.statement.clauses.filterMap Clause.field?).any settings.isArchiveMarker

end Query

end RecordQuery
