import RecordQuery.Object.Type
import RecordQuery.Query.Basic
import RecordQuery.Schema.Source
import RecordQuery.Session
import RecordQuery.Wire.Transport

namespace RecordQuery

/-- The collaborators that reach a store, the settings they run under and the types of its
objects. -/
structure Store (τ σ : Type) where
  transport : Transport τ
  schemas : SchemaSource σ
  settings : Settings
  catalog : Catalog

namespace Settings

/-- The dialect of queries without a schema. -/
def dialect (s : Settings) : Dialect := ⟨none, s.defaultFields⟩

def table (s : Settings) (object : String) : Query := (Query.new s.dialect).about object

end Settings

namespace Store

variable {τ σ : Type}

/-- The store as messages show it; the collaborators are left out. -/
def shown (s : Store τ σ) : String :=
  "Connection \x7b instance_url: " ++ Text.quoted s.transport.instanceUrl ++
    ", settings: " ++ s.settings.shown ++ ", .. \x7d"

def query (s : Store τ σ) : Query := Query.new s.settings.dialect

def table (s : Store τ σ) (object : String) : Query := s.settings.table object

def schema (s : Store τ σ) (object : String) : Task τ σ Schema :=
  ExceptT.mk (Session.withSchemas fun state => s.schemas.describe object state)

def send (s : Store τ σ) (endpoint : Endpoint) (text : String) : Task τ σ Page :=
  ExceptT.mk (Session.withTransport fun state => s.transport.query endpoint text state)

/-- Sends a request and reads the page in its response. -/
def fetch (s : Store τ σ) (url : String) : Task τ σ Page := do
  let response ← ExceptT.mk (Session.withTransport fun state => s.transport.request "GET" url state)
  ExceptT.mk (pure response.page)

end Store

end RecordQuery
