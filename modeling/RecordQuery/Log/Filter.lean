import RecordQuery.Log.Directive
import RecordQuery.Settings

namespace RecordQuery

/-- Directives, the most specific first; those that hang on spans come after the others. -/
structure LogFilter where
  statics : List Directive
  dynamics : List Directive

namespace LogFilter

/-- The filter of some directives. Those that hang only on the names of fields count twice. -/
def ofDirectives (ds : List Directive) : LogFilter :=
  let dynamics := ds.filter Directive.isDynamic
  let statics := ds.filter (fun d => !d.isDynamic) ++ dynamics.filter Directive.isStatic
  ⟨statics.foldl Directive.insert [], dynamics.foldl Directive.insert []⟩

def ofText? (text : String) : Option LogFilter := do
  let parts := (Text.pieces ',' text.toList).filter fun p => !p.isEmpty
  let ds ← parts.mapM fun p => Directive.ofText? (String.ofList p)
  return ofDirectives ds

/-- The name under which compiled queries are reported. -/
def queryTarget : String := "forceorm::query"

/-- The filter that settings ask for; a log level that spells none asks for `info`. -/
def ofSettings (s : Settings) : LogFilter :=
  let filter := (ofText? s.logLevel).getD (ofDirectives [{ level := some .info }])
  if s.debug then
    { filter with
      statics := Directive.insert filter.statics
        { target := some queryTarget, level := some .debug } }
  else filter

def text (f : LogFilter) : String :=
  ",".intercalate ((f.statics ++ f.dynamics).map Directive.text)

end LogFilter

end RecordQuery
