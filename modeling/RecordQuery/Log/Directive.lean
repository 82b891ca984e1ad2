import RecordQuery.Log.Event
import RecordQuery.Log.Field
import RecordQuery.Text.Basic

namespace RecordQuery

def Level.name : Level → String
  | .trace => "trace"
  | .debug => "debug"
  | .info => "info"
  | .warn => "warn"
  | .error => "error"

/-- One rule of a filter: what it is about, if that is not everything, and a level. Without a level
it silences. -/
structure Directive where
  target : Option String := none
  span : Option String := none
  fields : List FieldTest := []
  level : Option Level

namespace Directive

private def number? (cs : List Char) : Option Nat :=
  let digits := match cs with
    | '+' :: ds => ds
    | ds => ds
  if digits.isEmpty || !digits.all Char.isDigit then none else some (Text.decimal digits)

/-- The level that a word spells, by name or by number. Nothing at all is no level. -/
def levelOf? (word : String) : Option (Option Level) :=
  let levels : List (Option Level) :=
    [none, some .error, some .warn, some .info, some .debug, some .trace]
  match number? word.toList with
  | some n => levels[n]?
  | none =>
    [("off", none), ("error", some .error), ("warn", some .warn), ("info", some .info),
      ("debug", some .debug), ("trace", some .trace)].lookup (Text.lower word)

/-- What a directive is being read for, with the place where the part in progress begins. -/
inductive Place where
  | start
  | word (start : Nat)
  | span (start : Nat)
  | field (start : Nat)
  | fieldsDone
  | spanDone
  | level (start : Nat)

/-- The bytes of a text between two places, if they are whole characters. -/
private def slice? (text : String) (start stop : Nat) : Option String :=
  String.fromUTF8? (text.toUTF8.extract start stop)

private def sliceFrom? (text : String) (start : Nat) : Option String :=
  slice? text start text.utf8ByteSize

/-- One character at place `i`. Places count the characters of the text without the blanks at its
ends, and parts are cut out at these bytes of the text as it stands. -/
def step (text : String) : Place × Directive → Char × Nat → Option (Place × Directive)
  | (.start, d), (c, i) =>
    if c == '[' then some (.span (i + 1), d)
    else if c == '-' || c == ':' || c == '_' || Text.isAlphanumeric c then some (.word i, d)
    else none
  | (.word start, d), (c, i) =>
    if c == '=' then do
      let target ← slice? text start i
      return (.level (i + 1), { d with target := some target })
    else if c == '[' then do
      let target ← slice? text start i
      return (.span (i + 1), { d with target := some target })
    else some (.word start, d)
  | (.span start, d), (c, i) =>
    if c == ']' then do
      let span ← slice? text start i
      return (.spanDone, { d with span := some span })
    else if c == '\x7b' then do
      let span ← slice? text start i
      return (.field (i + 1), { d with span := if span.isEmpty then none else some span })
    else some (.span start, d)
  | (.field start, d), (c, i) =>
    if c == '\x7d' then do
      let field ← slice? text start i
      if field.isEmpty then none
      let test ← FieldTest.ofText? field
      return (.fieldsDone, { d with fields := d.fields ++ [test] })
    else some (.field start, d)
  | (.fieldsDone, d), (c, _) => if c == ']' then some (.spanDone, d) else none
  | (.spanDone, d), (c, i) => if c == '=' then some (.level (i + 1), d) else none
  | (.level start, d), _ => some (.level start, d)

/-- The directive that a text spells. A target without a level enables every level. -/
def ofText? (text : String) : Option Directive := do
  let all : Directive := { level := some .trace }
  match ← ((Text.trimmed text).toList.zipIdx).foldlM (step text) (.start, all) with
  | (.word start, d) =>
    let word ← sliceFrom? text start
    match levelOf? word with
    | some level => return { d with level }
    | none => return { d with target := some word }
  | (.level start, d) =>
    let word ← sliceFrom? text start
    if word.isEmpty then return d
    let level ← levelOf? word
    return { d with level }
  | (.spanDone, d) => return d
  | _ => none

/-- Whether the directive is about spans. -/
def isDynamic (d : Directive) : Bool := d.span.isSome || !d.fields.isEmpty

/-- Whether the directive can be decided without looking at a running span. -/
def isStatic (d : Directive) : Bool :=
  d.span.isNone && d.fields.all fun f => f.expected.isNone

/-- The order of falling weight: longer targets, spans and more fields come first; directives that
weigh the same are in falling order of their parts. -/
def order (a b : Directive) : Ordering :=
  let weight (d : Directive) : Nat :=
    match d.target with
    | none => 0
    | some t => t.utf8ByteSize + 1
  let key (s : Option String) : List String := s.toList
  (compare (weight b) (weight a)).then <|
    (compare b.span.isSome a.span.isSome).then <|
      (compare b.fields.length a.fields.length).then <|
        (compare (key b.target) (key a.target)).then <|
          (compare (key b.span) (key a.span)).then <| compare b.fields a.fields

/-- Puts a directive in its place, instead of one of the same target, span and fields. -/
def insert (ds : List Directive) (d : Directive) : List Directive :=
  ds.filter (fun e => order e d == .lt) ++ d :: ds.filter (fun e => order e d == .gt)

def text (d : Directive) : String :=
  let fields := if d.fields.isEmpty then ""
    else "\x7b" ++ ",".intercalate (d.fields.map FieldTest.text) ++ "\x7d"
  let span := if d.isDynamic then "[" ++ d.span.getD "" ++ fields ++ "]" else ""
  let scope := d.target.getD "" ++ span
  let level := match d.level with
    | none => "off"
    | some level => level.name
  if d.target.isSome || d.isDynamic then scope ++ "=" ++ level else level

end Directive

end RecordQuery
