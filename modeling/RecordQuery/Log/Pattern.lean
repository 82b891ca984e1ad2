import RecordQuery.Text.Basic
import RecordQuery.Text.Letter

namespace RecordQuery.Pattern

/-- How the pattern is read from here on: whether characters of all scripts are meant, whether
letters of either case are, and whether blanks and comments do not count. -/
structure Mode where
  wide : Bool := true
  caseless : Bool := false
  spaced : Bool := false
  deriving DecidableEq

namespace Mode

/-- Only letters of all scripts in either case need tables that are not there. -/
def lacksTables (m : Mode) : Bool := m.wide && m.caseless

private def skipLoose : Bool → List Char → List Char
  | _, [] => []
  | true, c :: cs => skipLoose (c != '\n') cs
  | false, c :: cs =>
    if Text.isBlank c then skipLoose false cs
    else if c == '#' then skipLoose true cs
    else c :: cs

/-- The characters from the first one that counts. -/
def skip (m : Mode) (cs : List Char) : List Char := if m.spaced then skipLoose false cs else cs

private def glance : Bool → List Char → Option Char
  | _, [] => none
  | inComment, c :: cs =>
    if Text.isBlank c then glance inComment cs
    else if !inComment && c == '#' then glance true cs
    else some c

/-- The next visible character, which may stand in a comment. -/
def peek (m : Mode) (cs : List Char) : Option Char :=
  if m.spaced then (glance false cs).or cs.head? else cs.head?

def set (m : Mode) (on off : List Char) : Mode :=
  let value (flag : Char) (old : Bool) := on.contains flag || (old && !off.contains flag)
  ⟨value 'u' m.wide, value 'i' m.caseless, value 'x' m.spaced⟩

end Mode

/-- No pattern is nested more deeply. -/
def maxDepth : Nat := 250

/-- Items in a row: how many, and how deep the deepest of them is. -/
structure Row where
  count : Nat := 0
  deepest : Nat := 0

namespace Row

def add (r : Row) (depth : Nat) : Row := ⟨r.count + 1, max r.deepest depth⟩

/-- The last item has grown to the given depth. -/
def grow (r : Row) (depth : Nat) : Row := { r with deepest := max r.deepest depth }

/-- Two or more items are one level more. -/
def depth (r : Row) : Nat := if r.count < 2 then r.deepest else r.deepest + 1

end Row

/-- The smallest parts of a pattern. A literal may have been written as a byte. -/
inductive Atom where
  | literal (c : Char) (byte : Bool)
  | set
  | assertion

private def hexNumber? (m : Mode) : Nat → Nat → List Char → Option (Nat × List Char)
  | 0, n, cs => some (n, cs)
  | _ + 1, _, [] => none
  | width + 1, n, c :: cs =>
    match Text.hexValue? c with
    | some d => hexNumber? m width (16 * n + d) (m.skip cs)
    | none => none

private def codeEscape? (m : Mode) (kind : Char) (cs : List Char) : Option (Atom × List Char) := do
  let width := if kind == 'x' then 2 else if kind == 'u' then 4 else 8
  let (n, rest) ← hexNumber? m width 0 (m.skip cs)
  if h : n.isValidChar then some (.literal (Char.ofNatAux n h) (kind == 'x'), rest) else none

/-- The part that is written with a backslash, after the backslash. -/
def escape? (m : Mode) : List Char → Option (Atom × List Char)
  | [] => none
  | c :: cs =>
    let isOne (s : String) : Bool := s.toList.contains c
    if isOne "xuU" then codeEscape? m c cs
    else if isOne "dsw" then if m.wide then none else some (.set, cs)
    else if isOne "bB<>" then
      if m.wide || (c == 'b' && cs.head? == some '\x7b') then none else some (.assertion, cs)
    else if isOne "Az" then some (.assertion, cs)
    else if isOne "aftnrv" || (c.toNat < 0x80 && !c.isAlphanum) then some (.literal c false, cs)
    else none

/-- Whether a character can be matched. Bytes beyond ASCII are no characters. -/
def fits (m : Mode) (c : Char) (byte : Bool) : Bool :=
  !m.lacksTables && (m.wide || !byte || c.toNat < 0x80)

def setNames : List String :=
  ["alnum", "alpha", "ascii", "blank", "cntrl", "digit", "graph", "lower", "print", "punct",
    "space", "upper", "word", "xdigit"]

/-- A named set after its bracket: whether it is negated, and what follows. -/
def namedSet? (cs : List Char) : Option (Bool × List Char) := do
  let rest ← Text.after? [':'] cs
  let (negated, rest) := match rest with
    | '^' :: more => (true, more)
    | more => (false, more)
  let more ← Text.after? [':', ']'] (rest.dropWhile (· != ':'))
  if setNames.contains (String.ofList (rest.takeWhile (· != ':'))) then some (negated, more)
  else none

/-- A set that is being read: its items, and the depth of what stands before its last operator. -/
structure SetReader where
  row : Row := {}
  before : Option Nat := none

namespace SetReader

def depth (r : SetReader) : Nat :=
  match r.before with
  | none => r.row.depth
  | some d => max d r.row.depth + 1

def add (r : SetReader) (depth : Nat) : SetReader := { r with row := r.row.add depth }

end SetReader

/-- Whether a character can be an item of a set. -/
def fitsSet (m : Mode) (c : Char) : Bool := !m.lacksTables && (m.wide || c.toNat < 0x80)

private def setAtom? (m : Mode) : List Char → Option (Atom × List Char)
  | [] => none
  | '\\' :: cs => escape? m cs
  | c :: cs => some (.literal c false, cs)

/-- What follows an item of a set: a character, a range of characters or a class. A hyphen before
the closing bracket or before another hyphen makes no range. -/
def setItem? (m : Mode) (cs : List Char) : Option (List Char) := do
  let (first, rest) ← setAtom? m cs
  let single := match first with
    | .literal c _ => fitsSet m c
    | .set => true
    | .assertion => false
  match m.skip rest with
  | '-' :: after =>
    if [some ']', some '-'].contains (m.peek after) then
      if single then some ('-' :: after) else none
    else
      let (last, rest) ← setAtom? m (m.skip after)
      match first, last with
      | .literal c _, .literal d _ =>
        if c ≤ d && fitsSet m c && fitsSet m d then some rest else none
      | _, _ => none
  | rest => if single then some rest else none

private def hyphens (m : Mode) : Nat → List Char → Nat × List Char
  | fuel + 1, '-' :: cs =>
    let (n, rest) := hyphens m fuel (m.skip cs)
    (n + 1, rest)
  | _, cs => (0, cs)

/-- A set after its opening bracket. Hyphens at its start, or one closing bracket, are items. -/
def openSet? (m : Mode) (cs : List Char) : Option (SetReader × List Char) :=
  let (negated, cs) := match m.skip cs with
    | '^' :: rest => (true, m.skip rest)
    | rest => (false, rest)
  let (n, cs) := hyphens m cs.length cs
  let (n, cs) := match n, cs with
    | 0, ']' :: rest => (1, m.skip rest)
    | _, _ => (n, cs)
  if (negated && !m.wide) || (0 < n && m.lacksTables) then none
  else some ({ row := ⟨n, 0⟩ }, cs)

/-- The depth of a set and what follows it; the sets around it are still open. -/
def setRest? (m : Mode) : Nat → SetReader → List SetReader → List Char → Option (Nat × List Char)
  | 0, _, _, _ => none
  | fuel + 1, r, outer, cs =>
    let operator (rest : List Char) := setRest? m fuel ⟨{}, some r.depth⟩ outer rest
    match m.skip cs with
    | [] => none
    | ']' :: rest =>
      match outer with
      | [] => some (r.depth + 1, rest)
      | s :: outer => setRest? m fuel (s.add (r.depth + 1)) outer rest
    | '[' :: rest =>
      match namedSet? rest with
      | some (negated, rest) =>
        if m.lacksTables || (negated && !m.wide) then none
        else setRest? m fuel (r.add 0) outer rest
      | none =>
        match openSet? m rest with
        | none => none
        | some (s, rest) => setRest? m fuel s (r :: outer) rest
    | '&' :: '&' :: rest => operator rest
    | '-' :: '-' :: rest => operator rest
    | '~' :: '~' :: rest => operator rest
    | cs =>
      match setItem? m cs with
      | none => none
      | some rest => setRest? m fuel (r.add 0) outer rest

/-- The depth of a set and what follows it, after its opening bracket. -/
def set? (m : Mode) (cs : List Char) : Option (Nat × List Char) := do
  let (r, rest) ← openSet? m cs
  setRest? m (rest.length + 1) r [] rest

private def isNameStart (c : Char) : Bool := c == '_' || Text.isAlphabetic c

private def isNameChar (c : Char) : Bool :=
  ['_', '.', '[', ']'].contains c || Text.isAlphanumeric c

def groupName? (cs : List Char) : Option (List Char × List Char) :=
  match cs.takeWhile (· != '>'), cs.dropWhile (· != '>') with
  | c :: name, '>' :: rest =>
    if isNameStart c && name.all isNameChar then some (c :: name, rest) else none
  | _, _ => none

/-- How a group begins: with a mode of its own, or with a mode for the rest of the group around. -/
inductive Opening where
  | group (mode : Mode) (name : Option (List Char))
  | flags (mode : Mode)

/-- Flags up to the colon or the bracket that ends them. Each stands once, and a minus clears those
that follow it. -/
def flags? (m : Mode) (cs : List Char) : Option (Opening × List Char) :=
  let ends (c : Char) := c == ':' || c == ')'
  let flags := cs.takeWhile fun c => !ends c
  let mode := m.set (flags.takeWhile (· != '-')) (flags.dropWhile (· != '-'))
  if flags.all ("imsUuRx-".toList.contains ·) && flags.eraseDups.length == flags.length &&
      flags.getLast? != some '-' then
    match cs.dropWhile fun c => !ends c with
    | ':' :: rest => some (.group mode none, rest)
    | ')' :: rest => if flags.isEmpty then none else some (.flags mode, rest)
    | _ => none
  else none

/-- What follows the bracket that opens a group. Groups that look around are refused. -/
def opening? (m : Mode) (cs : List Char) : Option (Opening × List Char) :=
  match m.skip cs with
  | '?' :: 'P' :: '<' :: rest => named rest
  | '?' :: '<' :: rest => named rest
  | '?' :: rest => flags? m rest
  | rest => some (.group m none, rest)
where
  named (rest : List Char) : Option (Opening × List Char) :=
    (groupName? rest).map fun (name, rest) => (.group m (some name), rest)

/-- A group that is being read: its mode, the row in progress, the depth of the rows before it, and
the depth of the item that could be repeated. -/
structure GroupReader where
  mode : Mode := {}
  row : Row := {}
  before : Option Nat := none
  last : Option Nat := none

namespace GroupReader

def depth (g : GroupReader) : Nat :=
  match g.before with
  | none => g.row.depth
  | some d => max d g.row.depth + 1

def add (g : GroupReader) (depth : Nat) : GroupReader :=
  { g with row := g.row.add depth, last := some depth }

/-- Flags are an item that cannot be repeated. -/
def addFlags (g : GroupReader) (mode : Mode) : GroupReader :=
  { g with mode, row := g.row.add 0, last := none }

def alternate (g : GroupReader) : GroupReader :=
  { g with row := {}, before := some (max (g.before.getD 0) g.row.depth), last := none }

def repeated? (g : GroupReader) : Option GroupReader :=
  g.last.map fun d => { g with row := g.row.grow (d + 1), last := some (d + 1) }

end GroupReader

/-- Whether the rest of a pattern is well formed; the groups around are still open, and the names
have been given. -/
def isRest : Nat → GroupReader → List GroupReader → List (List Char) → List Char → Bool
  | 0, _, _, _, _ => false
  | fuel + 1, g, outer, names, cs =>
    match g.mode.skip cs with
    | [] => outer.isEmpty && g.depth ≤ maxDepth
    | '(' :: rest =>
      match opening? g.mode rest with
      | none => false
      | some (.flags mode, rest) => isRest fuel (g.addFlags mode) outer names rest
      | some (.group mode name, rest) =>
        !name.any names.contains && isRest fuel { mode } (g :: outer) (name.toList ++ names) rest
    | ')' :: rest =>
      match outer with
      | [] => false
      | h :: outer => isRest fuel (h.add (g.depth + 1)) outer names rest
    | '|' :: rest => isRest fuel g.alternate outer names rest
    | '[' :: rest =>
      match set? g.mode rest with
      | none => false
      | some (depth, rest) => isRest fuel (g.add depth) outer names rest
    | '\\' :: rest =>
      match escape? g.mode rest with
      | none => false
      | some (.literal c byte, rest) =>
        fits g.mode c byte && isRest fuel (g.add 0) outer names rest
      | some (_, rest) => isRest fuel (g.add 0) outer names rest
    | c :: rest =>
      if c == '?' || c == '*' || c == '+' then
        match g.repeated?, rest with
        | none, _ => false
        | some g, '?' :: rest => isRest fuel g outer names rest
        | some g, rest => isRest fuel g outer names rest
      else if c == '\x7b' then false
      else if c == '.' then g.mode.wide && isRest fuel (g.add 0) outer names rest
      else if c == '^' || c == '$' then isRest fuel (g.add 0) outer names rest
      else fits g.mode c false && isRest fuel (g.add 0) outer names rest

/-- Whether a text is a well formed pattern: a regular expression over ASCII tables only. It stands
inside a directive and ends at the first closing brace, so nothing in it is repeated a counted number
of times. -/
def isWellFormed (text : List Char) : Bool := isRest (text.length + 1) {} [] [] text

end RecordQuery.Pattern
