import RecordQuery.Text.Basic
import RecordQuery.Web.Host
import RecordQuery.Web.Path

namespace RecordQuery.Web

/-- An address in its normal form: dot segments are removed from its path, and what an address
cannot hold is percent-encoded. The authority is what stands after `//`, if that is there. -/
structure Url where
  scheme : List Char
  authority : Option (List Char)
  path : Path
  query : Option (List Char)
  fragment : Option (List Char)
  deriving DecidableEq

namespace Url

def text (u : Url) : String :=
  let mark (c : Char) : Option (List Char) → List Char
    | none => []
    | some cs => c :: cs
  let authority := match u.authority with
    | none => []
    | some cs => '/' :: '/' :: cs
  String.ofList (u.scheme ++ ':' :: authority ++ u.path.text u.authority.isSome ++
    mark '?' u.query ++ mark '#' u.fragment)

/-- The port that a web scheme has when none is written; only web schemes have one. -/
def defaultPort? (scheme : List Char) : Option Nat :=
  [("http", 80), ("https", 443), ("ws", 80), ("wss", 443), ("ftp", 21)].lookup (String.ofList scheme)

def fileScheme : List Char := ['f', 'i', 'l', 'e']

def kindOf (scheme : List Char) : Kind :=
  if (defaultPort? scheme).isSome then .web
  else if scheme == fileScheme then .file
  else .other

def kind (u : Url) : Kind := kindOf u.scheme

/-- The characters that count: blanks and controls at the ends and tabs and line ends do not. -/
def significant (s : String) : List Char :=
  let isEdge (c : Char) := c.toNat ≤ 0x20
  let cs := ((s.toList.dropWhile isEdge).reverse.dropWhile isEdge).reverse
  cs.filter fun c => c != '\t' && c != '\n' && c != '\r'

/-- The scheme in small letters and what follows its colon. -/
def splitScheme (cs : List Char) : Option (List Char × List Char) :=
  let isSchemeChar (c : Char) := c.isAlphanum || c == '+' || c == '-' || c == '.'
  match cs.head?, cs.dropWhile isSchemeChar with
  | some c, ':' :: rest =>
    if c.isAlpha then some ((cs.takeWhile isSchemeChar).map Char.toLower, rest) else none
  | _, _ => none

def isTail (c : Char) : Bool := c == '?' || c == '#'

def endsAuthority (kind : Kind) (c : Char) : Bool := kind.isSlash c || isTail c

/-- A query and a fragment, from the `?` or `#` on. -/
def tailOf (kind : Kind) (cs : List Char) : Option (List Char) × Option (List Char) :=
  let fragmentOf : List Char → Option (List Char)
    | '#' :: rest => some (percentEncoded hiddenInFragment rest)
    | _ => none
  match cs with
  | '?' :: rest =>
    (some (percentEncoded (hiddenInQuery (kind != .other)) (rest.takeWhile (· != '#'))),
      fragmentOf (rest.dropWhile (· != '#')))
  | cs => (none, fragmentOf cs)

/-- The segments of the path that the characters begin with. -/
def pathSegments (kind : Kind) (cs : List Char) : List (List Char) :=
  Path.split kind (cs.takeWhile fun c => !isTail c)

/-- The address with the given path segments, and with the query and the fragment that come after
the path in `cs`. -/
def withSegments (scheme : List Char) (authority : Option (List Char)) (parts : List (List Char))
    (cs : List Char) : Url :=
  let kind := kindOf scheme
  let (query, fragment) := tailOf kind (cs.dropWhile fun c => !isTail c)
  ⟨scheme, authority, .segments (if kind == .file then Path.rooted parts else parts), query, fragment⟩

/-- The address whose path follows `cs` from the given place, with the query and the fragment that
come after it. -/
def withPath (scheme : List Char) (authority : Option (List Char)) (place : List (List Char))
    (cs : List Char) : Url :=
  let kind := kindOf scheme
  withSegments scheme authority (Path.follow kind place (pathSegments kind cs)) cs

/-- A user name and a password before the last `@` of an authority. -/
def userText (cs : List Char) : List Char :=
  let encoded := percentEncoded hiddenInUser
  let name := encoded (cs.takeWhile (· != ':'))
  let password := encoded ((cs.dropWhile (· != ':')).drop 1)
  if name.isEmpty && password.isEmpty then []
  else name ++ (if password.isEmpty then [] else ':' :: password) ++ ['@']

/-- The characters before and after the last `@`. -/
def splitUser (cs : List Char) : Option (List Char × List Char) :=
  if cs.contains '@' then
    let back := cs.reverse
    some ((back.dropWhile (· != '@')).reverse.dropLast, (back.takeWhile (· != '@')).reverse)
  else none

/-- The characters before and after the colon that begins a port, which is outside brackets. -/
def splitPort : Bool → List Char → List Char × Option (List Char)
  | _, [] => ([], none)
  | inside, c :: cs =>
    if c == ':' && !inside then ([], some cs)
    else
      let (host, port) := splitPort (c == '[' || (inside && c != ']')) cs
      (c :: host, port)

/-- A port in decimal digits, and what follows it, which can only be a backslash; an empty port and
the default port are not written. -/
def portText? (scheme cs : List Char) : Option (List Char × List Char) := do
  let (digits, rest) := Text.digitRun cs
  let port := Text.decimal digits
  if 65535 < port || !(rest.head?.all (· == '\\')) then none
  if digits.isEmpty || defaultPort? scheme == some port then some ([], rest)
  else some (':' :: (toString port).toList, rest)

/-- The normal form of the authority that the characters begin with, and what follows it. Only
other schemes may have an empty host, and then neither a user nor a port. -/
def authority? (scheme cs : List Char) : Option (List Char × List Char) := do
  let kind := kindOf scheme
  let whole := cs.takeWhile fun c => !endsAuthority kind c
  let after := cs.dropWhile fun c => !endsAuthority kind c
  let (user, place) ← match splitUser whole with
    | none => some ([], whole)
    | some ([], []) => if after.isEmpty then some ([], []) else none
    | some (user, place) => some (userText user, place)
  let (hostText, port) := splitPort false place
  let host ← if kind == .other then plainHost? hostText
    else if hostText.isEmpty then none else domainHost? hostText
  if host.isEmpty && (port.isSome || !user.isEmpty) then none
  let (portText, rest) ← match port with
    | none => some ([], [])
    | some digits => portText? scheme digits
  return (user ++ host ++ portText, rest ++ after)

/-- An address after its `//`. -/
def afterSlashes (scheme cs : List Char) : Option Url := do
  let kind := kindOf scheme
  let (authority, rest) ← authority? scheme cs
  match rest with
  | [] => return ⟨scheme, some authority, .segments (if kind == .web then [[]] else []), none, none⟩
  | c :: after =>
    if kind.isSlash c then return withPath scheme (some authority) [] after
    else if kind == .other && isTail c then return withSegments scheme (some authority) [] rest
    else return withPath scheme (some authority) [] rest

/-- An address of a scheme of which nothing is known, after its colon. -/
def afterColon (scheme cs : List Char) : Option Url :=
  match cs with
  | '/' :: '/' :: rest => afterSlashes scheme rest
  | '/' :: rest => some (withPath scheme none [] rest)
  | cs =>
    let (query, fragment) := tailOf .other (cs.dropWhile fun c => !isTail c)
    some ⟨scheme, none, .bare (percentEncoded isControl (cs.takeWhile fun c => !isTail c)),
      query, fragment⟩

/-- The host of a file address after its `//`, and what follows it. A drive is no host, and this
machine has no name. -/
def fileHost? (cs : List Char) : Option (List Char × List Char) :=
  let text := cs.takeWhile fun c => !endsAuthority .file c
  if Path.isDrive text then some ([], cs)
  else
    let rest := cs.dropWhile fun c => !endsAuthority .file c
    if text.isEmpty then some ([], rest)
    else (domainHost? text).map fun host =>
      (if host == "localhost".toList then [] else host, rest)

/-- A file address after its `//`. A path that begins with a drive is on this machine. -/
def fileAfterSlashes (cs : List Char) : Option Url := do
  let (host, rest) ← fileHost? cs
  let path := if host.isEmpty || !(rest.head?.any Kind.file.isSlash) then rest else rest.drop 1
  let parts := Path.follow .file [] (pathSegments .file path)
  let host := if parts.head?.any Path.isPlainDrive then [] else host
  return withSegments fileScheme (some host) parts path

/-- The host and the place from which a path after a single slash is followed: the drive of the
base, or else its host. -/
def fileRoot (base : Option Url) (cs : List Char) : List Char × List (List Char) :=
  if Path.beginsWithDrive cs then ([], [])
  else
    match base with
    | none => ([], [])
    | some base =>
      match base.path with
      | .segments (drive :: _) =>
        if Path.isPlainDrive drive then ([], [drive]) else (base.authority.getD [], [])
      | _ => (base.authority.getD [], [])

/-- The file address that a reference names when it is met at a file address, or anywhere else. -/
def file? (base : Option Url) (cs : List Char) : Option Url :=
  match cs, base with
  | c :: rest, _ =>
    if Kind.file.isSlash c then
      if rest.head?.any Kind.file.isSlash then fileAfterSlashes (rest.drop 1)
      else
        let (host, place) := fileRoot base rest
        some (withPath fileScheme (some host) place rest)
    else
      match base with
      | none => some (withPath fileScheme (some []) [] cs)
      | some base =>
        if c == '#' then some { base with fragment := (tailOf .file cs).2 }
        else if c == '?' then
          let (query, fragment) := tailOf .file cs
          some { base with query, fragment }
        else if Path.beginsWithDrive cs then some (withPath fileScheme (some []) [] cs)
        else
          match base.path with
          | .bare _ => none
          | .segments parts =>
            some (withSegments fileScheme base.authority
              (Path.followBeside parts (pathSegments .file cs)) cs)
  | [], none => some (withPath fileScheme (some []) [] [])
  | [], some base => some { base with fragment := none }

/-- The address an absolute text spells. -/
def ofText? (s : String) : Option Url := do
  let (scheme, rest) ← splitScheme (significant s)
  match kindOf scheme with
  | .web => afterSlashes scheme (rest.dropWhile Kind.web.isSlash)
  | .file => file? none rest
  | .other => afterColon scheme rest

/-- A reference without a scheme, followed from the base. A path without structure can only be
given another fragment. -/
def relative? (base : Url) (cs : List Char) : Option Url :=
  let isSlash := Kind.web.isSlash
  match cs, base.path with
  | '#' :: _, _ => some { base with fragment := (tailOf base.kind cs).2 }
  | _, .bare _ => none
  | [], _ => some { base with fragment := none }
  | '?' :: _, _ =>
    let (query, fragment) := tailOf base.kind cs
    some { base with query, fragment }
  | c :: rest, .segments parts =>
    if isSlash c then
      match cs, rest with
      | '/' :: '/' :: after, _ => afterSlashes base.scheme after
      | _, d :: _ =>
        if isSlash d then afterSlashes base.scheme (rest.dropWhile isSlash)
        else some (withPath base.scheme base.authority [] rest)
      | _, [] => some (withPath base.scheme base.authority [] rest)
    else some (withPath base.scheme base.authority parts.dropLast cs)

/-- The address that a reference names when it is met at the base address. -/
def join? (base : Url) (reference : String) : Option Url :=
  let cs := significant reference
  match splitScheme cs with
  | none => if base.kind == .file then file? (some base) cs else base.relative? cs
  | some (scheme, rest) =>
    match kindOf scheme with
    | .web =>
      if scheme == base.scheme && (rest.takeWhile Kind.web.isSlash).length < 2 then
        base.relative? rest
      else afterSlashes scheme (rest.dropWhile Kind.web.isSlash)
    | .file => file? (if base.kind == .file then some base else none) rest
    | .other => afterColon scheme rest

end Url

end RecordQuery.Web
