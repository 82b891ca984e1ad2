import RecordQuery.Text.Basic
import RecordQuery.Web.Percent

namespace RecordQuery.Web

/-- The kinds of schemes. A web scheme has a host in every address, a file scheme has one or none,
and both know drives, domains and backslashes; of any other scheme nothing is known. -/
inductive Kind where
  | web
  | file
  | other
  deriving DecidableEq

/-- Whether a character is a slash; a backslash is one where the scheme is known. -/
def Kind.isSlash (kind : Kind) (c : Char) : Bool := c == '/' || (kind != .other && c == '\\')

/-- What follows the host: segments, each after a slash, or a text without structure. -/
inductive Path where
  | segments (parts : List (List Char))
  | bare (text : List Char)
  deriving DecidableEq

namespace Path

/-- The text of a path. A path without an authority must not begin with two slashes. -/
def text (authority : Bool) : Path → List Char
  | .bare cs => cs
  | .segments parts =>
    let slashed := parts.flatMap ('/' :: ·)
    if !authority && 1 < parts.length && parts.head? == some [] then '/' :: '.' :: slashed
    else slashed

/-- The segments between slashes. -/
def split (kind : Kind) (cs : List Char) : List (List Char) :=
  Text.pieces '/' (cs.map fun c => if kind.isSlash c then '/' else c)

/-- A segment that stands for this place. -/
def isDot (segment : List Char) : Bool :=
  [".", "%2e"].contains (Text.lower (String.ofList segment))

/-- A segment that stands for the place above. -/
def isDoubleDot (segment : List Char) : Bool :=
  ["..", "%2e.", ".%2e", "%2e%2e"].contains (Text.lower (String.ofList segment))

/-- Whether the characters begin with a letter and a colon or a bar that nothing, or the end of a
segment, comes after. -/
def beginsWithDrive : List Char → Bool
  | [c, d] => c.isAlpha && (d == ':' || d == '|')
  | c :: d :: e :: _ => c.isAlpha && (d == ':' || d == '|') && ['/', '\\', '?', '#'].contains e
  | _ => false

def isDrive (segment : List Char) : Bool := segment.length == 2 && beginsWithDrive segment

/-- Whether the segment is a drive as it is written in an address. -/
def isPlainDrive (segment : List Char) : Bool := isDrive segment && segment.getLast? == some ':'

/-- The segments without their last one. A drive is a root: nothing is above it. -/
def above (parts : List (List Char)) : List (List Char) :=
  if (parts.getLast?).any beginsWithDrive then parts else parts.dropLast

/-- A segment as it is written. In the first place of a file path a drive has a colon. -/
def written (kind : Kind) (parts : List (List Char)) (segment : List Char) : List Char :=
  if kind == .file && parts.isEmpty && isDrive segment then segment.take 1 ++ [':']
  else percentEncoded hiddenInPath segment

/-- Follows segments from a place; dots in the last segment leave an empty one. -/
def follow (kind : Kind) : List (List Char) → List (List Char) → List (List Char)
  | parts, [] => parts
  | parts, [segment] =>
    if isDoubleDot segment then above parts ++ [[]]
    else if isDot segment then parts ++ [[]]
    else parts ++ [written kind parts segment]
  | parts, segment :: more =>
    if isDoubleDot segment then follow kind (above parts) more
    else if isDot segment then follow kind parts more
    else follow kind (parts ++ [written kind parts segment]) more

/-- Follows segments from a drive that is not the first segment. It is not left, and a segment that
is no dot is written right behind it. -/
def followBehind (parts : List (List Char)) : List (List Char) → List (List Char)
  | segment :: more =>
    if isDoubleDot segment && more.isEmpty then parts
    else if isDoubleDot segment || isDot segment then follow .file parts (segment :: more)
    else
      let joined := parts.getLastD [] ++ percentEncoded hiddenInPath segment
      follow .file (parts.dropLast ++ [joined]) more
  | [] => parts

/-- Follows segments from beside the last segment of a file path, or from behind it when it is a
drive. -/
def followBeside (parts way : List (List Char)) : List (List Char) :=
  if !(parts.getLast?).any isPlainDrive then follow .file parts.dropLast way
  else if parts.length = 1 then follow .file parts way
  else followBehind parts way

/-- A file path never begins with two slashes. -/
def rooted (parts : List (List Char)) : List (List Char) :=
  match parts.dropWhile List.isEmpty with
  | [] => [[]]
  | ps => ps

end Path

end RecordQuery.Web
