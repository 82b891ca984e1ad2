import RecordQuery.Finder.Step
import RecordQuery.Text.Visible

namespace RecordQuery

/-- Paths with their steps, in the order in which they were added. -/
structure LoadPlan where
  entries : List (String × List FinderStep)

namespace LoadPlan

def empty : LoadPlan := ⟨[]⟩

def paths (p : LoadPlan) : List String := p.entries.map (·.1)

def contains (p : LoadPlan) (path : String) : Bool := p.paths.contains path

/-- Puts an entry in place of the one for its path, or at the end. -/
def setEntry (e : String × List FinderStep) :
    List (String × List FinderStep) → List (String × List FinderStep)
  | [] => [e]
  | f :: rest => if f.1 = e.1 then e :: rest else f :: setEntry e rest

def set (p : LoadPlan) (path : String) (steps : List FinderStep) : LoadPlan :=
  ⟨setEntry (path, steps) p.entries⟩

/-- The paths that lead through the segments, below a path that leads to their start. -/
def pathsThrough : List Char → List (List Char) → List (List Char)
  | _, [] => []
  | above, segment :: rest =>
    let path := if above.isEmpty then segment else above ++ '.' :: segment
    path :: pathsThrough path rest

/-- The paths that lead to a path. -/
def ancestors (path : String) : List String :=
  (pathsThrough [] (Text.pieces '.' path.toList).dropLast).map String.ofList

/-- Gives a path an entry without steps, if it has none. -/
def ensure (p : LoadPlan) (path : String) : LoadPlan :=
  if p.contains path then p else ⟨p.entries ++ [(path, [])]⟩

/-- Adds a path after its ancestors, so that every level has an entry. -/
def add (p : LoadPlan) (path : String) (steps : List FinderStep) : LoadPlan :=
  ((ancestors path).foldl ensure p).set path steps

/-- The plan of some paths without steps. -/
def ofPaths (paths : List String) : LoadPlan :=
  paths.foldl (fun p path => p.add path []) empty

def ofEntries (entries : List (String × List FinderStep)) : LoadPlan :=
  entries.foldl (fun p e => p.add e.1 e.2) empty

/-- Takes over every entry of another plan. -/
def merge (p other : LoadPlan) : LoadPlan := other.entries.foldl (fun p e => p.set e.1 e.2) p

/-- Whether a path has one segment only. -/
def isTop (path : String) : Bool := !path.toList.contains '.'

def topLevel (p : LoadPlan) : List (String × List FinderStep) :=
  p.entries.filter fun e => isTop e.1

/-- The path below a relation. -/
def below? (relation path : String) : Option String :=
  (Text.after? (relation.toList ++ ['.']) path.toList).map String.ofList

/-- The entries below a relation. -/
def under (p : LoadPlan) (relation : String) : LoadPlan :=
  ⟨p.entries.filterMap fun e => (below? relation e.1).map fun path => (path, e.2)⟩

def shown (p : LoadPlan) : String := "[" ++ ", ".intercalate (p.paths.map Text.quoted) ++ "]"

mutual

def extend (p : LoadPlan) : FinderStep → LoadPlan
  | .query _ => p
  | .when condition steps => if condition then p.extendAll steps else p
  | .load paths => paths.foldl (fun p path => p.add path []) p
  | .loadWith path steps => p.add path steps
  | .loadPlan entries => p.merge (ofEntries entries)
  | .whereHas _ _ => p

def extendAll (p : LoadPlan) : List FinderStep → LoadPlan
  | [] => p
  | s :: rest => (p.extend s).extendAll rest

end

end LoadPlan

end RecordQuery
