import RecordQuery.Json.Literal
import RecordQuery.Text.Basic

namespace RecordQuery.Json

/-- A wire text as it is written. Repeated member names stay, and a scalar that is well written and
denotes nothing is `none`, because a reader that skips a member must not look into it. -/
inductive Document where
  | null
  | bool (b : Bool)
  | number (n : Option Number)
  | text (s : Option String)
  | array (items : List Document)
  | object (members : List (Option String × Document))

/-- What stands inside the quotes of a string: a character, or a code unit written in hex. -/
inductive Piece where
  | char (c : Char)
  | unit (n : Nat)

/-- The character of a pair of surrogates. -/
def pairedChar (high low : Nat) : Char :=
  Char.ofNat ((high - 0xD800) * 0x400 + (low - 0xDC00) + 0x10000)

/-- The characters of a string, if every surrogate in it belongs to a pair. -/
def charsOf : List Piece → Option (List Char)
  | [] => some []
  | .char c :: ps => (charsOf ps).map (c :: ·)
  | .unit n :: ps =>
    if n < 0xD800 || 0xDFFF < n then (charsOf ps).map (Char.ofNat n :: ·)
    else if 0xDC00 ≤ n then none
    else match ps with
      | .unit m :: ps =>
        if 0xDC00 ≤ m && m ≤ 0xDFFF then (charsOf ps).map (pairedChar n m :: ·) else none
      | _ => none

/-- A character outside strings, or a whole string. -/
inductive Lexeme where
  | char (c : Char)
  | string (pieces : List Piece)

def escape? : Char → Option Char
  | '"' => some '"'
  | '\\' => some '\\'
  | '/' => some '/'
  | 'b' => some '\x08'
  | 'f' => some '\x0c'
  | 'n' => some '\n'
  | 'r' => some '\r'
  | 't' => some '\t'
  | _ => none

private def codeUnit? (a b c d : Char) : Option Nat := do
  let a ← Text.hexValue? a
  let b ← Text.hexValue? b
  let c ← Text.hexValue? c
  let d ← Text.hexValue? d
  return ((a * 16 + b) * 16 + c) * 16 + d

mutual

/-- Cuts strings out of the text. -/
def lexemes : List Char → Option (List Lexeme)
  | [] => some []
  | '"' :: cs => inString [] cs
  | c :: cs => (lexemes cs).map (.char c :: ·)

/-- The rest of a text from inside a string whose pieces so far are given backwards. -/
def inString : List Piece → List Char → Option (List Lexeme)
  | _, [] => none
  | done, '"' :: cs => (lexemes cs).map (.string done.reverse :: ·)
  | done, '\\' :: 'u' :: a :: b :: c :: d :: cs =>
    match codeUnit? a b c d with
    | some n => inString (.unit n :: done) cs
    | none => none
  | done, '\\' :: c :: cs =>
    match escape? c with
    | some e => inString (.char e :: done) cs
    | none => none
  | done, c :: cs => if c.toNat < 0x20 then none else inString (.char c :: done) cs

end

inductive Token where
  | mark (c : Char)
  | scalar (d : Document)
  | string (s : Option String)

/-- Characters of numbers and of the three words. -/
def isWordChar (c : Char) : Bool := c.isAlphanum || c == '+' || c == '-' || c == '.'

/-- The scalar that a word or number literal spells. -/
def scalarOf? (word : List Char) : Option Document :=
  if word = "null".toList then some .null
  else if word = "true".toList then some (.bool true)
  else if word = "false".toList then some (.bool false)
  else (Literal.ofChars? word).map fun l => .number l.number?

private def endWord (word : List Char) (rest : Option (List Token)) : Option (List Token) :=
  match word with
  | [] => rest
  | word => do
    let d ← scalarOf? word.reverse
    let ts ← rest
    return .scalar d :: ts

/-- Cuts lexemes into tokens; the word in progress is given backwards. -/
def tokens : List Char → List Lexeme → Option (List Token)
  | word, [] => endWord word (some [])
  | word, .string ps :: ls =>
    endWord word ((tokens [] ls).map (.string ((charsOf ps).map String.ofList) :: ·))
  | word, .char c :: ls =>
    if isWordChar c then tokens (c :: word) ls
    else if c == ' ' || c == '\n' || c == '\t' || c == '\r' then endWord word (tokens [] ls)
    else if "[]\x7b\x7d,:".toList.contains c then
      endWord word ((tokens [] ls).map (.mark c :: ·))
    else none

/-- A container that is still open: what it holds so far, backwards. -/
inductive Frame where
  | array (items : List Document)
  | object (members : List (Option String × Document)) (name : Option String)

/-- What the automaton waits for, inside which open containers. -/
inductive Progress where
  | value (open_ : List Frame)
  | firstItem (open_ : List Frame)
  | name (members : List (Option String × Document)) (open_ : List Frame)
  | colon (members : List (Option String × Document)) (name : Option String) (open_ : List Frame)
  | after (d : Document) (open_ : List Frame)

private def startValue (open_ : List Frame) : Token → Option Progress
  | .scalar d => some (.after d open_)
  | .string s => some (.after (.text s) open_)
  | .mark '[' => some (.firstItem open_)
  | .mark '\x7b' => some (.name [] open_)
  | .mark _ => none

/-- One token of the automaton. An object may end before its first name only. -/
def Progress.step : Progress → Token → Option Progress
  | .value fs, t => startValue fs t
  | .firstItem fs, .mark ']' => some (.after (.array []) fs)
  | .firstItem fs, t => startValue (.array [] :: fs) t
  | .name ms fs, .string s => some (.colon ms s fs)
  | .name [] fs, .mark '\x7d' => some (.after (.object []) fs)
  | .colon ms n fs, .mark ':' => some (.value (.object ms n :: fs))
  | .after d (.array ds :: fs), .mark ',' => some (.value (.array (d :: ds) :: fs))
  | .after d (.array ds :: fs), .mark ']' => some (.after (.array (d :: ds).reverse) fs)
  | .after d (.object ms n :: fs), .mark ',' => some (.name ((n, d) :: ms) fs)
  | .after d (.object ms n :: fs), .mark '\x7d' =>
    some (.after (.object ((n, d) :: ms).reverse) fs)
  | _, _ => none

/-- Strings are cut out of the text first, the rest is cut into words and marks, and an automaton
with a stack builds the tree. -/
def Document.ofText? (s : String) : Option Document := do
  let ls ← lexemes s.toList
  let ts ← tokens [] ls
  match ← ts.foldlM Progress.step (.value []) with
  | .after d [] => some d
  | _ => none

end RecordQuery.Json
