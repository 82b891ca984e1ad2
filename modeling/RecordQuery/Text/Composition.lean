import RecordQuery.Text.Decomposition

namespace RecordQuery.Text

/-- The character that two characters make up. -/
def composite? (a b : Nat) : Option Nat :=
  match syllable? a b with
  | some s => some s
  | none => (pairs.find? fun p => p.first == a && p.second == b).map (·.whole)

/-- What has been composed, the letter that may still grow, and the marks behind it; the first and
the last part reversed. -/
structure Composer where
  done : List Nat := []
  letter : Option Nat := none
  marks : List Nat := []

namespace Composer

/-- The code points so far, reversed. -/
def reversed (s : Composer) : List Nat := s.marks ++ s.letter.toList ++ s.done

/-- A mark reaches the letter when no mark of its class or a higher one stands between them; any
other character must follow the letter at once. -/
def reaches (s : Composer) (n : Nat) : Bool :=
  match s.marks with
  | [] => true
  | m :: _ => combiningClass m < combiningClass n

def step (s : Composer) (n : Nat) : Composer :=
  let grown := if s.reaches n then s.letter.bind (composite? · n) else none
  match grown with
  | some whole => { s with letter := some whole }
  | none =>
    if combiningClass n = 0 then ⟨s.reversed, some n, []⟩
    else if s.letter.isNone then { s with done := n :: s.done }
    else { s with marks := n :: s.marks }

end Composer

def composed (ns : List Nat) : List Nat :=
  ((decomposed ns).foldl Composer.step {}).reversed.reverse

end RecordQuery.Text
