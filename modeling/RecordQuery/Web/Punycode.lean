import RecordQuery.Text.Basic

namespace RecordQuery.Web.Punycode

def digit (n : Nat) : Char := if n < 26 then Char.ofNat (97 + n) else Char.ofNat (22 + n)

def digitValue? (c : Char) : Option Nat :=
  if 'a' ≤ c ∧ c ≤ 'z' then some (c.toNat - 97)
  else if 'A' ≤ c ∧ c ≤ 'Z' then some (c.toNat - 65)
  else if '0' ≤ c ∧ c ≤ '9' then some (c.toNat - 22)
  else none

/-- The bias after a step has been written. -/
def adapt (step points : Nat) (first : Bool) : Nat :=
  let start := if first then step / 700 else step / 2
  let rec settle (fuel d k : Nat) : Nat :=
    match fuel with
    | 0 => k + 36 * d / (d + 38)
    | fuel + 1 => if 455 < d then settle fuel (d / 35) (k + 36) else k + 36 * d / (d + 38)
  settle start (start + start / points) 0

/-- The first value of a digit that has another digit after it. -/
def threshold (bias k : Nat) : Nat :=
  if k ≤ bias then 1 else if bias + 26 ≤ k then 26 else k - bias

/-- A step in digits of varying base, least first. -/
def varying (bias : Nat) (fuel k q : Nat) : List Char :=
  let t := threshold bias k
  match fuel with
  | 0 => [digit q]
  | fuel + 1 =>
    if q < t then [digit q]
    else digit (t + (q - t) % (36 - t)) :: varying bias fuel (k + 36) ((q - t) / (36 - t))

/-- The step so far, the bias, how many characters are done, and what has been written. -/
structure Writer where
  step : Nat
  bias : Nat
  done : Nat
  written : List Char

/-- One pass over the label: every occurrence of `point` is written. -/
def pass (basic point : Nat) (label : List Nat) (w : Writer) : Writer :=
  label.foldl (fun w c =>
    if c < point then { w with step := w.step + 1 }
    else if c = point then
      { step := 0
        bias := adapt w.step (w.done + 1) (w.done == basic)
        done := w.done + 1
        written := w.written ++ varying w.bias w.step 36 w.step }
    else w) w

/-- The passes over the label, for the code points outside ASCII in rising order. -/
def passes (basic : Nat) (label : List Nat) : Nat → List Nat → Writer → Writer
  | _, [], w => w
  | low, point :: points, w =>
    let w := { w with step := w.step + (point - low) * (w.done + 1) }
    let w := pass basic point label w
    passes basic label (point + 1) points { w with step := w.step + 1 }

/-- The ASCII form of a label with other characters. Its ASCII characters stand first; the others are
steps through all places where each of them could have been put, one code point after the other. -/
def encode (label : List Char) : List Char :=
  let plain := label.filter fun c => c.toNat < 0x80
  let points := (label.map Char.toNat).filter (0x80 ≤ ·)
  let rising := (points.mergeSort (· ≤ ·)).eraseDups
  let lead := if plain.isEmpty then [] else plain ++ ['-']
  lead ++ (passes plain.length (label.map Char.toNat) 0x80 rising ⟨0, 72, plain.length, []⟩).written

/-- A step and what follows its digits. -/
def takeStep (bias : Nat) : Nat → Nat → Nat → List Char → Option (Nat × List Char)
  | _, _, _, [] => none
  | k, weight, sum, c :: cs =>
    match digitValue? c with
    | none => none
    | some d =>
      let t := threshold bias k
      if d < t then some (sum + d * weight, cs)
      else takeStep bias (k + 36) (weight * (36 - t)) (sum + d * weight) cs

theorem takeStep_length {bias k weight sum step : Nat} {cs rest : List Char}
    (h : takeStep bias k weight sum cs = some (step, rest)) : rest.length < cs.length := by
  induction cs generalizing k weight sum with
  | nil => simp [takeStep] at h
  | cons c cs ih =>
    simp only [takeStep] at h
    split at h
    · simp at h
    · split at h
      · simp only [Option.some.injEq, Prod.mk.injEq] at h
        simp [← h.2]
      · have := ih h
        simp only [List.length_cons]
        omega

/-- Whether a number is a code point outside ASCII that a character has. -/
def isPoint (n : Nat) : Bool := 0x80 ≤ n && n < 0x110000 && !(0xD800 ≤ n && n < 0xE000)

/-- The label whose steps are read from a code point and a place on. -/
def follow (label : List Char) (point place bias : Nat) (cs : List Char) : Option (List Char) :=
  if cs.isEmpty then some label
  else
    match h : takeStep bias 36 1 0 cs with
    | none => none
    | some (step, rest) =>
      have := takeStep_length h
      let count := label.length + 1
      let point := point + (place + step) / count
      let spot := (place + step) % count
      if isPoint point then
        follow (label.take spot ++ Char.ofNat point :: label.drop spot) point (spot + 1)
          (adapt step count (place == 0)) rest
      else none
termination_by cs.length

/-- The label that an ASCII form spells. A hyphen that nothing stands before is not the one that
ends the ASCII characters. -/
def decode? (cs : List Char) : Option (List Char) :=
  let back := cs.reverse
  let plain := (back.dropWhile (· != '-')).reverse.dropLast
  let steps := if plain.isEmpty then cs else (back.takeWhile (· != '-')).reverse
  if cs.all fun c => c.toNat < 0x80 then follow plain 0x80 0 72 steps else none

end RecordQuery.Web.Punycode
