import RecordQuery.Value.Wire

namespace RecordQuery

namespace Json

/-- Wire data has no infinities. -/
def Number.Finite : Number → Prop
  | .int _ => True
  | .real f => f.isFinite = true

mutual

/-- All doubles are finite, also those in objects. -/
def Finite : Json → Prop
  | .null | .bool _ | .text _ => True
  | .number n => n.Finite
  | .array items => AllFinite items
  | .object members => MembersFinite members

def AllFinite : List Json → Prop
  | [] => True
  | j :: js => j.Finite ∧ AllFinite js

def MembersFinite : List (String × Json) → Prop
  | [] => True
  | (_, j) :: ms => j.Finite ∧ MembersFinite ms

end

mutual

/-- The numbers outside objects, in order. -/
def numbers : Json → List Number
  | .null | .bool _ | .text _ | .object _ => []
  | .number n => [n]
  | .array items => allNumbers items

def allNumbers : List Json → List Number
  | [] => []
  | j :: js => j.numbers ++ allNumbers js

end

/-- A number as it comes back from a value. -/
def Number.held : Number → Json
  | .int i =>
    if i.val ≤ Int64.maxValue.toInt then .number (.int i)
    else Value.floatJson i.val.toNat.toUInt64.toFloat
  | .real f => Value.floatJson f

mutual

/-- Wire data with the numbers outside objects as they come back from values. -/
def held : Json → Json
  | .null => .null
  | .bool b => .bool b
  | .number n => n.held
  | .text s => .text s
  | .array items => .array (allHeld items)
  | .object members => .object members

def allHeld : List Json → List Json
  | [] => []
  | j :: js => j.held :: allHeld js

end

theorem floatJson_ne_int (f : Float) (i : WireInt) : Value.floatJson f ≠ .number (.int i) := by
  unfold Value.floatJson
  split <;> exact nofun

theorem ofInt64_ofInt {i : WireInt} (h : i.val ≤ Int64.maxValue.toInt) :
    ofInt64 (Int64.ofInt i.val) = .number (.int i) := by
  have hlt : i.val < 2 ^ 63 := Int.lt_of_le_of_lt h (by decide)
  have hword : (Int64.ofInt i.val).toInt = i.val := Int64.toInt_ofInt_of_le i.property.1 hlt
  simp only [ofInt64, hword]

theorem Number.toJson_ofNumber (n : Number) : (Value.ofNumber n).toJson = n.held := by
  cases n with
  | real f => rfl
  | int i =>
    rw [Value.ofNumber, held]
    split
    next hword => exact ofInt64_ofInt hword
    next => rfl

/-- Of the numbers on the wire just the integers beyond the signed words do not come back. -/
theorem Number.held_eq_iff {n : Number} (hn : n.Finite) :
    n.held = .number n ↔ ∀ i, n = .int i → i.val ≤ Int64.maxValue.toInt := by
  cases n with
  | real f =>
    have hf : f.isFinite = true := hn
    simp [held, Value.floatJson, hf]
  | int i =>
    rw [held]
    by_cases hword : i.val ≤ Int64.maxValue.toInt
    · simp [hword]
    · simp [hword, floatJson_ne_int]

mutual

theorem toJson_ofJson : ∀ j : Json, (Value.ofJson j).toJson = j.held
  | .null | .bool _ | .text _ | .object _ => rfl
  | .number n => n.toJson_ofNumber
  | .array items => congrArg Json.array (toItems_ofItems items)

theorem toItems_ofItems : ∀ items : List Json,
    Value.toItems (Value.ofItems items) = allHeld items
  | [] => rfl
  | j :: js => by
    rw [Value.ofItems, Value.toItems, toJson_ofJson j, toItems_ofItems js, allHeld]

end

mutual

/-- Wire data comes back as it was exactly if its numbers outside objects do. -/
theorem held_eq_iff : ∀ j : Json, j.held = j ↔ ∀ n ∈ j.numbers, n.held = .number n
  | .null | .bool _ | .text _ | .object _ => by simp [held, numbers]
  | .number n => by simp [held, numbers]
  | .array items => by
    have hitems := allHeld_eq_iff items
    rw [held, numbers, ← hitems]
    exact ⟨fun h => Json.array.inj h, fun h => congrArg Json.array h⟩

theorem allHeld_eq_iff : ∀ items : List Json,
    allHeld items = items ↔ ∀ n ∈ allNumbers items, n.held = .number n
  | [] => by simp [allHeld, allNumbers]
  | j :: js => by
    have hj := held_eq_iff j
    have hjs := allHeld_eq_iff js
    rw [allHeld, allNumbers, List.cons.injEq, List.forall_mem_append, hj, hjs]

end

mutual

theorem finite_of_mem_numbers : ∀ {j : Json}, j.Finite → ∀ n ∈ j.numbers, n.Finite
  | .null, _ | .bool _, _ | .text _, _ | .object _, _ => by simp [numbers]
  | .number n, h => by simpa [numbers, Finite] using h
  | .array items, h => finite_of_mem_allNumbers h

theorem finite_of_mem_allNumbers : ∀ {items : List Json}, AllFinite items →
    ∀ n ∈ allNumbers items, n.Finite
  | [], _ => by simp [allNumbers]
  | j :: js, ⟨hj, hjs⟩ => by
    rw [allNumbers, List.forall_mem_append]
    exact ⟨finite_of_mem_numbers hj, finite_of_mem_allNumbers hjs⟩

end

/-- Wire data that went through a value is as it was but for the integers beyond the signed words
that stand outside objects: each of them has become a double. -/
theorem toJson_ofJson_eq_self_iff {j : Json} (h : j.Finite) :
    (Value.ofJson j).toJson = j.held ∧
      ((Value.ofJson j).toJson = j ↔
        ∀ i, Number.int i ∈ j.numbers → i.val ≤ Int64.maxValue.toInt) := by
  refine ⟨toJson_ofJson j, ?_⟩
  rw [toJson_ofJson, held_eq_iff]
  have hfinite := finite_of_mem_numbers h
  constructor
  · intro hheld i hi
    exact (Number.held_eq_iff (hfinite _ hi)).1 (hheld _ hi) i rfl
  · intro hwords n hn
    refine (Number.held_eq_iff (hfinite n hn)).2 ?_
    rintro i rfl
    exact hwords i hn

/-- The largest signed word comes back, and the largest integer on the wire if it is in an object. -/
theorem words_come_back :
    let largest : WireInt := ⟨18446744073709551615, by decide⟩
    let word : WireInt := ⟨9223372036854775807, by decide⟩
    let j := array [.number (.int word), .object [("Serial", .number (.int largest))]]
    j.Finite ∧ (Value.ofJson j).toJson = j := by
  intro largest word j
  have hj : j.Finite := ⟨trivial, ⟨trivial, trivial⟩, trivial⟩
  refine ⟨hj, (toJson_ofJson_eq_self_iff hj).2.2 ?_⟩
  intro i hi
  obtain rfl : i = word := Number.int.inj (List.mem_singleton.1 hi)
  decide

/-- Not all wire data comes back: the largest integer on the wire becomes a double. -/
theorem not_always_back : ¬∀ j : Json, j.Finite → (Value.ofJson j).toJson = j := by
  intro h
  have hback := h (.number (.int ⟨18446744073709551615, by decide⟩)) trivial
  exact floatJson_ne_int _ _ hback

/-- Different integers become one double, and then match each other. -/
example : Value.ofNumber (.int ⟨18446744073709551615, by decide⟩) =
    Value.ofNumber (.int ⟨18446744073709551614, by decide⟩) := rfl

end Json

end RecordQuery
