import RecordQuery.Proofs.Decimal.Double
import RecordQuery.Proofs.Record.Numbers

namespace RecordQuery

namespace Json

theorem Number.same_cases {a b : Number} (h : (a == b) = true) :
    a = b ∨ ∃ f g, a = .real f ∧ b = .real g ∧ (f == g) = true := by
  cases a with
  | int i =>
    cases b with
    | int k => exact .inl (congrArg Number.int (eq_of_beq h))
    | real g => exact Bool.noConfusion h
  | real f =>
    cases b with
    | int k => exact Bool.noConfusion h
    | real g => exact .inr ⟨f, g, rfl, rfl, h⟩

instance : PartialEquivBEq Number where
  symm h := by
    obtain rfl | ⟨f, g, rfl, rfl, hreal⟩ := Number.same_cases h
    · exact h
    · exact BEq.symm (α := Float) hreal
  trans h h' := by
    obtain rfl | ⟨f, g, rfl, rfl, hreal⟩ := Number.same_cases h
    · exact h'
    · obtain rfl | ⟨g', e, heq, rfl, hreal'⟩ := Number.same_cases h'
      · exact h
      · cases heq
        exact BEq.trans (α := Float) hreal hreal'

theorem eq_of_same {a b : Json} (h : same a b = true) (hnumber : ∀ n, a ≠ .number n)
    (harray : ∀ items, a ≠ .array items) (hobject : ∀ members, a ≠ .object members) : a = b := by
  unfold same at h
  split at h
  next => rfl
  next => rw [eq_of_beq h]
  next n _ => exact absurd rfl (hnumber n)
  next => rw [eq_of_beq h]
  next items _ => exact absurd rfl (harray items)
  next members _ => exact absurd rfl (hobject members)
  next => exact nomatch h

theorem same_number {n : Number} {j : Json} (h : same (.number n) j = true) :
    ∃ m, j = .number m ∧ (n == m) = true := by
  cases j with
  | number m => exact ⟨m, rfl, h⟩
  | _ => exact Bool.noConfusion h

theorem same_array {xs : List Json} {j : Json} (h : same (.array xs) j = true) :
    ∃ ys, j = .array ys ∧ sameItems xs ys = true := by
  cases j with
  | array ys => exact ⟨ys, rfl, h⟩
  | _ => exact Bool.noConfusion h

theorem same_object {xs : List (String × Json)} {j : Json} (h : same (.object xs) j = true) :
    ∃ ys, j = .object ys ∧ sameMembers xs ys = true := by
  cases j with
  | object ys => exact ⟨ys, rfl, h⟩
  | _ => exact Bool.noConfusion h

mutual

theorem same_symm : ∀ {a b : Json}, same a b = true → same b a = true
  | .null, _, h | .bool _, _, h | .text _, _, h => by
    obtain rfl := eq_of_same h (by simp) (by simp) (by simp)
    exact h
  | .number _, _, h => by
    obtain ⟨m, rfl, hsame⟩ := same_number h
    exact BEq.symm (α := Number) hsame
  | .array _, _, h => by
    obtain ⟨ys, rfl, hsame⟩ := same_array h
    exact sameItems_symm hsame
  | .object _, _, h => by
    obtain ⟨ys, rfl, hsame⟩ := same_object h
    exact sameMembers_symm hsame

theorem sameItems_symm : ∀ {xs ys : List Json}, sameItems xs ys = true → sameItems ys xs = true
  | [], [], _ => rfl
  | _ :: _, _ :: _, h => by
    rw [sameItems, Bool.and_eq_true] at h ⊢
    exact ⟨same_symm h.1, sameItems_symm h.2⟩

theorem sameMembers_symm : ∀ {xs ys : List (String × Json)}, sameMembers xs ys = true →
    sameMembers ys xs = true
  | [], [], _ => rfl
  | (_, _) :: _, (_, _) :: _, h => by
    rw [sameMembers, Bool.and_eq_true, Bool.and_eq_true] at h ⊢
    exact ⟨⟨BEq.symm h.1.1, same_symm h.1.2⟩, sameMembers_symm h.2⟩

end

mutual

theorem same_trans : ∀ {a b c : Json}, same a b = true → same b c = true → same a c = true
  | .null, _, _, h, h' | .bool _, _, _, h, h' | .text _, _, _, h, h' => by
    obtain rfl := eq_of_same h (by simp) (by simp) (by simp)
    exact h'
  | .number _, _, _, h, h' => by
    obtain ⟨m, rfl, hsame⟩ := same_number h
    obtain ⟨k, rfl, hsame'⟩ := same_number h'
    exact BEq.trans (α := Number) hsame hsame'
  | .array _, _, _, h, h' => by
    obtain ⟨ys, rfl, hsame⟩ := same_array h
    obtain ⟨zs, rfl, hsame'⟩ := same_array h'
    exact sameItems_trans hsame hsame'
  | .object _, _, _, h, h' => by
    obtain ⟨ys, rfl, hsame⟩ := same_object h
    obtain ⟨zs, rfl, hsame'⟩ := same_object h'
    exact sameMembers_trans hsame hsame'

theorem sameItems_trans : ∀ {xs ys zs : List Json}, sameItems xs ys = true →
    sameItems ys zs = true → sameItems xs zs = true
  | [], [], [], _, _ => rfl
  | _ :: _, _ :: _, _ :: _, h, h' => by
    rw [sameItems, Bool.and_eq_true] at h h' ⊢
    exact ⟨same_trans h.1 h'.1, sameItems_trans h.2 h'.2⟩

theorem sameMembers_trans : ∀ {xs ys zs : List (String × Json)}, sameMembers xs ys = true →
    sameMembers ys zs = true → sameMembers xs zs = true
  | [], [], [], _, _ => rfl
  | (_, _) :: _, (_, _) :: _, (_, _) :: _, h, h' => by
    rw [sameMembers, Bool.and_eq_true, Bool.and_eq_true] at h h' ⊢
    exact ⟨⟨BEq.trans h.1.1 h'.1.1, same_trans h.1.2 h'.1.2⟩, sameMembers_trans h.2 h'.2⟩

end

instance : PartialEquivBEq Json where
  symm := same_symm
  trans := same_trans

mutual

theorem same_self : ∀ {j : Json}, j.Finite → same j j = true
  | .null, _ => rfl
  | .bool b, _ => BEq.refl b
  | .text s, _ => BEq.refl s
  | .number (.int i), _ => BEq.refl i
  | .number (.real _), h => Float.beq_self_iff.2 (Decimal.ne_nan_of_isFinite h)
  | .array _, h => sameItems_self h
  | .object _, h => sameMembers_self h

theorem sameItems_self : ∀ {items : List Json}, AllFinite items → sameItems items items = true
  | [], _ => rfl
  | _ :: _, h => by
    rw [sameItems, same_self h.1, sameItems_self h.2]
    rfl

theorem sameMembers_self : ∀ {members : List (String × Json)}, MembersFinite members →
    sameMembers members members = true
  | [], _ => rfl
  | (_, _) :: _, h => by
    rw [sameMembers, BEq.rfl, same_self h.1, sameMembers_self h.2]
    rfl

end

end Json

namespace Value

mutual

/-- Every double in the value is a number. In wire data it is, as that has no infinities either. -/
def Definite : Value → Prop
  | .float f => f ≠ .nan
  | .json j => j.Finite
  | .list items => AllDefinite items
  | .null | .bool _ | .int _ | .text _ | .date _ | .dateTime _ | .instant _ | .time _ => True

def AllDefinite : List Value → Prop
  | [] => True
  | v :: vs => v.Definite ∧ AllDefinite vs

end

theorem eq_of_same {a b : Value} (h : same a b = true) (hfloat : ∀ f, a ≠ .float f)
    (hjson : ∀ j, a ≠ .json j) (hlist : ∀ items, a ≠ .list items) : a = b := by
  unfold same at h
  split at h
  next => rfl
  next => rw [eq_of_beq h]
  next => rw [eq_of_beq h]
  next f _ => exact absurd rfl (hfloat f)
  next => rw [eq_of_beq h]
  next => rw [eq_of_beq h]
  next => rw [eq_of_beq h]
  next => rw [eq_of_beq h]
  next => rw [eq_of_beq h]
  next j _ => exact absurd rfl (hjson j)
  next items _ => exact absurd rfl (hlist items)
  next => exact nomatch h

theorem same_float {f : Float} {v : Value} (h : same (.float f) v = true) :
    ∃ g, v = .float g ∧ (f == g) = true := by
  cases v with
  | float g => exact ⟨g, rfl, h⟩
  | _ => exact Bool.noConfusion h

theorem same_json {j : Json} {v : Value} (h : same (.json j) v = true) :
    ∃ k, v = .json k ∧ (j == k) = true := by
  cases v with
  | json k => exact ⟨k, rfl, h⟩
  | _ => exact Bool.noConfusion h

theorem same_list {xs : List Value} {v : Value} (h : same (.list xs) v = true) :
    ∃ ys, v = .list ys ∧ sameItems xs ys = true := by
  cases v with
  | list ys => exact ⟨ys, rfl, h⟩
  | _ => exact Bool.noConfusion h

mutual

theorem same_symm : ∀ {a b : Value}, same a b = true → same b a = true
  | .float _, _, h => by
    obtain ⟨g, rfl, hsame⟩ := same_float h
    exact BEq.symm (α := Float) hsame
  | .json _, _, h => by
    obtain ⟨k, rfl, hsame⟩ := same_json h
    exact BEq.symm (α := Json) hsame
  | .list _, _, h => by
    obtain ⟨ys, rfl, hsame⟩ := same_list h
    exact sameItems_symm hsame
  | .null, _, h | .bool _, _, h | .int _, _, h | .text _, _, h | .date _, _, h
  | .dateTime _, _, h | .instant _, _, h | .time _, _, h => by
    obtain rfl := eq_of_same h (by simp) (by simp) (by simp)
    exact h

theorem sameItems_symm : ∀ {xs ys : List Value}, sameItems xs ys = true → sameItems ys xs = true
  | [], [], _ => rfl
  | _ :: _, _ :: _, h => by
    rw [sameItems, Bool.and_eq_true] at h ⊢
    exact ⟨same_symm h.1, sameItems_symm h.2⟩

end

mutual

theorem same_trans : ∀ {a b c : Value}, same a b = true → same b c = true → same a c = true
  | .float _, _, _, h, h' => by
    obtain ⟨g, rfl, hsame⟩ := same_float h
    obtain ⟨e, rfl, hsame'⟩ := same_float h'
    exact BEq.trans (α := Float) hsame hsame'
  | .json _, _, _, h, h' => by
    obtain ⟨k, rfl, hsame⟩ := same_json h
    obtain ⟨l, rfl, hsame'⟩ := same_json h'
    exact BEq.trans (α := Json) hsame hsame'
  | .list _, _, _, h, h' => by
    obtain ⟨ys, rfl, hsame⟩ := same_list h
    obtain ⟨zs, rfl, hsame'⟩ := same_list h'
    exact sameItems_trans hsame hsame'
  | .null, _, _, h, h' | .bool _, _, _, h, h' | .int _, _, _, h, h' | .text _, _, _, h, h'
  | .date _, _, _, h, h' | .dateTime _, _, _, h, h' | .instant _, _, _, h, h'
  | .time _, _, _, h, h' => by
    obtain rfl := eq_of_same h (by simp) (by simp) (by simp)
    exact h'

theorem sameItems_trans : ∀ {xs ys zs : List Value}, sameItems xs ys = true →
    sameItems ys zs = true → sameItems xs zs = true
  | [], [], [], _, _ => rfl
  | _ :: _, _ :: _, _ :: _, h, h' => by
    rw [sameItems, Bool.and_eq_true] at h h' ⊢
    exact ⟨same_trans h.1 h'.1, sameItems_trans h.2 h'.2⟩

end

instance : PartialEquivBEq Value where
  symm := same_symm
  trans := same_trans

mutual

theorem same_self : ∀ {v : Value}, v.Definite → same v v = true
  | .null, _ => rfl
  | .bool b, _ => BEq.refl b
  | .int i, _ => BEq.refl i
  | .float _, h => Float.beq_self_iff.2 h
  | .text s, _ => BEq.refl s
  | .date d, _ => BEq.refl d
  | .dateTime t, _ => BEq.refl t
  | .instant t, _ => BEq.refl t
  | .time t, _ => BEq.refl t
  | .json _, h => Json.same_self h
  | .list _, h => sameItems_self h

theorem sameItems_self : ∀ {items : List Value}, AllDefinite items → sameItems items items = true
  | [], _ => rfl
  | _ :: _, h => by
    rw [sameItems, same_self h.1, sameItems_self h.2]
    rfl

end

theorem beq_self {v : Value} (h : v.Definite) : (v == v) = true := same_self h

end Value

end RecordQuery
