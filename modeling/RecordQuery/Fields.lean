namespace RecordQuery

variable {α : Type u}

namespace Fields

def find? (fields : List (String × α)) (name : String) : Option α :=
  fields.lookup name

/-- Puts a value under a name, in place of any earlier one, between the smaller and the larger
names. -/
def insert (fields : List (String × α)) (name : String) (value : α) : List (String × α) :=
  fields.filter (·.1 < name) ++ (name, value) :: fields.filter (name < ·.1)

def erase (fields : List (String × α)) (name : String) : List (String × α) :=
  fields.filter (·.1 != name)

/-- The named values in order; of several under one name the last stays. -/
def ofList (entries : List (String × α)) : List (String × α) :=
  entries.foldl (fun fields e => insert fields e.1 e.2) []

/-- Strictly rising names. -/
def InOrder (fields : List (String × α)) : Prop :=
  fields.Pairwise fun a b => a.1 < b.1

theorem inOrder_insert {fields : List (String × α)} (h : InOrder fields) (name : String)
    (value : α) : InOrder (insert fields name value) := by
  unfold InOrder insert
  rw [List.pairwise_append, List.pairwise_cons]
  refine ⟨h.filter _, ⟨?_, h.filter _⟩, ?_⟩
  · intro e he
    simpa using (List.mem_filter.1 he).2
  · intro a ha b hb
    have ha' : a.1 < name := by simpa using (List.mem_filter.1 ha).2
    rcases List.mem_cons.1 hb with rfl | hb
    · exact ha'
    · have hb' : name < b.1 := by simpa using (List.mem_filter.1 hb).2
      exact String.lt_trans ha' hb'

theorem inOrder_erase {fields : List (String × α)} (h : InOrder fields) (name : String) :
    InOrder (erase fields name) :=
  h.filter _

end Fields

/-- Values under distinct names, in the order of the names, so that two maps with the same look-ups
are equal. Where a type is still being defined the bare lists stand in for it. -/
structure FieldMap (α : Type u) where
  entries : List (String × α)
  inOrder : Fields.InOrder entries

namespace FieldMap

def empty : FieldMap α := ⟨[], List.Pairwise.nil⟩

instance : Inhabited (FieldMap α) := ⟨empty⟩

def find? (m : FieldMap α) (name : String) : Option α := Fields.find? m.entries name

def contains (m : FieldMap α) (name : String) : Bool := (m.find? name).isSome

def insert (m : FieldMap α) (name : String) (value : α) : FieldMap α :=
  ⟨Fields.insert m.entries name value, Fields.inOrder_insert m.inOrder name value⟩

def erase (m : FieldMap α) (name : String) : FieldMap α :=
  ⟨Fields.erase m.entries name, Fields.inOrder_erase m.inOrder name⟩

def ofList (entries : List (String × α)) : FieldMap α :=
  entries.foldl (fun m e => m.insert e.1 e.2) empty

def size (m : FieldMap α) : Nat := m.entries.length

def isEmpty (m : FieldMap α) : Bool := m.entries.isEmpty

/-- The same names with the same values, as `==` of the values sees it. -/
instance [BEq α] : BEq (FieldMap α) := ⟨fun a b => a.entries == b.entries⟩

end FieldMap

end RecordQuery
