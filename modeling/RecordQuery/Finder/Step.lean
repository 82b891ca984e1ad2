import RecordQuery.Query.Step

namespace RecordQuery

inductive FinderStep where
  | query (step : QueryStep)
  | when (condition : Bool) (steps : List FinderStep)
  | load (paths : List String)
  | loadWith (path : String) (steps : List FinderStep)
  | loadPlan (entries : List (String × List FinderStep))
  | whereHas (relation : String) (steps : List FinderStep)

def total (ns : List Nat) : Nat := ns.foldr (fun n sum => n + sum) 0

@[simp] theorem total_nil : total [] = 0 := rfl

@[simp] theorem total_cons (n : Nat) (ns : List Nat) : total (n :: ns) = n + total ns := rfl

@[simp] theorem total_append (ms ns : List Nat) : total (ms ++ ns) = total ms + total ns := by
  induction ms with
  | nil => simp
  | cons m ms ih => simp [ih, Nat.add_assoc]

namespace FinderStep

/-- A bound on what a path of `n` characters adds to a plan, with all of its ancestors. -/
def pathWeight (n : Nat) : Nat := n * n + 2 * n + 1

mutual

/-- A bound on what a step adds to a plan. -/
def weight : FinderStep → Nat
  | query _ => 0
  | when _ steps => weights steps
  | load paths => total (paths.map fun p => pathWeight p.length)
  | loadWith path steps => pathWeight path.length + weights steps
  | loadPlan entries => entryWeights entries
  | whereHas _ _ => 0

def weights : List FinderStep → Nat
  | [] => 0
  | s :: rest => weight s + weights rest

def entryWeights : List (String × List FinderStep) → Nat
  | [] => 0
  | (path, steps) :: rest => pathWeight path.length + weights steps + entryWeights rest

end

end FinderStep

end RecordQuery
