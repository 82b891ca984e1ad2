import RecordQuery.Query.Basic

namespace RecordQuery

/-- What is to be done to a query; sub-selects and groups are given by the steps that build them. -/
inductive QueryStep where
  | select (names : List String)
  | addSelect (name : String)
  | ensureSelected (name : String)
  | addSelectQuery (steps : List QueryStep)
  | about (object : String)
  | withSchema (schema : Schema)
  | renew
  | fail (fault : Fault)
  | compare (field : String) (op : Operator) (value : Value)
  | compareBy (field op : String) (value : Value)
  | compareAll (pairs : List (String × Value))
  | compareQuery (field : String) (op : Operator) (steps : List QueryStep)
  | require (clause : Clause)
  | group (steps : List QueryStep)
  | inText (field : String) (negated : Bool) (text : String)
  | inQuery (field : String) (negated : Bool) (steps : List QueryStep)
  | orderBy (order : Order)
  | unordered
  | limit (n : Nat)
  | offset (n : Nat)
  | forPage (page perPage : Nat)
  | when (condition : Bool) (steps : List QueryStep)

namespace Query

mutual

/-- Carries out one step. -/
def step (q : Query) : QueryStep → Traced Query
  | .select names => pure (q.select names)
  | .addSelect name => pure (q.addSelect name)
  | .ensureSelected name => pure (q.ensureSelected name)
  | .addSelectQuery steps => do return q.addSelectQuery (← q.renewed.steps steps)
  | .about object => pure (q.about object)
  | .withSchema schema => pure (q.withSchema schema)
  | .renew => pure q.renewed
  | .fail fault => pure (q.fail fault)
  | .compare field op value => pure (q.compare field op value)
  | .compareBy field op value => pure (q.compareBy field op value)
  | .compareAll pairs => pure (pairs.foldl (fun q (field, v) => q.compare field .eq v) q)
  | .compareQuery field op steps => do return q.compareQuery field op (← q.renewed.steps steps)
  | .require clause => pure (q.require clause)
  | .group steps => do return q.group (← q.subgroup.steps steps)
  | .inText field negated text => q.inSubselect field negated (.raw text)
  | .inQuery field negated steps => do
    q.inSubselect field negated (.built (← q.renewed.steps steps))
  | .orderBy order => pure (q.orderBy order)
  | .unordered => pure q.unordered
  | .limit n => pure (q.limit n)
  | .offset n => pure (q.offset n)
  | .forPage page perPage => pure (q.forPage page perPage)
  | .when condition steps => if condition then q.steps steps else pure q

def steps (q : Query) : List QueryStep → Traced Query
  | [] => pure q
  | s :: rest => do (← q.step s).steps rest

end

end Query

end RecordQuery
