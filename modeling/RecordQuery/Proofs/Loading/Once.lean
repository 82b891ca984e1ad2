import RecordQuery.Proofs.Loading.Alone
import RecordQuery.Proofs.Loading.Fault
import RecordQuery.Sample.Crm

namespace RecordQuery

open LoadPlan

variable {τ σ : Type} {store : Store τ σ} {t : ObjectType} {relation : String}

/-- Whether it is what a relation to one leads to. -/
def Related.isOne {ρ : Type} : Related ρ → Bool
  | one _ => true
  | many _ => false

theorem Related.isOne_nothing {ρ : Type} (toOne : Bool) :
    (nothing toOne : Related ρ).isOne = toOne := by
  cases toOne <;> rfl

namespace Lookup

theorem relation_ofParent (c : Catalog) (settings : Settings) (r : Relation) (parent : Record) :
    (ofParent c settings r parent).value.relation = r := by
  unfold ofParent
  dsimp only
  split <;> rfl

/-- A look-up comes to one record or to many as its relation does, with a key or without. -/
theorem isOne_of_results {l : Lookup} {related : Related Record} {s s' : Session τ σ}
    (h : (l.results store).run.run s = (.ok related, s')) :
    related.isOne = l.relation.linkage.isToOne := by
  unfold results at h
  dsimp only at h
  cases hkeyed : l.keyed with
  | false =>
    rw [hkeyed] at h
    obtain ⟨⟨rfl⟩, -⟩ := h
    exact Related.isOne_nothing _
  | true =>
    rw [hkeyed] at h
    cases htoOne : l.relation.linkage.isToOne with
    | true =>
      rw [htoOne] at h
      obtain ⟨found, s₁, -, hone⟩ := Task.exists_of_run_bind h
      obtain ⟨⟨rfl⟩, -⟩ := hone
      rfl
    | false =>
      rw [htoOne] at h
      obtain ⟨found, s₁, -, hmany⟩ := Task.exists_of_run_bind h
      obtain ⟨⟨rfl⟩, -⟩ := hmany
      rfl

end Lookup

namespace Record

/-- A call that finds the relation loaded does nothing. Any other leaves the record alone if it
fails, and puts what it hands out into the record if it does not. -/
theorem load_cases {record record' : Record} {answer : Except Fault (Related Record)}
    {s s' : Session τ σ}
    (h : (record.load store t relation).run s = ((answer, record'), s')) :
    (∃ related, record.relation? relation = some related ∧ answer = .ok related ∧
      record' = record ∧ s' = s) ∨
    record.relation? relation = none ∧
      ((∃ fault, answer = .error fault ∧ record' = record) ∨
        ∃ r related, t.relation relation = .ok r ∧ answer = .ok related ∧
          related.isOne = r.linkage.isToOne ∧ record' = record.setRelation relation related) := by
  cases hloaded : record.relation? relation with
  | some related =>
    rw [load_of_relation? hloaded] at h
    obtain ⟨⟨rfl, rfl⟩, rfl⟩ := h
    exact .inl ⟨related, rfl, rfl, rfl, rfl⟩
  | none =>
    refine .inr ⟨rfl, ?_⟩
    cases hr : t.relation relation with
    | error fault =>
      unfold load at h
      rw [hloaded, hr] at h
      obtain ⟨⟨rfl, rfl⟩, -⟩ := h
      exact .inl ⟨fault, rfl, rfl⟩
    | ok r =>
      rw [run_load hr hloaded] at h
      split at h
      · rename_i fault s₁ _
        obtain ⟨⟨rfl, rfl⟩, -⟩ := h
        exact .inl ⟨fault, rfl, rfl⟩
      · rename_i related s₁ hfound
        obtain ⟨⟨rfl, rfl⟩, -⟩ := h
        have hone := Lookup.isOne_of_results hfound
        rw [Lookup.relation_ofParent] at hone
        exact .inr ⟨r, related, rfl, rfl, hone, rfl⟩

/-- One call of `load`: the session it began in, its answer, and the session after it. -/
structure LoadCall (τ σ : Type) where
  before : Session τ σ
  answer : Except Fault (Related Record)
  after : Session τ σ

def LoadCall.Failed (c : LoadCall τ σ) : Prop := ∃ fault, c.answer = .error fault

/-- The call handed out what was there and asked nothing of anyone. -/
def LoadCall.Idle (c : LoadCall τ σ) (related : Related Record) : Prop :=
  c.answer = .ok related ∧ c.after = c.before

/-- Calls for one relation of a record, one after the other, and the record after them. Between two
calls the session may change in any way. -/
inductive LoadCalls (store : Store τ σ) (t : ObjectType) (relation : String) :
    Record → List (LoadCall τ σ) → Record → Prop
  | nil (record : Record) : LoadCalls store t relation record [] record
  | cons {s s' : Session τ σ} {record record' record'' : Record}
      {answer : Except Fault (Related Record)} {calls : List (LoadCall τ σ)}
      (call : (record.load store t relation).run s = ((answer, record'), s'))
      (rest : LoadCalls store t relation record' calls record'') :
      LoadCalls store t relation record (⟨s, answer, s'⟩ :: calls) record''

namespace LoadCalls

variable {record record' : Record} {calls : List (LoadCall τ σ)}

/-- Calls for a relation that has been loaded do nothing. -/
theorem idle (h : LoadCalls store t relation record calls record') {related : Related Record}
    (hloaded : record.relation? relation = some related) :
    record' = record ∧ ∀ c ∈ calls, c.Idle related := by
  induction h with
  | nil => exact ⟨rfl, fun c hc => nomatch hc⟩
  | cons call rest ih =>
    rw [load_of_relation? hloaded] at call
    obtain ⟨⟨rfl, rfl⟩, rfl⟩ := call
    obtain ⟨hsame, hidle⟩ := ih hloaded
    exact ⟨hsame, List.forall_mem_cons.2 ⟨⟨rfl, rfl⟩, hidle⟩⟩

/-- Calls fail, each on the record as it was, up to the first one that does not; and all of those
after it do nothing. -/
theorem first_success (h : LoadCalls store t relation record calls record') :
    ((∀ c ∈ calls, c.Failed) ∧ record' = record) ∨
    ∃ failed first later related, calls = failed ++ first :: later ∧ (∀ c ∈ failed, c.Failed) ∧
      (record.load store t relation).run first.before = ((.ok related, record'), first.after) ∧
      first.answer = .ok related ∧ ∀ c ∈ later, c.Idle related := by
  induction h with
  | nil => exact .inl ⟨(fun c hc => nomatch hc), rfl⟩
  | @cons s s' record record' record'' answer calls call rest ih =>
    -- The first call decides whether the rest finds the relation loaded or begins anew.
    obtain ⟨related, hloaded, rfl, rfl, rfl⟩ |
      ⟨hnew, ⟨fault, rfl, rfl⟩ | ⟨r, related, hr, rfl, hone, rfl⟩⟩ := load_cases call
    · obtain ⟨rfl, hidle⟩ := rest.idle hloaded
      exact .inr ⟨[], _, calls, related, rfl, (fun c hc => nomatch hc), call, rfl, hidle⟩
    · have hfailed : LoadCall.Failed ⟨s, .error fault, s'⟩ := ⟨fault, rfl⟩
      obtain ⟨hall, rfl⟩ | ⟨failed, first, later, related, rfl, hall, hfirst, hanswer, hidle⟩ := ih
      · exact .inl ⟨List.forall_mem_cons.2 ⟨hfailed, hall⟩, rfl⟩
      · exact .inr ⟨_ :: failed, first, later, related, rfl,
          List.forall_mem_cons.2 ⟨hfailed, hall⟩, hfirst, hanswer, hidle⟩
    · have hloaded : (record.setRelation relation related).relation? relation = some related := by
        rw [relation?_setRelation, if_pos rfl]
      obtain ⟨rfl, hidle⟩ := rest.idle hloaded
      exact .inr ⟨[], _, calls, related, rfl, (fun c hc => nomatch hc), call, rfl, hidle⟩

end LoadCalls

/-- A call that fails leaves the record as it was, and one that does not changes nothing of it but
the relation, which then holds what was handed out: one record or many, as the relation leads to if
it was not loaded before. A relation that is loaded is handed out with no change of the record or of
the session, so that no transport and no source of schemas is asked. Of any number of calls, those
before the first success fail on the record as it was, and those after it cost nothing. -/
theorem load_once (store : Store τ σ) (t : ObjectType) (record : Record) (relation : String) :
    (∀ s fault record' s', (record.load store t relation).run s = ((.error fault, record'), s') →
      record' = record) ∧
    (∀ s related record' s', (record.load store t relation).run s = ((.ok related, record'), s') →
      Kept [relation] record record' ∧ record'.relation? relation = some related ∧
        (record.relation? relation = none →
          ∃ r, t.relation relation = .ok r ∧ related.isOne = r.linkage.isToOne)) ∧
    (∀ related, record.relation? relation = some related →
      ∀ s, (record.load store t relation).run s = ((.ok related, record), s)) ∧
    ∀ calls record', LoadCalls store t relation record calls record' →
      ((∀ c ∈ calls, c.Failed) ∧ record' = record) ∨
      ∃ failed first later related, calls = failed ++ first :: later ∧ (∀ c ∈ failed, c.Failed) ∧
        (record.load store t relation).run first.before = ((.ok related, record'), first.after) ∧
        first.answer = .ok related ∧ ∀ c ∈ later, c.Idle related := by
  refine ⟨fun s fault record' s' h => ?_, fun s related record' s' h => ?_,
    fun related hloaded s => load_of_relation? hloaded s, fun calls record' h => h.first_success⟩
  · obtain ⟨_, _, hanswer, _⟩ | ⟨_, ⟨_, _, hsame⟩ | ⟨_, _, _, hanswer, _⟩⟩ := load_cases h
    · exact nomatch hanswer
    · exact hsame
    · exact nomatch hanswer
  · obtain ⟨found, hloaded, hanswer, rfl, -⟩ |
      ⟨hnew, ⟨fault, hanswer, -⟩ | ⟨r, found, hr, hanswer, hone, rfl⟩⟩ := load_cases h
    · obtain rfl := Except.ok.inj hanswer
      refine ⟨.refl _ _, hloaded, fun hnew => ?_⟩
      rw [hloaded] at hnew
      exact nomatch hnew
    · exact nomatch hanswer
    · obtain rfl := Except.ok.inj hanswer
      refine ⟨.setRelation record relation related, ?_, fun _ => ⟨r, hr, hone⟩⟩
      rw [relation?_setRelation, if_pos rfl]

/-- A store that describes every object by its key alone. -/
def keysAlone : Store (List Page) Unit :=
  .scripted (fun object => .ok ⟨object, [("Id", .text)]⟩) Crm.catalog

def contactOfAcme : Record := .ofAttributes "Contact" [("Id", .text "003"), ("AccountId", .text "001")]

def acmeAccount : Record := .ofAttributes "Account" [("Id", .text "001")]

/-- The one page there is goes to the first call, and every call after it finds the account. -/
theorem account_loaded_once :
    let run := (contactOfAcme.load keysAlone Crm.contact "Account").run
      ⟨[.last [[("Id", .text "001")]]], (), []⟩
    run.1.1 = .ok (.one (some acmeAccount)) ∧ run.2.transport = [] ∧ Kept ["Account"] contactOfAcme run.1.2 ∧
      ∀ s, (run.1.2.load keysAlone Crm.contact "Account").run s =
        ((.ok (.one (some acmeAccount)), run.1.2), s) := by
  intro run
  have hanswer : run.1.1 = .ok (.one (some acmeAccount)) := by with_unfolding_all rfl
  have hrun : run = ((.ok (.one (some acmeAccount)), run.1.2), run.2) :=
    Prod.ext (Prod.ext hanswer rfl) rfl
  obtain ⟨-, hsuccess, -, -⟩ := load_once keysAlone Crm.contact contactOfAcme "Account"
  obtain ⟨hkept, hloaded, -⟩ := hsuccess _ _ _ _ hrun
  obtain ⟨-, -, hagain, -⟩ := load_once keysAlone Crm.contact run.1.2 "Account"
  exact ⟨hanswer, by with_unfolding_all rfl, hkept, hagain _ hloaded⟩

end Record

end RecordQuery
