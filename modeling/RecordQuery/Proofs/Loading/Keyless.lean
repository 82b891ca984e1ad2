import RecordQuery.Proofs.Loading.Mistake
import RecordQuery.Proofs.Opening
import RecordQuery.Proofs.Record.Discard
import RecordQuery.Sample.Crm

namespace RecordQuery

variable {τ σ : Type} {α β : Type} {store : Store τ σ}

theorem AsksFirst.transport_ne {x : StateM (Session (τ × List Call) σ) α}
    {s : Session (τ × List Call) σ} {call : Call} (h : AsksFirst x s call) :
    (x.run s).2.transport ≠ s.transport := by
  intro hsame
  have hlength := h.length_le
  rw [hsame, List.length_append, List.length_singleton] at hlength
  omega

/-- A run that ends in a fault or makes a call. -/
def FailsOrAsks (x : Task (τ × List Call) σ α) (s : Session (τ × List Call) σ) : Prop :=
  (∃ fault, (x.run.run s).1 = .error fault) ∨ ∃ call, AsksFirst x.run s call

namespace FailsOrAsks

variable {x : Task (τ × List Call) σ α} {s : Session (τ × List Call) σ}

theorem bind (h : FailsOrAsks x s) {f : α → Task (τ × List Call) σ β}
    (hf : ∀ a, AddsCalls (f a).run) : FailsOrAsks (x >>= f) s := by
  obtain ⟨fault, hfault⟩ | ⟨call, hcall⟩ := h
  · left
    have hrun : x.run.run s = (.error fault, (x.run.run s).2) := Prod.ext hfault rfl
    rw [Task.run_bind_error hrun]
    exact ⟨fault, rfl⟩
  · exact .inr ⟨call, hcall.task_bind hf⟩

end FailsOrAsks

namespace Finder

theorem failsOrAsks_get (store : Store τ σ) (f : Finder) (s : Session (τ × List Call) σ) :
    FailsOrAsks (f.get store.recorded) s := by
  cases hschema : (store.schemas.describe f.type.object s.schemas).value.1 with
  | error fault =>
    obtain ⟨s', hprepared, -⟩ := exists_run_prepared store.recorded s hschema
    left
    rw [get, bare, bind_assoc, Task.run_bind_error hprepared]
    exact ⟨fault, rfl⟩
  | ok schema =>
    cases htext : (f.preparedBy schema).text.value with
    | error fault =>
      obtain ⟨s', hprepared, hsame⟩ := exists_run_prepared store.recorded s hschema
      have hbare : Unsent s ((f.bare store.recorded).run.run s) :=
        .of_bind_ok hprepared hsame ((Query.unsent_run htext s').bind _)
      exact .inl (hbare.bind _).failed
    | ok text =>
      obtain ⟨g, hwrites, -⟩ := Query.Writes.of_text htext
      exact .inr ⟨_, asksFirst_get hschema hwrites⟩

end Finder

namespace Lookup

theorem keyed_ofParent (c : Catalog) (settings : Settings) (r : Relation) (parent : Record) :
    (ofParent c settings r parent).value.keyed = !(parent.value r.linkage.parentKey).isNull := by
  unfold ofParent
  dsimp only
  cases (parent.value r.linkage.parentKey).isNull <;> rfl

theorem failsOrAsks_results (store : Store τ σ) {l : Lookup} (h : l.keyed = true)
    (s : Session (τ × List Call) σ) : FailsOrAsks (l.results store.recorded) s := by
  have hpure (related : Related Record) :
      AddsCalls (pure related : Task (τ × List Call) σ (Related Record)).run := .pure _
  unfold results
  dsimp only
  rw [h]
  cases l.relation.linkage.isToOne with
  | true =>
    have hfirst : FailsOrAsks (l.finder.first store.recorded) s :=
      (Finder.failsOrAsks_get store _ s).bind fun _ => .pure _
    exact hfirst.bind fun found => hpure (.one found)
  | false => exact (Finder.failsOrAsks_get store l.finder s).bind fun found => hpure (.many found)

end Lookup

theorem Value.joinKey_eq_none_iff {v : Value} :
    v.joinKey = none ↔ v = .null ∨ (∃ j, v = .json j) ∨ ∃ items, v = .list items := by
  cases v <;> simp [joinKey]

theorem Batch.keys_forParents (b : Batch) (parents : List Record) :
    (b.forParents parents).keys =
      distinctKeys (parents.map fun p => p.value b.relation.linkage.parentKey) := by
  unfold forParents
  dsimp only
  split <;> rfl

theorem Batch.keys_forParents_eq_nil_iff (b : Batch) (parent : Record) :
    (b.forParents [parent]).keys = [] ↔
      (parent.value b.relation.linkage.parentKey).joinKey = none := by
  have hkeyed : Keyed [parent] b.relation.linkage.parentKey ↔
      (parent.key b.relation.linkage.parentKey).isSome := by
    simp [Keyed]
  rw [keys_forParents, distinctKeys_eq_nil_iff, hkeyed, Record.key]
  simp

namespace Record

variable {t : ObjectType} {name : String} {r : Relation} {parent : Record}

/-- The relation came to what a record has that nothing is related to, without a call. -/
def Unasked (r : Relation) (before : Session (τ × List Call) σ)
    (run : (Except Fault (Related Record) × Record) × Session (τ × List Call) σ) : Prop :=
  run.1.1 = .ok (.nothing r.linkage.isToOne) ∧ run.2.transport = before.transport

theorem run_load_of_null (hr : t.relation name = .ok r) (hnew : parent.relation? name = none)
    (hnull : parent.value r.linkage.parentKey = .null) (s : Session (τ × List Call) σ) :
    Unasked r s ((parent.load store.recorded t name).run s) ∧
      ((parent.load store.recorded t name).run s).1.2 =
        parent.setRelation name (.nothing r.linkage.isToOne) := by
  have hlookup := Lookup.ofParent_of_null store.recorded.catalog store.recorded.settings hnull
  rw [run_load hr hnew, hlookup]
  exact ⟨⟨rfl, rfl⟩, rfl⟩

/-- A relation that is looked up costs a call, whatever the lookup comes to. -/
theorem failsOrAsks_load (store : Store τ σ) (hr : t.relation name = .ok r)
    (hnew : parent.relation? name = none) (hkey : parent.value r.linkage.parentKey ≠ .null)
    (s : Session (τ × List Call) σ) :
    (∃ fault, ((parent.load store.recorded t name).run s).1.1 = .error fault) ∨
      ∃ call, AsksFirst (parent.load store.recorded t name) s call := by
  let lookup := Lookup.ofParent store.recorded.catalog store.recorded.settings r parent
  have hkeyed : lookup.value.keyed = true := by
    rw [Lookup.keyed_ofParent, Bool.not_eq_true', Bool.eq_false_iff]
    exact mt isNull_iff.1 hkey
  have hresults := Lookup.failsOrAsks_results store hkeyed { s with log := s.log ++ lookup.events }
  unfold FailsOrAsks AsksFirst at hresults
  unfold AsksFirst
  rw [run_load hr hnew]
  rcases hrun : (lookup.value.results store.recorded).run.run
    { s with log := s.log ++ lookup.events } with ⟨answer, s'⟩
  rw [hrun] at hresults
  obtain ⟨fault, hfault⟩ | ⟨call, hcall⟩ := hresults
  · obtain rfl : answer = .error fault := hfault
    exact .inl ⟨fault, rfl⟩
  · right
    cases answer with
    | error fault => exact ⟨call, hcall⟩
    | ok related => exact ⟨call, hcall⟩

theorem unasked_load_iff (store : Store τ σ) (hr : t.relation name = .ok r)
    (hnew : parent.relation? name = none) (s : Session (τ × List Call) σ) :
    Unasked r s ((parent.load store.recorded t name).run s) ↔
      parent.value r.linkage.parentKey = .null := by
  constructor
  · rintro ⟨hnothing, hsame⟩
    by_contra hkey
    obtain ⟨fault, hfault⟩ | ⟨call, hcall⟩ := failsOrAsks_load store hr hnew hkey s
    · rw [hnothing] at hfault
      exact nomatch hfault
    · exact hcall.transport_ne hsame
  · intro hnull
    exact (run_load_of_null hr hnew hnull s).1

/-- Wire data and lists are no keys. -/
def JoinsByData (r : Relation) (parent : Record) : Prop :=
  (∃ j, parent.value r.linkage.parentKey = .json j) ∨
    ∃ items, parent.value r.linkage.parentKey = .list items

/-- A relation of a parent that is loaded alone comes to nothing without a call exactly if its key
is null, and otherwise fails or makes a call. In a batch there is no key to ask for if the key is
null, wire data or a list. So the two agree on all parents but those whose key is wire data or a
list. -/
theorem load_agrees_iff (store : Store τ σ) (hr : t.relation name = .ok r) (parent : Record)
    (hnew : parent.relation? name = none) (s : Session (τ × List Call) σ) :
    let run := (parent.load store.recorded t name).run s
    let batch := (Batch.new store.catalog store.settings r).forParents [parent]
    let key := parent.value r.linkage.parentKey
    (Unasked r s run ↔ key = .null) ∧
    (key = .null → run.1.2 = parent.setRelation name (.nothing r.linkage.isToOne)) ∧
    (key ≠ .null → (∃ fault, run.1.1 = .error fault) ∨
      ∃ call, s.transport.2 ++ [call] <+: run.2.transport.2) ∧
    (batch.keys = [] ↔ key = .null ∨ JoinsByData r parent) ∧
    ((Unasked r s run ↔ batch.keys = []) ↔ ¬JoinsByData r parent) := by
  intro run batch key
  have hunasked : Unasked r s run ↔ key = .null := unasked_load_iff store hr hnew s
  have hkeys : batch.keys = [] ↔ key = .null ∨ JoinsByData r parent :=
    (Batch.keys_forParents_eq_nil_iff _ parent).trans Value.joinKey_eq_none_iff
  refine ⟨hunasked, fun hnull => (run_load_of_null hr hnew hnull s).2,
    fun hkey => failsOrAsks_load store hr hnew hkey s, hkeys, ?_⟩
  rw [hunasked, hkeys]
  constructor
  · rintro hagree hdata
    have hnull : key = .null := hagree.2 (.inr hdata)
    obtain ⟨j, hj⟩ | ⟨items, hitems⟩ := hdata
    · exact nomatch hnull.symm.trans hj
    · exact nomatch hnull.symm.trans hitems
  · intro hnot
    exact ⟨.inl, fun h => h.resolve_right hnot⟩

end Record

open Record

def contactAccount : Relation := ⟨"Account", "Account", .belongsTo "AccountId" "Id"⟩

def orphanContact : Record := .ofAttributes "Contact" [("Id", .text "003")]

/-- A contact whose account is given as a list. -/
def listedContact : Record :=
  .ofAttributes "Contact" [("Id", .text "003"), ("AccountId", .list [.text "001"])]

/-- A store that has nothing to answer. -/
def silent : Store (List Page) Unit :=
  .scripted (fun object => .ok ⟨object, [("Id", .text)]⟩) Crm.catalog

/-- The two agree on the contact without an account, and differ on the other one. -/
theorem listed_asked :
    Crm.contact.relation "Account" = .ok contactAccount ∧
    orphanContact.relation? "Account" = none ∧ listedContact.relation? "Account" = none ∧
    ∀ s : Session (List Page × List Call) Unit,
      let batch (parent : Record) :=
        (Batch.new silent.catalog silent.settings contactAccount).forParents [parent]
      let run (parent : Record) := (parent.load silent.recorded Crm.contact "Account").run s
      (Unasked contactAccount s (run orphanContact) ∧ (batch orphanContact).keys = []) ∧
      ¬Unasked contactAccount s (run listedContact) ∧ (batch listedContact).keys = [] := by
  have hr : Crm.contact.relation "Account" = .ok contactAccount := rfl
  refine ⟨hr, rfl, rfl, ?_⟩
  intro s batch run
  have hlist : listedContact.value "AccountId" = .list [.text "001"] := rfl
  obtain ⟨horphan, -, -, hnone, -⟩ := load_agrees_iff silent hr orphanContact rfl s
  obtain ⟨hasked, -, -, hnone', -⟩ := load_agrees_iff silent hr listedContact rfl s
  refine ⟨⟨horphan.2 rfl, hnone.2 (.inl rfl)⟩, ?_, hnone'.2 (.inr (.inr ⟨_, hlist⟩))⟩
  intro hunasked
  exact nomatch hlist.symm.trans (hasked.1 hunasked)

theorem not_load_agrees :
    ¬∀ (t : ObjectType) (name : String) (r : Relation) (parent : Record)
      (s : Session (List Page × List Call) Unit),
      t.relation name = .ok r → parent.relation? name = none →
        (Unasked r s ((parent.load silent.recorded t name).run s) ↔
          ((Batch.new silent.catalog silent.settings r).forParents [parent]).keys = []) := by
  intro h
  have hr : Crm.contact.relation "Account" = .ok contactAccount := rfl
  have hagree := h Crm.contact "Account" contactAccount listedContact ⟨([], []), (), []⟩ hr rfl
  have hnull := (unasked_load_iff silent hr rfl _).1 (hagree.2 rfl)
  have hlist : listedContact.value "AccountId" = .list [.text "001"] := rfl
  exact nomatch hlist.symm.trans hnull

end RecordQuery
