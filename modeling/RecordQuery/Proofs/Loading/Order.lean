import RecordQuery.Proofs.Loading.Junction
import RecordQuery.Proofs.Loading.Permuted
import RecordQuery.Proofs.Steady
import RecordQuery.Sample.Crm

namespace RecordQuery

variable {τ σ α β : Type} {store : Store τ σ} {s : Session τ σ} {t : ObjectType}

/-- The records, if all was loaded. -/
def Loaded.whole? (l : Loaded) : Option (List Record) :=
  match l.fault with
  | none => some l.records
  | some _ => none

theorem Loaded.whole?_eq_some {l : Loaded} {records : List Record} :
    l.whole? = some records ↔ l.fault = none ∧ l.records = records := by
  unfold whole?
  cases l.fault with
  | none => simp
  | some fault => simp

namespace LoadPlan

/-- The records with the relations of a forest, if it is loaded without a fault. -/
def loaded? (store : Store τ σ) (s : Session τ σ) (t : ObjectType) (records : List Record)
    (forest : List Tree) : Option (List Record) :=
  ((loadForest store t records forest).run s).1.whole?

def Tree.loaded? (store : Store τ σ) (s : Session τ σ) (t : ObjectType) (records : List Record)
    (tree : Tree) : Option (List Record) :=
  ((loadTree store t records tree).run s).1.whole?

/-- What the relation of a tree is set to, if it is loaded without a fault. -/
def Tree.change? (store : Store τ σ) (s : Session τ σ) (t : ObjectType) (records : List Record) :
    Tree → Option (Record → Related Record)
  | .node relation steps below =>
    match t.relation relation with
    | .error _ => none
    | .ok r =>
      (((batch store r steps records).value.results store (loadBelow store below)).run.run
        s).1.toOption.map fun (results, b) => b.related (b.dictionary results)

/-- Records with the same attributes, in the same places. -/
abbrev SameAttributes : List Record → List Record → Prop :=
  List.Forall₂ fun p p' => p'.attributes = p.attributes

theorem change?_congr {records records' : List Record} (h : SameAttributes records records')
    (tree : Tree) : tree.change? store s t records' = tree.change? store s t records := by
  obtain ⟨relation, steps, below⟩ := tree
  have hvalues (field : String) :
      records'.map (fun p => p.value field) = records.map fun p => p.value field :=
    (map_eq_of_forall₂ (R := fun p p' : Record => p'.attributes = p.attributes)
      (fun p p' hp => by simp only [Record.value, Record.get?, hp]) h).symm
  simp only [Tree.change?, batch, forParents_congr (hvalues _)]

/-- What a relation is set to depends on attributes alone. -/
theorem eq_of_change? {records : List Record} {tree : Tree} {change : Record → Related Record}
    (h : tree.change? store s t records = some change) {p p' : Record}
    (hp : p'.attributes = p.attributes) : change p' = change p := by
  obtain ⟨relation, steps, below⟩ := tree
  rw [Tree.change?] at h
  split at h
  · cases h
  · obtain ⟨⟨results, b⟩, -, rfl⟩ := Option.map_eq_some_iff.1 h
    have hkey (field : String) : p'.key field = p.key field := by
      simp only [Record.key, Record.value, Record.get?, hp]
    simp only [Batch.related, hkey]

/-- A tree that is loaded sets its relation. -/
theorem loaded?_eq_change? (h : store.Settled) (records : List Record) (tree : Tree) :
    tree.loaded? store s t records = (tree.change? store s t records).map fun change =>
      records.map fun p => p.setRelation tree.name (change p) := by
  obtain ⟨relation, steps, below⟩ := tree
  rw [Tree.loaded?, run_loadTree, Tree.change?]
  cases hr : t.relation relation with
  | error fault => rfl
  | ok r =>
    have hbelow := h.steady.loadBelow fun t found => h.steady.loadForest t found below
    obtain ⟨answer, s₁, s₁', hs, hs'⟩ := (h.steady.results hbelow
      (batch store r steps records).value).exists_answer
        { s with log := s.log ++ (batch store r steps records).events } s
    dsimp only
    rw [hs, hs']
    cases answer with
    | error fault => rfl
    | ok answer =>
      obtain ⟨results, b⟩ := answer
      have hrelation := relation_results (pivots_batch r steps records) hs'
      have hdealt := deal_reset hrelation (b.dictionary results) records
      rw [relation_batch, relation_name hr] at hdealt
      exact congrArg some hdealt

theorem sameAttributes_map (name : String) (change : Record → Related Record)
    (records : List Record) :
    SameAttributes records (records.map fun p => p.setRelation name (change p)) := by
  rw [SameAttributes, List.forall₂_map_right_iff, List.forall₂_same]
  exact fun _ _ => rfl

/-- What another tree has set makes no difference to what a tree sets. -/
theorem loaded?_after (h : store.Settled) (name : String) (change : Record → Related Record)
    (records : List Record) (tree : Tree) :
    tree.loaded? store s t (records.map fun p => p.setRelation name (change p)) =
      (tree.change? store s t records).map fun change' =>
        records.map fun p => (p.setRelation name (change p)).setRelation tree.name (change' p) := by
  rw [loaded?_eq_change? h, change?_congr (sameAttributes_map name change records)]
  cases hchange : tree.change? store s t records with
  | none => rfl
  | some change' =>
    rw [Option.map_some, Option.map_some, List.map_map]
    refine congrArg some (List.map_congr_left fun p _ => ?_)
    have hsame : change' (p.setRelation name (change p)) = change' p := eq_of_change? hchange rfl
    rw [Function.comp_apply, hsame]

/-- Two trees of different relations may change places. -/
theorem loaded?_comm (h : store.Settled) {a b : Tree} (hne : a.name ≠ b.name)
    (records : List Record) :
    (a.loaded? store s t records).bind (b.loaded? store s t) =
      (b.loaded? store s t records).bind (a.loaded? store s t) := by
  rw [loaded?_eq_change? h, loaded?_eq_change? h records b]
  cases ha : a.change? store s t records with
  | none =>
    cases hb : b.change? store s t records with
    | none => rfl
    | some change => simp only [Option.map_none, Option.map_some, Option.bind_none,
        Option.bind_some, loaded?_after h, ha]
  | some change =>
    cases hb : b.change? store s t records with
    | none => simp only [Option.map_none, Option.map_some, Option.bind_none, Option.bind_some,
        loaded?_after h, hb]
    | some change' =>
      simp only [Option.map_some, Option.bind_some, loaded?_after h, ha, hb]
      exact congrArg some (List.map_congr_left fun p _ => p.setRelation_comm hne _ _)

/-- A forest is loaded tree by tree. -/
theorem loaded?_cons (h : store.Settled) (records : List Record) (tree : Tree) (rest : List Tree) :
    loaded? store s t records (tree :: rest) =
      (tree.loaded? store s t records).bind fun mid => loaded? store s t mid rest := by
  unfold loaded? Tree.loaded?
  rw [run_loadForest_cons]
  rcases (loadTree store t records tree).run s with ⟨⟨mid, _ | fault⟩, s₁⟩
  · exact congrArg Loaded.whole? (h.steady.loadForest t mid rest s₁ s)
  · rfl

/-- The trees of a forest may be loaded in any order. -/
theorem loaded?_perm (h : store.Settled) {forest forest' : List Tree}
    (hperm : forest.Perm forest') (hnames : (forest.map Tree.name).Nodup) (records : List Record) :
    loaded? store s t records forest = loaded? store s t records forest' := by
  induction hperm generalizing records with
  | nil => rfl
  | cons tree _ ih =>
    rw [loaded?_cons h, loaded?_cons h]
    exact congrArg _ (funext (ih (List.nodup_cons.1 hnames).2))
  | swap a b rest =>
    have hne : b.name ≠ a.name := fun heq => by simp [heq] at hnames
    simp only [loaded?_cons h, ← Option.bind_assoc]
    rw [loaded?_comm h hne]
  | trans hperm _ ih ih' =>
    rw [ih hnames, ih' ((hperm.map _).nodup_iff.1 hnames)]

/-- In every session two tasks come to the same or both fail. -/
def SameSuccess (x y : Task τ σ α) : Prop :=
  ∀ s, (x.run.run s).1.toOption = (y.run.run s).1.toOption

theorem SameSuccess.after {f g : α → Task τ σ β} (h : ∀ a, SameSuccess (f a) (g a))
    (x : Task τ σ α) : SameSuccess (x >>= f) (x >>= g) := by
  intro s
  rw [Task.run_bind, Task.run_bind]
  rcases x.run.run s with ⟨fault | a, s'⟩
  · rfl
  · exact h a s'

theorem SameSuccess.map {x y : Task τ σ α} (h : SameSuccess x y) (g : α → β) :
    SameSuccess (do return g (← x)) (do return g (← y)) := by
  have hmap (x : Task τ σ α) (s : Session τ σ) :
      ((do return g (← x) : Task τ σ β).run.run s).1.toOption = (x.run.run s).1.toOption.map g := by
    rw [Task.run_bind]
    rcases x.run.run s with ⟨fault | a, s'⟩ <;> rfl
  intro s
  rw [hmap, hmap, h s]

theorem toOption_whole (x : StateM (Session τ σ) Loaded) (s : Session τ σ) :
    ((do
      let loaded ← Task.always x
      match loaded.fault with
      | some fault => throw fault
      | none => return loaded.records : Task τ σ (List Record)).run.run s).1.toOption =
        (x.run s).1.whole? := by
  rcases hx : x.run s with ⟨⟨records, _ | fault⟩, s'⟩
  · rw [Task.run_bind_ok (Task.run_always hx)]
    rfl
  · rw [Task.run_bind_ok (Task.run_always hx)]
    rfl

/-- Forests that come to the same below a relation come to the same related records. -/
theorem sameSuccess_loadBelow {below below' : List Tree}
    (hbelow : ∀ s t found, loaded? store s t found below = loaded? store s t found below')
    (f : Finder) : SameSuccess (loadBelow store below f) (loadBelow store below' f) := by
  refine SameSuccess.after (fun found s => ?_) (f.bare store)
  split
  · rfl
  · exact (toOption_whole _ s).trans ((hbelow s f.type found).trans (toOption_whole _ s).symm)

theorem sameSuccess_results (store : Store τ σ) {get get' : Finder → Task τ σ (List Record)}
    (hget : ∀ f, SameSuccess (get f) (get' f)) (b : Batch) :
    SameSuccess (b.results store get) (b.results store get') := by
  unfold Batch.results
  split
  · exact fun _ => rfl
  · dsimp only
    split
    · refine SameSuccess.after (fun rows => SameSuccess.after (fun _ => ?_) _) _
      split
      · exact fun _ => rfl
      · exact (hget _).map _
    · exact (hget _).map _

/-- Trees of one relation that have the same loaded below them come to the same. -/
theorem change?_below {below below' : List Tree}
    (hbelow : ∀ s t found, loaded? store s t found below = loaded? store s t found below')
    (relation : String) (steps : List FinderStep) (records : List Record) :
    Tree.change? store s t records (.node relation steps below) =
      Tree.change? store s t records (.node relation steps below') := by
  have hget := sameSuccess_loadBelow hbelow
  rw [Tree.change?, Tree.change?]
  cases t.relation relation with
  | error fault => rfl
  | ok r =>
    have hresults := sameSuccess_results store hget (batch store r steps records).value s
    dsimp only
    rw [hresults]

theorem loaded?_map_congr (h : store.Settled) {tree tree' : α → Tree} {as : List α}
    (hsame : ∀ a ∈ as, ∀ records,
      (tree a).loaded? store s t records = (tree' a).loaded? store s t records)
    (records : List Record) :
    loaded? store s t records (as.map tree) = loaded? store s t records (as.map tree') := by
  induction as generalizing records with
  | nil => rfl
  | cons a as ih =>
    have hrest := funext (ih fun a' ha' => hsame a' (List.mem_cons_of_mem _ ha'))
    simp only [List.map_cons, loaded?_cons h, hsame a List.mem_cons_self, hrest]

/-- Plans with the same entries come to the same, in whatever order the entries are. -/
theorem loaded?_forest_perm (h : store.Settled) {p q : LoadPlan}
    (hperm : p.entries.Perm q.entries) (hp : p.paths.Nodup) (s : Session τ σ) (t : ObjectType)
    (records : List Record) :
    loaded? store s t records p.forest = loaded? store s t records q.forest := by
  -- On the weight, as the plan below a relation is lighter than the plan it comes from.
  induction hn : p.weight using Nat.strongRecOn generalizing p q s t records with
  | ind n ih =>
    have hbelow : ∀ e ∈ p.topLevel, ∀ records,
        (Tree.node e.1 e.2 (p.child e.1 e.2).forest).loaded? store s t records =
          (Tree.node e.1 e.2 (q.child e.1 e.2).forest).loaded? store s t records := by
      intro e he records
      have hlight := weight_child (List.mem_filter.1 he).1
      have hchild (s : Session τ σ) (t : ObjectType) (found : List Record) :=
        ih _ (hn ▸ hlight) (child_perm hperm hp e.1 e.2) (nodup_child p e.1 e.2) s t found rfl
      rw [loaded?_eq_change? h, loaded?_eq_change? h, change?_below hchild]
      rfl
    have htop : (p.topLevel.map fun e => Tree.node e.1 e.2 (q.child e.1 e.2).forest).Perm
        (q.topLevel.map fun e => Tree.node e.1 e.2 (q.child e.1 e.2).forest) :=
      (topLevel_perm hperm).map _
    have hnames : ((p.topLevel.map fun e =>
        Tree.node e.1 e.2 (q.child e.1 e.2).forest).map Tree.name).Nodup := by
      rw [List.map_map]
      exact nodup_topLevel hp
    rw [forest_eq, forest_eq, loaded?_map_congr h hbelow]
    exact loaded?_perm h htop hnames records

/-- The order of the entries of a plan makes no difference to whether it is loaded, nor to the
records then, whatever was asked before. -/
theorem load_perm (h : store.Settled) {p q : LoadPlan} (hperm : p.entries.Perm q.entries)
    (hp : p.paths.Nodup) (t : ObjectType) (records : List Record) (s s' : Session τ σ) :
    let loaded := ((p.load store t records).run s).1
    let loaded' := ((q.load store t records).run s').1
    (loaded.fault = none ↔ loaded'.fault = none) ∧
      (loaded.fault = none → loaded.records = loaded'.records) := by
  intro loaded loaded'
  have hwhole : loaded.whole? = loaded'.whole? := by
    unfold loaded loaded' load
    split
    · rfl
    · exact (loaded?_forest_perm h hperm hp s t records).trans
        (congrArg Loaded.whole? (h.steady.loadForest t records q.forest s s'))
  cases hfault : loaded.fault with
  | none =>
    have hsome := Loaded.whole?_eq_some.2 ⟨hfault, rfl⟩
    obtain ⟨hfault', hrecords⟩ := Loaded.whole?_eq_some.1 (hwhole ▸ hsome)
    exact ⟨iff_of_true rfl hfault', fun _ => hrecords.symm⟩
  | some fault =>
    refine ⟨iff_of_false (nomatch ·) fun hfault' => ?_, (nomatch ·)⟩
    have hsome := Loaded.whole?_eq_some.2 ⟨hfault', rfl⟩
    have hnone := (Loaded.whole?_eq_some.1 (hwhole.trans hsome)).1
    rw [hfault] at hnone
    exact nomatch hnone

end LoadPlan

namespace Crm

def oneRow : Store Unit Unit where
  transport := {
    instanceUrl := ""
    query := fun _ _ u => (.ok (.last [[("Id", .text "001"), ("AccountId", .text "001")]]), u)
    request := fun _ _ u => (.error (.transport "refused"), u) }
  schemas := ⟨fun object u => pure (.ok ⟨object, [("Id", .text), ("AccountId", .text)]⟩, u)⟩
  settings := .default
  catalog := catalog

/-- Two relations of accounts, the first with a step of its own and with a relation below it. -/
def twoRelations : LoadPlan :=
  ⟨[("Contacts", [.query (.limit 5)]), ("Contacts.Account", []), ("PrimaryContact", [])]⟩

/-- The relations are loaded in either order, to the same. -/
theorem loaded_backwards :
    oneRow.Settled ∧ twoRelations.entries.Perm twoRelations.entries.reverse ∧
    twoRelations.paths.Nodup ∧
    let records := [Record.ofAttributes "Account" [("Id", .text "001")]]
    let loaded := ((twoRelations.load oneRow account records).run ⟨(), (), []⟩).1
    let loaded' := ((LoadPlan.load oneRow account ⟨twoRelations.entries.reverse⟩ records).run
      ⟨(), (), []⟩).1
    loaded.fault = none ∧ loaded'.fault = none ∧ loaded.records = loaded'.records := by
  have hsettled : oneRow.Settled := ⟨fun _ _ _ _ => rfl, fun _ _ _ _ => rfl, fun _ _ _ => rfl⟩
  have hperm : twoRelations.entries.Perm twoRelations.entries.reverse :=
    (List.reverse_perm _).symm
  have hnodup : twoRelations.paths.Nodup := by decide
  refine ⟨hsettled, hperm, hnodup, ?_⟩
  intro records loaded loaded'
  obtain ⟨hiff, hsame⟩ := LoadPlan.load_perm (q := ⟨twoRelations.entries.reverse⟩) hsettled hperm
    hnodup account records ⟨(), (), []⟩ ⟨(), (), []⟩
  have hloaded : loaded.fault = none := by with_unfolding_all rfl
  exact ⟨hloaded, hiff.1 hloaded, hsame hloaded⟩

end Crm

end RecordQuery
