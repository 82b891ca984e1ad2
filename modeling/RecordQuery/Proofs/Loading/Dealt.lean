import RecordQuery.Proofs.Loading.Table

namespace RecordQuery.Batch

variable {b : Batch}

/-- The results that have the key of a parent, in their order. Results with another key or with none
are passed over, and a parent without a key has no results. -/
def matching (b : Batch) (results : List Record) (parent : Record) : List Record :=
  match parent.key b.relation.linkage.parentKey with
  | none => []
  | some key => results.filter fun r => r.key b.relation.linkage.relatedKey == some key

/-- What a parent is to have of a relation without a junction: all the results that match it, or the
first of them if there is any. -/
def matched (b : Batch) (results : List Record) (parent : Record) : Related Record :=
  match b.relation.linkage with
  | .belongsTo .. | .hasOne .. => .one (b.matching results parent).head?
  | .hasMany .. | .manyToMany .. => .many (b.matching results parent)

theorem matched_eq (b : Batch) (results : List Record) (parent : Record) :
    b.matched results parent =
      .ofList b.relation.linkage.isToOne (b.matching results parent) := by
  unfold matched
  cases b.relation.linkage <;> rfl

/-- A parent without a key gets what every parent has before the results are there. -/
theorem matched_of_no_key {parent : Record}
    (h : parent.key b.relation.linkage.parentKey = none) (results : List Record) :
    b.matched results parent = .nothing b.relation.linkage.isToOne := by
  have hnone : b.matching results parent = [] := by rw [matching, h]
  rw [matched_eq, hnone]
  rfl

theorem related_eq_matched (hl : b.relation.linkage.isDirect) (results : List Record)
    (parent : Record) : b.related (b.dictionary results) parent = b.matched results parent :=
  (related_dictionary_direct hl results parent).trans (matched_eq b results parent).symm

/-- Dealing out sets the relation of each parent, and nothing else. -/
theorem kept_deal (b : Batch) (d : Dictionary) (parents : List Record) :
    List.Forall₂ (fun before after => LoadPlan.Kept [b.relation.name] before after ∧
        after.relation? b.relation.name = some (b.related d before))
      parents (b.deal d parents) := by
  rw [deal, List.forall₂_map_right_iff, List.forall₂_same]
  intro parent _
  have hkept := LoadPlan.Kept.setRelation parent b.relation.name (b.related d parent)
  refine ⟨hkept, ?_⟩
  rw [Record.relation?_setRelation, if_pos rfl]

/-- Results that are put into a dictionary and dealt out from it come to each parent by its key; a
parent without a key gets nothing of the relation. The parents stay in their places, with what they
had beside this relation. -/
theorem deal_dictionary (hl : b.relation.linkage.isDirect) (results parents : List Record) :
    List.Forall₂ (fun before after => LoadPlan.Kept [b.relation.name] before after ∧
        after.relation? b.relation.name = some (b.matched results before) ∧
        (before.key b.relation.linkage.parentKey = none →
          after.relation? b.relation.name = some (.nothing b.relation.linkage.isToOne)))
      parents (b.deal (b.dictionary results) parents) := by
  refine (kept_deal b (b.dictionary results) parents).imp fun before after ⟨hkept, hset⟩ => ?_
  rw [related_eq_matched hl] at hset
  refine ⟨hkept, hset, fun hnone => ?_⟩
  rw [hset, matched_of_no_key hnone]

end RecordQuery.Batch

namespace RecordQuery.Crm

def contactBatch : Batch := .new catalog .default accountContacts

def contactResults : List Record := [
  .ofAttributes "Contact" [("Id", .text "C1"), ("AccountId", .text "001")],
  .ofAttributes "Contact" [("Id", .text "C2"), ("AccountId", .text "009")],
  .ofAttributes "Contact" [("Id", .text "C3"), ("AccountId", .null)],
  .new "Contact",
  .ofAttributes "Contact" [("Id", .text "C4"), ("AccountId", .text "001")]]

/-- The first account gets its two contacts each time it is there. -/
theorem contacts_dealt :
    contactBatch.relation.linkage.isDirect ∧
    (accountBatch.map (contactBatch.matching contactResults)).map (·.map (·.value "Id")) =
      [[.text "C1", .text "C4"], [], [], [.text "C1", .text "C4"]] ∧
    List.Forall₂ (fun before after => LoadPlan.Kept ["Contacts"] before after ∧
        after.relation? "Contacts" = some (contactBatch.matched contactResults before) ∧
        (before.key "Id" = none → after.relation? "Contacts" = some (.many [])))
      accountBatch (contactBatch.deal (contactBatch.dictionary contactResults) accountBatch) := by
  have hdealt := Batch.deal_dictionary (b := contactBatch) rfl contactResults accountBatch
  exact ⟨rfl, by with_unfolding_all rfl, hdealt⟩

end RecordQuery.Crm
