import RecordQuery.Entity.Basic

namespace RecordQuery.Crm

def account : ObjectType := ⟨"Account", "Id", [
  ⟨"Contacts", "Contact", .hasMany "AccountId" "Id"⟩,
  ⟨"Opportunities", "Opportunity", .hasMany "AccountId" "Id"⟩,
  ⟨"PrimaryContact", "Contact", .hasOne "AccountId" "Id"⟩,
  ⟨"Owner", "User", .belongsTo "OwnerId" "Id"⟩]⟩

def contact : ObjectType := ⟨"Contact", "Id", [
  ⟨"Account", "Account", .belongsTo "AccountId" "Id"⟩,
  ⟨"Campaigns", "Campaign", .manyToMany "CampaignMember" "ContactId" "CampaignId" "Id" "Id"⟩,
  ⟨"Cases", "Case", .hasMany "ContactId" "Id"⟩]⟩

def opportunity : ObjectType := ⟨"Opportunity", "Id", [
  ⟨"Account", "Account", .belongsTo "AccountId" "Id"⟩]⟩

def campaign : ObjectType := ⟨"Campaign", "Id", [
  ⟨"Contacts", "Contact", .manyToMany "CampaignMember" "CampaignId" "ContactId" "Id" "Id"⟩]⟩

def case : ObjectType := ⟨"Case", "Id", [
  ⟨"Contact", "Contact", .belongsTo "ContactId" "Id"⟩]⟩

def user : ObjectType := ⟨"User", "Id", []⟩

def catalog : Catalog := ⟨[account, contact, opportunity, campaign, case, user]⟩

/-- The schema of every object, the junction included. -/
def schemas : List Schema := [
  ⟨"Account", [("Id", .text), ("Name", .text), ("OwnerId", .text), ("Industry", .text),
    ("AnnualRevenue", .other), ("IsDeleted", .boolean), ("CreatedDate", .dateTime)]⟩,
  ⟨"Contact", [("Id", .text), ("AccountId", .text), ("FirstName", .text), ("LastName", .text),
    ("Email", .text), ("Birthdate", .date), ("HasOptedOutOfEmail", .boolean)]⟩,
  ⟨"Opportunity", [("Id", .text), ("AccountId", .text), ("Name", .text), ("StageName", .text),
    ("Amount", .other), ("CloseDate", .date), ("IsWon", .boolean)]⟩,
  ⟨"Campaign", [("Id", .text), ("Name", .text), ("IsActive", .boolean)]⟩,
  ⟨"CampaignMember", [("Id", .text), ("ContactId", .text), ("CampaignId", .text)]⟩,
  ⟨"Case", [("Id", .text), ("ContactId", .text), ("Subject", .text), ("Status", .text),
    ("IsClosed", .boolean)]⟩,
  ⟨"User", [("Id", .text), ("Name", .text), ("IsActive", .boolean)]⟩]

/-- The schemas as a source behind a memory. -/
def schemaSource : SchemaSource (SchemaMemo Nat) := (SchemaTable.ofList schemas).source.memorised

/-- Nothing has been looked up. -/
def noSchemas : SchemaMemo Nat := ⟨0, .empty⟩

structure Contact where
  id : String
  accountId : Option String
  lastName : Option String
  email : Option String

structure Opportunity where
  id : String
  accountId : Option String
  name : Option String
  amount : Option Float
  isWon : Option Bool

/-- An account with the contacts and opportunities that were loaded with it. -/
structure Account where
  id : String
  name : Option String
  ownerId : Option String
  contacts : List Contact
  opportunities : List Opportunity

private def optional (r : Record) (read : Value → Except Fault α) (field : String) :
    Except Fault (Option α) :=
  (r.value field).readOptional read

/-- The values of the records of a relation; a relation that is not loaded has none. -/
private def relatedValues (r : Record) (e : Entity α) (relation : String) :
    Except Fault (List α) :=
  e.ofRecords (((r.relation? relation).map Related.records).getD [])

def contacts : Entity Contact where
  type := contact
  ofRecord r := do
    return {
      id := ← r.read Value.readText "Id"
      accountId := ← optional r Value.readText "AccountId"
      lastName := ← optional r Value.readText "LastName"
      email := ← optional r Value.readText "Email" }

def opportunities : Entity Opportunity where
  type := opportunity
  ofRecord r := do
    return {
      id := ← r.read Value.readText "Id"
      accountId := ← optional r Value.readText "AccountId"
      name := ← optional r Value.readText "Name"
      amount := ← optional r Value.readFloat "Amount"
      isWon := ← optional r Value.readBool "IsWon" }

def accounts : Entity Account where
  type := account
  ofRecord r := do
    return {
      id := ← r.read Value.readText "Id"
      name := ← optional r Value.readText "Name"
      ownerId := ← optional r Value.readText "OwnerId"
      contacts := ← relatedValues r contacts "Contacts"
      opportunities := ← relatedValues r opportunities "Opportunities" }

end RecordQuery.Crm
