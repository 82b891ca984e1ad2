import RecordQuery.Wire.Page

namespace RecordQuery.Page

open Json

/-- A page is read as it is from a response that it was written into. -/
def ReadsBack (page : Page) : Prop := (Response.ok page.toJson.toText).page = .ok page

/-- The document of a last page. -/
def lastDocument (rows : List Document) (count : WireInt) : Document :=
  .object [(some "records", .array rows), (some "done", .bool true),
    (some "totalSize", .number (some (.int count)))]

theorem ofDocument?_lastDocument {documents : List Document} {rows : List Row}
    (hrows : documents.mapM (Document.row? (maxDepth - 2)) = some rows) {count : WireInt}
    (hcount : 0 ≤ count.val) :
    ofDocument? (lastDocument documents count) =
      some ⟨rows, true, none, some (UInt64.ofNat count.val.toNat)⟩ := by
  have hmembers : (lastDocument documents count).known? memberNames =
      some [some (.array documents), some (.bool true), none,
        some (.number (some (.int count)))] := rfl
  have hlist : Document.list? (Document.row? (maxDepth - 2)) (.array documents) = some rows := hrows
  have hnumber : (Document.number (some (.int count))).count? = some count.val.toNat := by
    rw [Document.count?, if_pos hcount]
  unfold ofDocument?
  rw [hmembers]
  change (Document.list? _ _).bind _ = _
  rw [hlist]
  change (((Document.number (some (.int count))).count?.map UInt64.ofNat).map some).bind _ = _
  rw [hnumber]
  rfl

/-- A last page is read back if its text spells a document whose rows are its own. -/
theorem readsBack_last {rows : List Row} {documents : List Document} {count : WireInt}
    (htext : Document.ofText? (last rows).toJson.toText = some (lastDocument documents count))
    (hrows : documents.mapM (Document.row? (maxDepth - 2)) = some rows)
    (hcount : count.val = rows.length) : (last rows).ReadsBack := by
  have hpage : ofDocument? (lastDocument documents count) = some (last rows) := by
    rw [ofDocument?_lastDocument hrows (by omega), hcount]
    rfl
  have hread : (Document.ofText? (Response.ok (last rows).toJson.toText).body).bind ofDocument? =
      some (last rows) := by
    rw [Response.ok, htext, Option.bind_some, hpage]
  have hsuccess : (Response.ok (last rows).toJson.toText).isSuccess = true := rfl
  rw [ReadsBack, Response.page, if_pos hsuccess, hread]

end RecordQuery.Page
