import ReportQuery.Database

/-!
# Values as documents

A document holds null, truth values, numbers, texts, lists and records, and nothing else. Every
other value stands in a document as its text: a decimal number with all its digits, a moment in
its written form of interchange, with the letter Z for universal time. A number that is not
finite is null there. A cell that is no value may have no document at all, and then its row has
none either.

A document is sent in UTF-8. That fails when one of its texts, a key perhaps, has half of a
surrogate pair in it.
-/

namespace ReportQuery

/-- The written form of a timestamp in a document. -/
def Timestamp.documentText (t : Timestamp) : String :=
  if t.offset = some 0 then { t with offset := none }.iso ++ "Z" else t.iso

namespace Value

mutual

/-- The value as it stands in a document. -/
def toDocument : Value → Value
  | .float x => if x.isFinite then .float x else .null
  | .decimal d => .text d.text
  | .date d => .text d.iso
  | .time t => .text t.iso
  | .timestamp t => .text t.documentText
  | .list items => .list (toDocuments items)
  | .record fields => .record (toDocumentFields fields)
  | .column table name =>
    .record [("kind", .text "column"), ("table", .text table), ("column", .text name)]
  | .literal v => .record [("kind", .text "literal"), ("value", toDocument v)]
  | v => v

/-- The elements of a list as they stand in a document. -/
def toDocuments : List Value → List Value
  | [] => []
  | v :: vs => toDocument v :: toDocuments vs

/-- The fields of a record as they stand in a document. -/
def toDocumentFields : List (String × Value) → List (String × Value)
  | [] => []
  | (key, v) :: rest => (key, toDocument v) :: toDocumentFields rest

end

mutual

/-- The texts in a value, keys included. -/
def texts : Value → List String
  | .text s => [s]
  | .list items => textsOfItems items
  | .record fields => textsOfFields fields
  | .column table name => [table, name]
  | .literal v => texts v
  | _ => []

/-- The texts in the elements of a list. -/
def textsOfItems : List Value → List String
  | [] => []
  | v :: vs => texts v ++ textsOfItems vs

/-- The texts in the fields of a record. -/
def textsOfFields : List (String × Value) → List String
  | [] => []
  | (key, v) :: rest => key :: texts v ++ textsOfFields rest

end

/-- The document can be sent. -/
def isSendable (v : Value) : Bool :=
  v.texts.all fun s ↦ !Text.hasHalf s

end Value

/-- The document of a cell, if it has one. -/
def Cell.document? : Cell → Option Value
  | .value v => some v.toDocument
  | .object o => o.document

/-- The document of a row, provided that each cell has one. -/
def Row.document? (row : Row) : Option Value :=
  (row.mapM fun (entry : String × Cell) ↦ entry.2.document?.map (entry.1, ·)).map .record

end ReportQuery
