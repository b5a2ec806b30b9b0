import ReportQuery.Proofs.Relation.RawEdge

/-!
# The graph of a file

A file is read in stages: its octets are a text, the text is a JSON document, the document has a
list of edges, each element of the list is an edge, and each table has a name. Each stage takes all
or nothing, so a graph that is loaded has exactly one edge for each element (`Directory.WritesOut`),
and a load that fails has no graph.

## Errors that are told

Most failures are told: the error has a wording, and whoever loads the graph passes it on
(`LoadError.IsTold`). Two are not. Octets that are no text are found while the file is read, where
only failures of the file and of the JSON syntax are expected; and whether a value can name a table
is found only when the graph puts it into its table of neighbours, after every element has been
accepted as an edge. `LoadOutcome` says what the file holds in these two cases, and that every other
file is loaded or told of.

What a file holds is what its text means as JSON. An interpreter may give up earlier, on lists that
are nested too deeply or on numerals of thousands of digits; these limits are its configuration and
are left out, as they are in `Json.read`.
-/

namespace ReportQuery

namespace Relation

/-! ### What is told -/

/-- The error has a wording. Octets that are no text, a row that is no record and a table without a
name have none. -/
def LoadError.IsTold : LoadError → Prop
  | .unreadable _ .notUtf8 | .rowNotRecord | .tableNotNamed => False
  | _ => True

end Relation

open ReportQuery.Relation

/-! ### What a file holds -/

namespace Directory

variable (d : Directory) (path : String)

/-- The file holds octets that are no text. -/
def HoldsNoText : Prop :=
  ∃ content, d.lookup path = .bytes content ∧ ¬ content.IsValidUTF8

/-- The file holds a JSON document with this list of edges. -/
def HoldsEdgeList (items : List Value) : Prop :=
  ∃ content text fields, d.lookup path = .bytes content ∧ File.readText content = some text ∧
    Json.read text = .ok (.record fields) ∧ fields.lookup "edges" = some (.list items)

/-- The file holds a list of edges in which all elements are edges, and one of them has a table
that no scalar names. -/
def HoldsUnnamedTable : Prop :=
  ∃ items raws, d.HoldsEdgeList path items ∧ List.Forall₂ Gives items raws ∧
    ∃ r ∈ raws, ¬ r.IsNamed

/-- The file holds the edges of the graph: its elements are these, one for one and in order. -/
def WritesOut (g : Graph) : Prop :=
  ∃ items, d.HoldsEdgeList path items ∧ List.Forall₂ Gives items (g.edges.map Edge.raw)

end Directory

variable {d : Directory} {path : String} {document : Value} {items : List Value} {e : LoadError}

/-- Octets have no text exactly when they are not valid in UTF-8. -/
theorem File.readText_eq_none_iff {content : ByteArray} :
    readText content = none ↔ ¬ content.IsValidUTF8 := by
  rw [readText, Option.map_eq_none_iff, String.fromUTF8?]
  split <;> simp [*]

/-- A document is read from a file exactly when the octets are a text and the text is one. -/
theorem File.readDocument_eq_ok_iff : readDocument d path = .ok document ↔
    ∃ content text, d.lookup path = .bytes content ∧ readText content = some text ∧
      Json.read text = .ok document := by
  rw [readDocument]
  cases d.lookup path with
  | bytes content =>
    cases htext : readText content with
    | none => simp [htext]
    | some text =>
      cases hread : Json.read text <;> simp [htext, hread, Except.mapError]
  | _ => simp

/-- The reading fails on the octets exactly when the file holds no text. -/
theorem File.readDocument_eq_notUtf8_iff :
    readDocument d path = .error .notUtf8 ↔ d.HoldsNoText path := by
  simp only [Directory.HoldsNoText, ← File.readText_eq_none_iff]
  rw [readDocument]
  cases d.lookup path with
  | bytes content =>
    cases htext : readText content with
    | none => simp [htext]
    | some text =>
      cases hread : Json.read text <;> simp [htext, hread, Except.mapError]
  | _ => simp

namespace Relation

/-- The parts of a document are found exactly when it is a record with a list of edges; the version
may be missing. -/
theorem documentParts_eq_ok_iff {version : Value} :
    documentParts path document = .ok (items, version) ↔ ∃ fields, document = .record fields ∧
      fields.lookup "edges" = some (.list items) ∧
      (fields.lookup "version").getD (.text "unversioned") = version := by
  cases document with
  | record fields =>
    simp only [documentParts, Value.record.injEq, exists_eq_left']
    split <;> simp_all
  | _ => simp [documentParts]

/-- What is not such a record is refused for the one reason that there is no list of edges. -/
theorem documentParts_eq_error {path : String} (h : documentParts path document = .error e) :
    e = .noEdgeList path := by
  unfold documentParts at h
  split at h
  · split at h
    · cases h
    · cases h
      rfl
  · cases h
    rfl

/-- The graph in a file, by the stages in which it is read. -/
theorem value_ofFile (d : Directory) (path : String) : (Graph.ofFile d path).value =
    (do
      let document ← (File.readDocument d path).mapError (.unreadable path)
      let parts ← documentParts path document
      let edges ← readEdges path parts.1
      Graph.ofRaw edges) := by
  rw [Graph.ofFile]
  cases File.readDocument d path with
  | error fault => rfl
  | ok document =>
    cases hparts : documentParts path document with
    | error e => simp [hparts, Except.mapError, bind, Except.bind]
    | ok parts =>
      cases hedges : readEdges path parts.1 <;>
        simp [hparts, hedges, Except.mapError, bind, Except.bind]

/-- The first two stages give the list of edges. -/
theorem holdsEdgeList_iff : d.HoldsEdgeList path items ↔ ∃ document,
    File.readDocument d path = .ok document ∧
      ∃ version, documentParts path document = .ok (items, version) := by
  simp only [File.readDocument_eq_ok_iff, documentParts_eq_ok_iff]
  constructor
  · rintro ⟨content, text, fields, hcontent, htext, hread, hedges⟩
    exact ⟨_, ⟨content, text, hcontent, htext, hread⟩, _, fields, rfl, hedges, rfl⟩
  · rintro ⟨_, ⟨content, text, hcontent, htext, hread⟩, _, fields, rfl, hedges, -⟩
    exact ⟨content, text, fields, hcontent, htext, hread, hedges⟩

variable {raws : List RawEdge} {g : Graph}

/-- **A file is loaded exactly when it holds the edges of the graph.** -/
theorem ofFile_eq_ok_iff : (Graph.ofFile d path).value = .ok g ↔ d.WritesOut path g := by
  simp only [value_ofFile, bind_eq_ok_iff, mapError_eq_ok_iff, readEdges_eq_ok_iff,
    ofRaw_eq_ok_iff, exists_eq_right, Directory.WritesOut, holdsEdgeList_iff]
  constructor
  · rintro ⟨document, hdocument, ⟨items, version⟩, hparts, hgives⟩
    exact ⟨items, ⟨document, hdocument, version, hparts⟩, hgives⟩
  · rintro ⟨items, ⟨document, hdocument, version, hparts⟩, hgives⟩
    exact ⟨document, hdocument, (items, version), hparts, hgives⟩

/-- A load that fails does so at one of its stages. -/
theorem ofFile_eq_error_cases (h : (Graph.ofFile d path).value = .error e) :
    (∃ fault, File.readDocument d path = .error fault ∧ e = .unreadable path fault) ∨
    e = .noEdgeList path ∨ (∃ raw fault, e = .invalidEdge raw path fault) ∨
    (e = .tableNotNamed ∧ d.HoldsUnnamedTable path) := by
  rw [value_ofFile, bind_eq_error_iff] at h
  rcases h with h | ⟨document, hdocument, h⟩
  · obtain ⟨fault, hfault, rfl⟩ := mapError_eq_error_iff.1 h
    exact .inl ⟨fault, hfault, rfl⟩
  rw [mapError_eq_ok_iff] at hdocument
  rcases bind_eq_error_iff.1 h with h | ⟨⟨items, version⟩, hparts, h⟩
  · exact .inr (.inl (documentParts_eq_error h))
  rcases bind_eq_error_iff.1 h with h | ⟨raws, hraws, h⟩
  · exact .inr (.inr (.inl (readEdges_eq_error h)))
  obtain ⟨rfl, hunnamed⟩ := ofRaw_eq_error_iff.1 h
  have hlist := holdsEdgeList_iff.2 ⟨document, hdocument, version, hparts⟩
  exact .inr (.inr (.inr ⟨rfl, items, raws, hlist, readEdges_eq_ok_iff.1 hraws, hunnamed⟩))

/-- Loading breaks off exactly where the file holds no text. -/
theorem ofFile_eq_notUtf8_iff :
    (Graph.ofFile d path).value = .error (.unreadable path .notUtf8) ↔ d.HoldsNoText path := by
  rw [← File.readDocument_eq_notUtf8_iff]
  constructor
  · intro h
    rcases ofFile_eq_error_cases h with ⟨fault, hfault, he⟩ | he | ⟨_, _, he⟩ | ⟨he, -⟩
    · cases he
      exact hfault
    all_goals cases he
  · intro h
    rw [value_ofFile, h]
    rfl

/-- Loading fails on the name of a table exactly where every edge can be read and one of them names
a table by something that is no name. -/
theorem ofFile_eq_tableNotNamed_iff :
    (Graph.ofFile d path).value = .error .tableNotNamed ↔ d.HoldsUnnamedTable path := by
  constructor
  · intro h
    rcases ofFile_eq_error_cases h with ⟨_, _, he⟩ | he | ⟨_, _, he⟩ | ⟨-, hunnamed⟩
    · cases he
    · cases he
    · cases he
    · exact hunnamed
  · rintro ⟨items, raws, hlist, hgives, hunnamed⟩
    obtain ⟨document, hdocument, version, hparts⟩ := holdsEdgeList_iff.1 hlist
    have hraws : readEdges path items = .ok raws := readEdges_eq_ok_iff.2 hgives
    have hraw : Graph.ofRaw raws = .error .tableNotNamed := ofRaw_eq_error_iff.2 ⟨rfl, hunnamed⟩
    rw [value_ofFile, hdocument]
    show (documentParts path document >>= _) = _
    rw [hparts]
    show (readEdges path items >>= _) = _
    rw [hraws]
    exact hraw

/-- What loading a file comes to. The graph has exactly the edges of the file; octets that are no
text and tables without a name are the only things that are not told; and every other file is
loaded or told of. Limits of an interpreter on depth and digits are not among the outcomes. -/
structure LoadOutcome (d : Directory) (path : String)
    (outcome : Except LoadError Graph) : Prop where
  loaded_iff : ∀ g, outcome = .ok g ↔ d.WritesOut path g
  notUtf8_iff : outcome = .error (.unreadable path .notUtf8) ↔ d.HoldsNoText path
  tableNotNamed_iff : outcome = .error .tableNotNamed ↔ d.HoldsUnnamedTable path
  loaded_or_told_iff : ((∃ g, outcome = .ok g) ∨ ∃ e, outcome = .error e ∧ e.IsTold) ↔
    ¬ d.HoldsNoText path ∧ ¬ d.HoldsUnnamedTable path

theorem loadOutcome_ofFile (d : Directory) (path : String) :
    LoadOutcome d path (Graph.ofFile d path).value where
  loaded_iff _ := ofFile_eq_ok_iff
  notUtf8_iff := ofFile_eq_notUtf8_iff
  tableNotNamed_iff := ofFile_eq_tableNotNamed_iff
  loaded_or_told_iff := by
    rw [← ofFile_eq_notUtf8_iff, ← ofFile_eq_tableNotNamed_iff]
    rcases hvalue : (Graph.ofFile d path).value with e | g
    · constructor
      · rintro (⟨_, h⟩ | ⟨_, h, htold⟩)
        · cases h
        · cases h
          constructor
          · rintro h
            cases h
            exact htold
          · rintro h
            cases h
            exact htold
      · rintro ⟨hutf8, hnamed⟩
        refine .inr ⟨e, rfl, ?_⟩
        rcases ofFile_eq_error_cases hvalue with ⟨fault, _, rfl⟩ | rfl | ⟨_, _, rfl⟩ | ⟨rfl, -⟩
        · cases fault with
          | notUtf8 => exact hutf8 rfl
          | _ => trivial
        · trivial
        · trivial
        · exact hnamed rfl
    · exact iff_of_true (.inl ⟨g, rfl⟩) ⟨by simp, by simp⟩

/-- **Loading from a file** is reading the graph in it, and comes to a graph with exactly the edges
of the file or to an error that is told, unless the file holds octets that are no text or a table
that no scalar names. -/
theorem load_file_outcome (s : Supplies) (path : String) :
    (load (.text "file") { s with path := some path }).value =
      (Graph.ofFile s.directory path).value ∧
    LoadOutcome s.directory path (Graph.ofFile s.directory path).value := by
  refine ⟨?_, loadOutcome_ofFile s.directory path⟩
  have hknown : (Vocabulary.ofWord? "file" : Option Source) = some .file := by decide
  simp only [load, hknown, Source.graph, Logged.andThen]
  cases (Graph.ofFile s.directory path).value <;> rfl

/-! ### Errors that are not told -/

/-- The error of an outcome that is no value. -/
def errorOf? {α : Type} : Except LoadError α → Option LoadError
  | .ok _ => none
  | .error e => some e

theorem eq_error_of_errorOf? {α : Type} {outcome : Except LoadError α}
    (h : errorOf? outcome = some e) : outcome = .error e := by
  cases outcome with
  | ok a => cases h
  | error e' => rw [Option.some.inj h]

/-- A directory whose graph is one octet, with which no character begins. -/
def octetDirectory : Directory :=
  .ofFiles [("graph.json", ⟨#[0xff]⟩)]

/-- A directory whose graph has one edge, the owner of which is a list. -/
def listOwnerDirectory : Directory :=
  .ofFiles [("graph.json", ("\x7b\"edges\": [\x7b\"owner_table\": [], " ++
    "\"referenced_table\": \"stores\", \"fk_column\": \"store_id\"\x7d]\x7d").toUTF8)]

/-- **Two files that are neither loaded nor told of.** -/
theorem load_file_untold :
    (load (.text "file") { directory := octetDirectory, path := some "graph.json" }).value =
      .error (.unreadable "graph.json" .notUtf8) ∧
    (load (.text "file") { directory := listOwnerDirectory, path := some "graph.json" }).value =
      .error .tableNotNamed ∧
    ¬ (LoadError.unreadable "graph.json" .notUtf8).IsTold ∧ ¬ LoadError.tableNotNamed.IsTold :=
  ⟨eq_error_of_errorOf? (by decide +kernel), eq_error_of_errorOf? (by decide +kernel), id, id⟩

end Relation

end ReportQuery
