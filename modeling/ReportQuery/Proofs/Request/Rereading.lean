import ReportQuery.Proofs.Document
import ReportQuery.Request.Decode

/-!
# Reading a request again

A request that was read can be written down as a record with all its fields, under the names that
they have in the request, with each word of a vocabulary as a text. That record is read as the same
request (`Request.ofValue_idempotent`), so reading is a fixed point after one step: blanks,
spellings of words and other keys for a field are gone, and what is left is taken as it stands.

The one thing that reading changes and writing could bring back is an empty column of an
aggregation, which counts as left out. A request that was read has none
(`Aggregation.column_ne_of_ofValue`).

The values that filters and conditions on groups compare with are not changed at all. This is said
against the document: `FilterValue.HeldBy` lists the forms in which a part of a document holds a
value, and a filter is read with the one value that its part holds
(`FilterValue.ofValue_eq_ok_iff`).
-/

namespace ReportQuery

open Checked
open Value (ofOptional ofParts ofWord)

/-! ### Words that are read as they stand -/

/-- The text is in upper case, with single spaces between its words, of which there are some. -/
def Text.IsUpperWords (s : String) : Prop :=
  s ≠ "" ∧ upper ([' '].intercalate (words s.toList)) = s.toList

instance (s : String) : Decidable (Text.IsUpperWords s) :=
  inferInstanceAs (Decidable (_ ∧ _))

/-- A text in upper case, with single spaces between its words, is left as it is. -/
theorem Value.upperWords_text {s : String} (h : Text.IsUpperWords s) :
    (text s).upperWords = .text s := by
  obtain ⟨hne, hs⟩ := h
  have hlist : s.toList.isEmpty = false := by simpa using hne
  simp only [upperWords, hs, hlist, String.ofList_toList, Bool.false_eq_true, if_false]

/-- A vocabulary whose words are in upper case, each for one member. -/
class UpperVocabulary (α : Type) [Vocabulary α] : Prop where
  isUpperWords : ∀ a : α, Text.IsUpperWords (word a)
  ofWord?_word : ∀ a : α, Vocabulary.ofWord? (word a) = some a

instance : UpperVocabulary JoinType :=
  ⟨fun t ↦ by cases t <;> decide +kernel, JoinType.ofWord?_word⟩

instance : UpperVocabulary AggregateFunction :=
  ⟨fun f ↦ by cases f <;> decide +kernel, AggregateFunction.ofWord?_word⟩

instance : UpperVocabulary Comparison :=
  ⟨fun c ↦ by cases c <;> decide +kernel, Comparison.ofWord?_word⟩

instance : UpperVocabulary Connective :=
  ⟨fun c ↦ by cases c <;> decide +kernel, Connective.ofWord?_word⟩

instance : UpperVocabulary Direction :=
  ⟨fun d ↦ by cases d <;> decide +kernel, Direction.ofWord?_word⟩

section Words

variable {α : Type} [Vocabulary α] [UpperVocabulary α]

theorem upperWords_ofWord (a : α) : (ofWord a).upperWords = ofWord a :=
  Value.upperWords_text (UpperVocabulary.isUpperWords a)

/-- A word that is given is not replaced. -/
theorem orWord_ofWord (a : α) (w : String) : (ofWord a).orWord w = ofWord a := by
  have hgiven : (ofWord a).isGiven = true := by
    simpa [ofWord, Value.isGiven] using (UpperVocabulary.isUpperWords a).1
  rw [Value.orWord, if_pos hgiven]

/-- A member is read from its own name. -/
theorem member_ofWord (a : α) : member α (ofWord a) = .ok a := by
  rw [ofWord, member, UpperVocabulary.ofWord?_word]
  rfl

/-- A member or none is read as it was written, when its word is prepared by a step that leaves
words as they are. -/
theorem nullable_member {prepare : Value → Value} (hnull : prepare .null = .null)
    (hword : ∀ a : α, prepare (ofWord a) = ofWord a) (o : Option α) :
    nullable (member α) (prepare (ofOptional ofWord o)) = .ok o := by
  have hwritten : prepare (ofOptional ofWord o) = ofOptional ofWord o := by
    rcases o with - | a
    · exact hnull
    · exact hword a
  rw [hwritten]
  exact nullable_ofOptional (fun _ ↦ nofun) fun a _ ↦ member_ofWord a

end Words

/-- No word of a join type ends in the words that are taken off. -/
theorem JoinType.joinTypeWords_ofWord (t : JoinType) : (ofWord t).joinTypeWords = ofWord t := by
  have hkept : Text.dropEnding " OUTER".toList (Text.dropEnding " JOIN".toList (word t).toList) =
      (word t).toList := by
    cases t <;> decide +kernel
  rw [Value.joinTypeWords, upperWords_ofWord, ofWord]
  show Value.text _ = _
  rw [hkept, String.ofList_toList]

/-- No word of a comparison is the sign that stands for another. -/
theorem Comparison.comparisonWords_ofWord (c : Comparison) :
    (ofWord c).comparisonWords = ofWord c := by
  have hne : word c ≠ "<>" := by cases c <;> decide
  rw [Value.comparisonWords, upperWords_ofWord, ofWord]
  exact if_neg hne

/-! ### Values of filters -/

/-- The part of a document holds the value of a filter: a scalar or a list of scalars as it is, and
a tagged value as a record with its tag. -/
inductive FilterValue.HeldBy : FilterValue → Value → Prop
  | scalar (s : Scalar) : HeldBy (.scalar s) s.toValue
  | list (items : List Scalar) : HeldBy (.list items) (.list (items.map Scalar.toValue))
  | literal {v : Value} {s : Scalar} (hkind : v.field "kind" = .text "literal")
      (hvalue : v.field "value" = s.toValue) : HeldBy (.literal s) v
  | column {v : Value} {table name : String} (hkind : v.field "kind" = .text "column")
      (htable : v.field "table" = .text table) (hname : v.field "column" = .text name) :
      HeldBy (.column table name) v

namespace FilterValue

variable {v : Value} {value : FilterValue} {fields : List (String × Value)}

/-- A tagged column is read exactly from the texts of its two fields. -/
theorem columnOfValue_eq_ok_iff {table name : String}
    (hkind : fields.lookup "kind" = some (.text "column")) :
    columnOfValue (.record fields) = .ok (table, name) ↔
      (Value.record fields).field "table" = .text table ∧
        (Value.record fields).field "column" = .text name := by
  have htag : optional ["kind"] () (theWord "column") fields = .ok () :=
    optional_of_findField (findField_singleton hkind) rfl
  have hnull (s : String) : text .null ≠ .ok s := fun h ↦ nomatch text_eq_ok_iff.1 h
  have hread : columnOfValue (.record fields) =
      (both (optional ["kind"] () (theWord "column") fields)
        (both (required "table" text fields) (required "column" text fields)) >>=
          fun parts ↦ .ok parts.2) := rfl
  rw [hread, bind_eq_ok_iff]
  simp [htag, required_eq_ok_iff hnull, text_eq_ok_iff]

/-- A tagged literal is read exactly from the scalar in its field. -/
theorem literalOfValue_eq_ok_iff {s : Scalar}
    (hkind : fields.lookup "kind" = some (.text "literal")) :
    literalOfValue (.record fields) = .ok s ↔
      (Value.record fields).field "value" = s.toValue := by
  have htag : optional ["kind"] () (theWord "literal") fields = .ok () :=
    optional_of_findField (findField_singleton hkind) rfl
  have hnull : Checked.scalar .null = .ok .null := rfl
  have hread : literalOfValue (.record fields) =
      (both (optional ["kind"] () (theWord "literal") fields)
        (optional ["value"] .null Checked.scalar fields) >>= fun parts ↦ .ok parts.2) := rfl
  rw [hread, bind_eq_ok_iff]
  simp [htag, optional_eq_ok_iff hnull, scalar_eq_ok_iff]

theorem taggedOfValue_column (hkind : fields.lookup "kind" = some (.text "column")) :
    taggedOfValue (.record fields) =
      named "column" (fun v ↦ (columnOfValue v).map fun c ↦ .column c.1 c.2) (.record fields) := by
  simp only [taggedOfValue, hkind]

theorem taggedOfValue_literal (hkind : fields.lookup "kind" = some (.text "literal")) :
    taggedOfValue (.record fields) =
      named "literal" (fun v ↦ (literalOfValue v).map .literal) (.record fields) := by
  simp only [taggedOfValue, hkind]

/-- A tagged value is a record with one of the two tags. -/
theorem exists_tag_of_taggedOfValue (h : taggedOfValue v = .ok value) :
    ∃ fields, v = .record fields ∧ (fields.lookup "kind" = some (.text "column") ∨
      fields.lookup "kind" = some (.text "literal")) := by
  rw [taggedOfValue.eq_def] at h
  split at h
  · next fields =>
    split at h
    · simp [fault] at h
    · next tag hkind =>
      split at h
      · exact ⟨fields, rfl, .inl hkind⟩
      · exact ⟨fields, rfl, .inr hkind⟩
      · simp [fault] at h
  · simp [fault] at h

/-- A tagged value that is read is held by its document. -/
theorem heldBy_of_taggedOfValue (h : taggedOfValue v = .ok value) : value.HeldBy v := by
  obtain ⟨fields, rfl, hkind | hkind⟩ := exists_tag_of_taggedOfValue h
  · rw [taggedOfValue_column hkind] at h
    obtain ⟨⟨table, name⟩, hcolumn, rfl⟩ := map_eq_ok_iff.1 (of_named h)
    obtain ⟨htable, hname⟩ := (columnOfValue_eq_ok_iff hkind).1 hcolumn
    exact .column (Value.field_of_lookup hkind) htable hname
  · rw [taggedOfValue_literal hkind] at h
    obtain ⟨s, hliteral, rfl⟩ := map_eq_ok_iff.1 (of_named h)
    exact .literal (Value.field_of_lookup hkind) ((literalOfValue_eq_ok_iff hkind).1 hliteral)

/-- **A filter is read with the value that the document holds**, and with no other. -/
theorem ofValue_eq_ok_iff : ofValue v = .ok value ↔ value.HeldBy v := by
  constructor
  · intro h
    rcases of_orElse h with h | h
    · rcases of_orElse h with h | h
      · exact heldBy_of_taggedOfValue (of_named h)
      · obtain ⟨items, hitems, rfl⟩ := map_eq_ok_iff.1 (of_named h)
        obtain ⟨vs, rfl, hvs⟩ := list_eq_ok_iff.1 hitems
        have hmap : List.Forall₂ Eq vs (items.map Scalar.toValue) :=
          List.forall₂_map_right_iff.2 (hvs.imp fun _ _ ↦ scalar_eq_ok_iff.1)
        rw [List.forall₂_eq_eq_eq] at hmap
        exact hmap ▸ .list items
    · obtain ⟨s, hs, rfl⟩ := map_eq_ok_iff.1 h
      exact scalar_eq_ok_iff.1 hs ▸ .scalar s
  · intro h
    cases h with
    | scalar s => rcases s <;> rfl
    | list items =>
      have hitems : Checked.list Checked.scalar (ofParts Scalar.toValue items) = .ok items :=
        list_ofParts fun _ _ ↦ scalar_eq_ok_iff.2 rfl
      show orElse (orElse _
        (inside _ ((Checked.list Checked.scalar (ofParts Scalar.toValue items)).map
          FilterValue.list))) _ = _
      rw [hitems]
      rfl
    | literal hkind hvalue =>
      obtain ⟨fields, rfl, hlookup⟩ := Value.exists_lookup_of_field hkind nofun
      rw [ofValue, named, taggedOfValue_literal hlookup, named,
        (literalOfValue_eq_ok_iff hlookup).2 hvalue]
      rfl
    | column hkind htable hname =>
      obtain ⟨fields, rfl, hlookup⟩ := Value.exists_lookup_of_field hkind nofun
      rw [ofValue, named, taggedOfValue_column hlookup, named,
        (columnOfValue_eq_ok_iff hlookup).2 ⟨htable, hname⟩]
      rfl

/-- The record of a value holds it. -/
theorem heldBy_toTaggedValue (value : FilterValue) : value.HeldBy value.toTaggedValue := by
  rcases value with ⟨table, name⟩ | s | items | s
  · exact .column rfl rfl rfl
  · exact .literal rfl rfl
  · exact .list items
  · exact .scalar s

end FilterValue

/-! ### What is read from the fields of a record -/

/-- The keys under which the join type of a table may stand, in the order of preference. -/
def TableSource.joinTypeKeys : List String :=
  ["join_type", "type", "joinType"]

theorem TableSource.ofValue_record_eq_ok_iff {fields : Record} {t : TableSource} :
    ofValue (.record fields) = .ok t ↔ required "name" text fields = .ok t.name ∧
      optional joinTypeKeys none (fun v ↦ nullable (member JoinType) v.joinTypeWords) fields =
        .ok t.joinType ∧
      optional ["on", "explicitOn", "explicit_on"] none (nullable OnCondition.ofValue) fields =
        .ok t.on := by
  simp only [← both_eq_ok_iff]
  refine record_eq_ok_iff.trans ⟨?_, fun h ↦ ⟨_, h, rfl⟩⟩
  rintro ⟨parts, hparts, htable⟩
  obtain rfl := Except.ok.inj htable
  exact hparts

/-- The keys under which the join type of a request may stand, in the order of preference. -/
def Request.joinTypeKeys : List String :=
  ["joinType", "join_type"]

/-- **A request is read exactly where its eight parts are**, each from the keys that it may have. -/
theorem Request.ofValue_record_eq_ok_iff {fields : Record} {r : Request} :
    ofValue (.record fields) = .ok r ↔
      optional ["tables"] none (nullable (Checked.list TableEntry.ofValue)) fields =
        .ok r.tables ∧
      optional joinTypeKeys .inner
        (fun v ↦ member JoinType (v.joinTypeWords.orWord (word JoinType.inner))) fields =
        .ok r.joinType ∧
      optional ["columns"] none (nullable (Checked.list ColumnEntry.ofValue)) fields =
        .ok r.columns ∧
      optional ["aggregation"] none (nullable (Checked.list Aggregation.ofValue)) fields =
        .ok r.aggregations ∧
      optional ["filters"] none (nullable (Checked.list Filter.ofValue)) fields = .ok r.filters ∧
      optional ["having"] none (nullable Having.ofValue) fields = .ok r.having ∧
      optional ["orderBy", "order_by"] none (nullable (Checked.list OrderEntry.ofValue)) fields =
        .ok r.orderBy ∧
      optional ["groupBy", "group_by"] none (nullable Grouping.ofValue) fields = .ok r.groupBy := by
  simp only [← both_eq_ok_iff]
  refine record_eq_ok_iff.trans ⟨?_, fun h ↦ ⟨_, h, rfl⟩⟩
  rintro ⟨parts, hparts, hrequest⟩
  obtain rfl := Except.ok.inj hrequest
  exact hparts

/-! ### Each shape is read as it was written -/

theorem OnCondition.ofValue_toValue (c : OnCondition) : ofValue c.toValue = .ok c := by
  refine bind_eq_ok_iff.2 ⟨_, rfl, bind_eq_ok_iff.2 ⟨(c.left, c.right), ?_, rfl⟩⟩
  exact both_eq_ok_iff.2 ⟨optional_of_findField rfl (nullable_text _),
    optional_of_findField rfl (nullable_text _)⟩

/-- A table that is written down is read again. -/
theorem TableSource.ofValue_toValue (t : TableSource) : ofValue t.toValue = .ok t := by
  have hjoinType : nullable (member JoinType) (ofOptional ofWord t.joinType).joinTypeWords =
      .ok t.joinType :=
    nullable_member rfl JoinType.joinTypeWords_ofWord _
  have hon : nullable OnCondition.ofValue (ofOptional OnCondition.toValue t.on) = .ok t.on :=
    nullable_ofOptional (fun _ ↦ nofun) fun c _ ↦ c.ofValue_toValue
  exact ofValue_record_eq_ok_iff.2 ⟨required_of_lookup rfl rfl,
    optional_of_findField rfl hjoinType, optional_of_findField rfl hon⟩

theorem TableEntry.ofValue_toValue (e : TableEntry) : ofValue e.toValue = .ok e := by
  rcases e with t | bare
  · rw [toValue, ofValue, named, t.ofValue_toValue]
    rfl
  · rfl

theorem ColumnEntry.ofValue_toValue (c : ColumnEntry) : ofValue c.toValue = .ok c := by
  rcases c with (- | column) | column | -
  all_goals rfl

/-- An aggregation is read as it was written, unless its column is empty. -/
theorem Aggregation.ofValue_toValue_of_column {a : Aggregation} (h : a.column ≠ some "") :
    ofValue a.toValue = .ok a := by
  have hfunction : nullable (member AggregateFunction) (ofOptional ofWord a.function).upperWords =
      .ok a.function :=
    nullable_member rfl upperWords_ofWord _
  have hcolumn : (if (ofOptional .text a.column).isGiven then
      nullable text (ofOptional .text a.column) else .ok none) = .ok a.column := by
    rw [nullable_text]
    split
    · rfl
    · next hgiven =>
      rcases hc : a.column with - | column
      · rfl
      · refine absurd ?_ hgiven
        simpa [hc, ofOptional, Value.isGiven] using h
  refine bind_eq_ok_iff.2 ⟨_, rfl, bind_eq_ok_iff.2 ⟨(a.function, a.column), ?_, rfl⟩⟩
  exact both_eq_ok_iff.2 ⟨optional_of_findField rfl hfunction, optional_of_findField rfl hcolumn⟩

/-- A filter that is written down is read again, whatever its value. -/
theorem Filter.ofValue_toValue (f : Filter) : ofValue f.toValue = .ok f := by
  have hcomparison : member Comparison (ofWord f.comparison).comparisonWords =
      .ok f.comparison := by
    rw [Comparison.comparisonWords_ofWord, member_ofWord]
  have hvalue : FilterValue.ofValue f.value.toTaggedValue = .ok f.value :=
    FilterValue.ofValue_eq_ok_iff.2 f.value.heldBy_toTaggedValue
  have hconnective : member Connective
      ((ofWord f.connective).upperWords.orWord (word Connective.and)) = .ok f.connective := by
    rw [upperWords_ofWord, orWord_ofWord, member_ofWord]
  refine bind_eq_ok_iff.2 ⟨_, rfl, bind_eq_ok_iff.2
    ⟨(f.column, f.comparison, f.value, f.connective), ?_, rfl⟩⟩
  exact both_eq_ok_iff.2 ⟨required_of_lookup rfl rfl, both_eq_ok_iff.2
    ⟨optional_of_findField rfl hcomparison, both_eq_ok_iff.2
      ⟨optional_of_findField rfl hvalue, optional_of_findField rfl hconnective⟩⟩⟩

theorem GroupCondition.ofValue_toValue (c : GroupCondition) : ofValue c.toValue = .ok c := by
  have hcomparison : member Comparison (ofWord c.comparison).comparisonWords =
      .ok c.comparison := by
    rw [Comparison.comparisonWords_ofWord, member_ofWord]
  refine bind_eq_ok_iff.2 ⟨_, rfl, bind_eq_ok_iff.2
    ⟨(c.aggregation, c.comparison, c.value), ?_, rfl⟩⟩
  exact both_eq_ok_iff.2 ⟨required_of_lookup rfl rfl, both_eq_ok_iff.2
    ⟨optional_of_findField rfl hcomparison, optional_of_findField rfl (scalar_eq_ok_iff.2 rfl)⟩⟩

theorem OrderEntry.ofValue_toValue (o : OrderEntry) : ofValue o.toValue = .ok o := by
  have hdirection : member Direction
      ((ofWord o.direction).upperWords.orWord (word Direction.ascending)) = .ok o.direction := by
    rw [upperWords_ofWord, orWord_ofWord, member_ofWord]
  refine bind_eq_ok_iff.2 ⟨_, rfl, bind_eq_ok_iff.2 ⟨(o.column, o.direction), ?_, rfl⟩⟩
  exact both_eq_ok_iff.2 ⟨optional_of_findField rfl (nullable_text _),
    optional_of_findField rfl hdirection⟩

/-- Conditions on groups that are written down are read again, as a text or as a list. -/
theorem Having.ofValue_toValue (h : Having) : ofValue h.toValue = .ok h := by
  rcases h with list | clause
  · have hlist : Checked.list GroupCondition.ofValue (ofParts GroupCondition.toValue list) =
        .ok list :=
      list_ofParts fun c _ ↦ c.ofValue_toValue
    rw [toValue, ofValue, named, hlist]
    rfl
  · rfl

/-- A grouping that is written down is read again in the same form. -/
theorem Grouping.ofValue_toValue (g : Grouping) : ofValue g.toValue = .ok g := by
  rcases g with list | names
  · have hlist : Checked.list Checked.text (ofParts .text list) = .ok list :=
      list_ofParts fun _ _ ↦ rfl
    rw [toValue, ofValue, named, hlist]
    rfl
  · rfl

/-- **A request is read as it was written**, unless a column of an aggregation is empty. -/
theorem Request.ofValue_toValue_of_columns {r : Request}
    (h : ∀ as ∈ r.aggregations, ∀ a ∈ as, a.column ≠ some "") : ofValue r.toValue = .ok r := by
  have hjoinType : member JoinType
      ((ofWord r.joinType).joinTypeWords.orWord (word JoinType.inner)) = .ok r.joinType := by
    rw [JoinType.joinTypeWords_ofWord, orWord_ofWord, member_ofWord]
  have hlist {α : Type} {check : Value → Checked α} {toValue : α → Value} {o : Option (List α)}
      (hcheck : ∀ as ∈ o, ∀ a ∈ as, check (toValue a) = .ok a) :
      nullable (Checked.list check) (ofOptional (ofParts toValue) o) = .ok o :=
    nullable_ofOptional (fun _ ↦ nofun) fun as has ↦ list_ofParts (hcheck as has)
  have hhaving : nullable Having.ofValue (ofOptional Having.toValue r.having) = .ok r.having := by
    refine nullable_ofOptional (fun h ↦ ?_) fun h _ ↦ h.ofValue_toValue
    rcases h <;> nofun
  have hgroupBy : nullable Grouping.ofValue (ofOptional Grouping.toValue r.groupBy) =
      .ok r.groupBy := by
    refine nullable_ofOptional (fun g ↦ ?_) fun g _ ↦ g.ofValue_toValue
    rcases g <;> nofun
  -- the eight parts in the order in which they are read
  exact ofValue_record_eq_ok_iff.2
    ⟨optional_of_findField rfl (hlist fun _ _ e _ ↦ e.ofValue_toValue),
    optional_of_findField rfl hjoinType,
    optional_of_findField rfl (hlist fun _ _ c _ ↦ c.ofValue_toValue),
    optional_of_findField rfl
      (hlist fun as has a ha ↦ Aggregation.ofValue_toValue_of_column (h as has a ha)),
    optional_of_findField rfl (hlist fun _ _ f _ ↦ f.ofValue_toValue),
    optional_of_findField rfl hhaving,
    optional_of_findField rfl (hlist fun _ _ o _ ↦ o.ofValue_toValue),
    optional_of_findField rfl hgroupBy⟩

/-! ### What a request keeps of its document -/

/-- The value of a filter is held by its field. -/
theorem Filter.heldBy_of_ofValue {v : Value} {f : Filter} (h : ofValue v = .ok f) :
    f.value.HeldBy (v.field "value") := by
  obtain ⟨fields, rfl, hread⟩ := exists_fields h
  obtain ⟨⟨column, comparison, value, connective⟩, hparts, hfilter⟩ := bind_eq_ok_iff.1 hread
  obtain rfl := Except.ok.inj hfilter
  obtain ⟨-, hparts⟩ := both_eq_ok_iff.1 hparts
  obtain ⟨-, hparts⟩ := both_eq_ok_iff.1 hparts
  obtain ⟨hvalue, -⟩ := both_eq_ok_iff.1 hparts
  exact FilterValue.ofValue_eq_ok_iff.1 (field_of_optional hvalue rfl)

theorem GroupCondition.field_of_ofValue {v : Value} {c : GroupCondition} (h : ofValue v = .ok c) :
    v.field "value" = c.value.toValue := by
  obtain ⟨fields, rfl, hread⟩ := exists_fields h
  obtain ⟨⟨aggregation, comparison, value⟩, hparts, hcondition⟩ := bind_eq_ok_iff.1 hread
  obtain rfl := Except.ok.inj hcondition
  obtain ⟨-, hparts⟩ := both_eq_ok_iff.1 hparts
  obtain ⟨-, hvalue⟩ := both_eq_ok_iff.1 hparts
  exact scalar_eq_ok_iff.1 (field_of_optional hvalue rfl)

/-- An empty column of an aggregation counts as left out. -/
theorem Aggregation.column_ne_of_ofValue {v : Value} {a : Aggregation} (h : ofValue v = .ok a) :
    a.column ≠ some "" := by
  obtain ⟨fields, rfl, hread⟩ := exists_fields h
  obtain ⟨⟨function, column⟩, hparts, haggregation⟩ := bind_eq_ok_iff.1 hread
  obtain rfl := Except.ok.inj haggregation
  obtain ⟨-, hcolumn⟩ := both_eq_ok_iff.1 hparts
  rintro (rfl : column = some "")
  have hread := field_of_optional hcolumn rfl
  split at hread
  · next hgiven =>
    rcases nullable_cases hread with ⟨-, hnone⟩ | ⟨s, htext, hs⟩
    · nomatch hnone
    · obtain rfl := Option.some.inj hs
      rw [text_eq_ok_iff.1 htext] at hgiven
      nomatch hgiven
  · nomatch hread

/-- The part of a document holds the list: null stands for none, and a list has an element for each
of its members. -/
inductive HoldsEach {α : Type} (Holds : Value → α → Prop) : Value → Option (List α) → Prop
  | null : HoldsEach Holds .null none
  | list {items : List Value} {as : List α} (h : List.Forall₂ Holds items as) :
      HoldsEach Holds (.list items) (some as)

/-- The part of a document holds the conditions on groups: a list with the value of each, or their
text. -/
inductive Having.HeldBy : Option Having → Value → Prop
  | null : HeldBy none .null
  | conditions {items : List Value} {list : List GroupCondition}
      (h : List.Forall₂ (fun item c ↦ item.field "value" = c.value.toValue) items list) :
      HeldBy (some (.conditions list)) (.list items)
  | raw (clause : String) : HeldBy (some (.raw clause)) (.text clause)

/-- The values of the request are those of the document, each of its own kind: those of its filters,
and those of its conditions on groups. -/
structure Request.KeepsValuesOf (r : Request) (document : Value) : Prop where
  filters : HoldsEach (fun item f ↦ f.value.HeldBy (item.field "value"))
    (document.field "filters") r.filters
  having : Having.HeldBy r.having (document.field "having")

/-- What is held element by element is held by the list. -/
theorem holdsEach_of_nullable {α : Type} {Holds : Value → α → Prop} {check : Value → Checked α}
    (hcheck : ∀ v a, check v = .ok a → Holds v a) {v : Value} {o : Option (List α)}
    (h : nullable (Checked.list check) v = .ok o) : HoldsEach Holds v o := by
  rcases nullable_cases h with ⟨rfl, rfl⟩ | ⟨as, hlist, rfl⟩
  · exact .null
  · obtain ⟨items, rfl, hitems⟩ := list_eq_ok_iff.1 hlist
    exact .list (hitems.imp hcheck)

theorem Having.heldBy_of_nullable {v : Value} {o : Option Having}
    (h : nullable ofValue v = .ok o) : HeldBy o v := by
  rcases nullable_cases h with ⟨rfl, rfl⟩ | ⟨having, hread, rfl⟩
  · exact .null
  · rcases of_orElse hread with hread | hread
    · obtain ⟨list, hlist, rfl⟩ := map_eq_ok_iff.1 (of_named hread)
      obtain ⟨items, rfl, hitems⟩ := list_eq_ok_iff.1 hlist
      exact .conditions (hitems.imp fun _ _ ↦ GroupCondition.field_of_ofValue)
    · obtain ⟨clause, hclause, rfl⟩ := map_eq_ok_iff.1 (of_named hread)
      exact text_eq_ok_iff.1 hclause ▸ .raw clause

/-- Three parts of a request, as they are read from the fields of its document. -/
theorem Request.parts_of_ofValue {v : Value} {r : Request} (h : ofValue v = .ok r) :
    nullable (Checked.list Aggregation.ofValue) (v.field "aggregation") = .ok r.aggregations ∧
    nullable (Checked.list Filter.ofValue) (v.field "filters") = .ok r.filters ∧
    nullable Having.ofValue (v.field "having") = .ok r.having := by
  obtain ⟨fields, rfl, -⟩ := exists_fields h
  obtain ⟨-, -, -, haggregations, hfilters, hhaving, -, -⟩ := ofValue_record_eq_ok_iff.1 h
  exact ⟨field_of_optional haggregations rfl, field_of_optional hfilters rfl,
    field_of_optional hhaving rfl⟩

/-- **Reading keeps every value**: that of a filter and that of a condition on groups. -/
theorem Request.keepsValuesOf_of_ofValue {v : Value} {r : Request} (h : ofValue v = .ok r) :
    r.KeepsValuesOf v := by
  obtain ⟨-, hfilters, hhaving⟩ := parts_of_ofValue h
  exact ⟨holdsEach_of_nullable (fun _ _ ↦ Filter.heldBy_of_ofValue) hfilters,
    Having.heldBy_of_nullable hhaving⟩

/-! ### Reading again -/

/-- **Reading is a fixed point after one step.** The record of a request that was read is read as
the same request, and both times each value of a filter and of a condition on groups is the one
that the document holds, of the same kind. -/
theorem Request.ofValue_idempotent {v : Value} {r : Request} (h : ofValue v = .ok r) :
    ofValue r.toValue = .ok r ∧ r.KeepsValuesOf v ∧ r.KeepsValuesOf r.toValue := by
  have hcolumns : ∀ as ∈ r.aggregations, ∀ a ∈ as, a.column ≠ some "" := by
    intro as has
    obtain ⟨haggregations, -, -⟩ := parts_of_ofValue h
    rcases nullable_cases haggregations with ⟨-, hnone⟩ | ⟨as', hlist, hsome⟩
    · nomatch hnone.symm.trans has
    · obtain rfl := Option.some.inj (hsome.symm.trans has)
      exact forall_mem_of_list (fun _ _ ↦ Aggregation.column_ne_of_ofValue) hlist
  have hagain : ofValue r.toValue = .ok r := ofValue_toValue_of_columns hcolumns
  exact ⟨hagain, keepsValuesOf_of_ofValue h, keepsValuesOf_of_ofValue hagain⟩

/-- A document with words in several spellings, fields under other keys and values that count as
left out. -/
def untidyDocument : Value := .record [
  ("tables", .list [.text "sales", .record [("name", .text "stores"),
    ("type", .text " left\touter  join"), ("explicitOn", .record [("right", .text "stores.id")])]]),
  ("joinType", .bool false),
  ("aggregation", .list [.record [("func", .text "sum "), ("column", .text "")]]),
  ("filters", .list [
    .record [("column", .text "sales.total"), ("operator", .text "<>"), ("value", .float .nan),
      ("logic", .int 0)],
    .record [("column", .text "sales.id"), ("value", .record [("kind", .text "literal")])]]),
  ("having", .list [.record [("aggregation", .text "COUNT(id)"), ("value", .bool true)]]),
  ("orderBy", .list [.record [("direction", .text "desc")]]),
  ("groupBy", .text " ")]

/-- The request that it is read as. -/
def tidiedRequest : Request where
  tables := some [.name "sales",
    .source { name := "stores", joinType := some .left, on := some { right := some "stores.id" } }]
  aggregations := some [{ function := some .sum }]
  filters := some [
    { column := "sales.total", comparison := .notEqual, value := .scalar (.float .nan) },
    { column := "sales.id", value := .literal .null }]
  having := some (.conditions [{ aggregation := "COUNT(id)", value := .bool true }])
  orderBy := some [{ direction := .descending }]
  groupBy := some (.text " ")

theorem ofValue_untidyDocument : Request.ofValue untidyDocument = .ok tidiedRequest ∧
    Request.ofValue tidiedRequest.toValue = .ok tidiedRequest ∧
    tidiedRequest.KeepsValuesOf untidyDocument := by
  have hread : Request.ofValue untidyDocument = .ok tidiedRequest := by
    decide +kernel
  obtain ⟨hagain, hkeeps, -⟩ := Request.ofValue_idempotent hread
  exact ⟨hread, hagain, hkeeps⟩

end ReportQuery
