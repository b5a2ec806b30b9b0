import ReportQuery.Proofs.Request.Rereading
import ReportQuery.Proofs.Text.Words

/-!
# Texts of join types

A join type is written as a text: for a table, where it may be left open, and for a whole request,
where INNER stands in. Only the words of the text count, in upper case. They say that nothing is set
when there are none, and a join type when they are its own word, then perhaps OUTER, then perhaps
JOIN (`JoinType.SaidBy`); all other words say nothing.

Reading follows this grammar exactly (`joinType_read_exactly`). What the words say is what is read
from the record, however the words are spaced and cased; a text that says nothing is refused, with a
fault at its own key, whatever else is in the record.

The reader has no list of words. It puts single spaces between them and cuts endings off the text,
JOIN first. The comparison with the grammar is made on such texts: which of them are left with the
word of a join type (`JoinType.cutEndings_eq_word_iff`), given that the text determines its words.
-/

namespace ReportQuery

open Checked
open Value (ofOptional ofWord)

/-! ### The grammar -/

namespace JoinType

/-- The words that may follow the word of a join type. -/
def endings : List (List (List Char)) :=
  [[], ["OUTER".toList], ["JOIN".toList], ["OUTER".toList, "JOIN".toList]]

/-- What upper-case words say about how a table is joined. -/
inductive SaidBy : List (List Char) → Option JoinType → Prop
  /-- Without words nothing is set. -/
  | unset : SaidBy [] none
  /-- The word of a join type comes first, and one of the endings may follow. -/
  | set (t : JoinType) {ending : List (List Char)} (h : ending ∈ endings) :
      SaidBy ((word t).toList :: ending) (some t)

theorem saidBy_none_iff {ws : List (List Char)} : SaidBy ws none ↔ ws = [] := by
  constructor
  · rintro ⟨⟩
    rfl
  · rintro rfl
    exact .unset

/-- A join type is said by its name with one of the endings. -/
theorem saidBy_some_iff {ws : List (List Char)} {t : JoinType} :
    SaidBy ws (some t) ↔ ∃ ending ∈ endings, ws = (word t).toList :: ending := by
  constructor
  · rintro ⟨⟩
    next hending => exact ⟨_, hending, rfl⟩
  · rintro ⟨ending, hending, rfl⟩
    exact .set t hending

instance (ws : List (List Char)) : (o : Option JoinType) → Decidable (SaidBy ws o)
  | none => decidable_of_iff _ saidBy_none_iff.symm
  | some _ => decidable_of_iff _ saidBy_some_iff.symm

/-- The same words do not say two things. -/
theorem SaidBy.unique {ws : List (List Char)} {o o' : Option JoinType} (h : SaidBy ws o)
    (h' : SaidBy ws o') : o = o' := by
  cases h with
  | unset =>
    cases h'
    rfl
  | set t _ =>
    rcases o' with - | t'
    · nomatch saidBy_none_iff.1 h'
    · obtain ⟨ending, -, hws⟩ := saidBy_some_iff.1 h'
      have hword : word t = word t' := String.toList_inj.1 (List.cons.inj hws).1
      rw [← ofWord?_word t, hword, ofWord?_word]

/-! ### Cutting endings off -/

/-- The text without the word JOIN at its end, and what is left without the word OUTER. -/
def cutEndings (s : List Char) : List Char :=
  Text.dropEnding " OUTER".toList (Text.dropEnding " JOIN".toList s)

/-- The words that say a join type have no blank characters in them. -/
theorem isSolid_of_mem_endings (t : JoinType) :
    ∀ ending ∈ endings, ∀ w ∈ (word t).toList :: ending, Text.IsSolid w := by
  cases t <;> decide +kernel

/-- Whatever ending is said, what is left without it is the name. -/
theorem cutEndings_intercalate (t : JoinType) : ∀ ending ∈ endings,
    cutEndings ([' '].intercalate ((word t).toList :: ending)) = (word t).toList := by
  cases t <;> decide +kernel

/-- No other text is left with the word of a join type. -/
theorem exists_ending_of_cutEndings {s : List Char} {t : JoinType}
    (h : cutEndings s = (word t).toList) :
    ∃ ending ∈ endings, s = [' '].intercalate ((word t).toList :: ending) := by
  have houter : " OUTER".toList = ' ' :: "OUTER".toList := rfl
  have hjoin : " JOIN".toList = ' ' :: "JOIN".toList := rfl
  -- each of the two endings was there or was not
  rcases Text.dropEnding_eq_iff.1 h with h | ⟨h, -⟩ <;>
    rcases Text.dropEnding_eq_iff.1 h with rfl | ⟨rfl, -⟩
  · exact ⟨["OUTER".toList, "JOIN".toList], by decide, by simp [houter, hjoin]⟩
  · exact ⟨["OUTER".toList], by decide, by simp [houter]⟩
  · exact ⟨["JOIN".toList], by decide, by simp [hjoin]⟩
  · exact ⟨[], by decide, by simp⟩

/-- **Cutting endings off the text decides the grammar of its words.** -/
theorem cutEndings_eq_word_iff {ws : List (List Char)} (hne : ws ≠ [])
    (hws : ∀ w ∈ ws, Text.IsSolid w) {t : JoinType} :
    cutEndings ([' '].intercalate ws) = (word t).toList ↔ SaidBy ws (some t) := by
  constructor
  · intro h
    obtain ⟨ending, hending, htext⟩ := exists_ending_of_cutEndings h
    have hsolid := isSolid_of_mem_endings t ending hending
    obtain rfl := (Text.intercalate_inj hne (List.cons_ne_nil _ _)
      (fun w hw ↦ (hws w hw).space_not_mem) fun w hw ↦ (hsolid w hw).space_not_mem).1 htext
    exact .set t hending
  · intro h
    obtain ⟨ending, hending, rfl⟩ := saidBy_some_iff.1 h
    exact cutEndings_intercalate t ending hending

/-- A text of words is not cut down to nothing, since every ending starts with a space. -/
theorem cutEndings_ne_nil {ws : List (List Char)} (hne : ws ≠ [])
    (hws : ∀ w ∈ ws, Text.IsSolid w) : cutEndings ([' '].intercalate ws) ≠ [] := by
  obtain ⟨w, ws, rfl⟩ := List.exists_cons_of_ne_nil hne
  obtain ⟨c, text, htext, hc⟩ := Text.exists_intercalate_cons (hws w (by simp)) ws
  have hspace : c ≠ ' ' := by
    rintro rfl
    exact absurd hc (by decide)
  obtain ⟨t, ht⟩ := Text.exists_dropEnding_cons hspace "JOIN".toList text
  obtain ⟨u, hu⟩ := Text.exists_dropEnding_cons hspace "OUTER".toList t
  have hcut : cutEndings (c :: text) = c :: u := by
    rw [← hu, ← ht]
    rfl
  rw [htext, hcut]
  exact List.cons_ne_nil c u

end JoinType

theorem Vocabulary.word_of_ofWord? {α : Type} [Vocabulary α] {w : String} {a : α}
    (h : ofWord? w = some a) : word a = w := by
  simpa using List.find?_some h

/-! ### What is left of a text -/

namespace Value

variable {s : String} {ws : List (List Char)}

/-- A blank text says nothing. -/
theorem joinTypeWords_of_blank (h : Text.HasWords s.toList []) :
    (text s).joinTypeWords = .null := by
  simp only [joinTypeWords, upperWords, Text.words_eq_iff.2 h]
  rfl

/-- A text says what its words say in capital letters, without the endings. -/
theorem joinTypeWords_of_hasWords (h : Text.HasWords s.toList ws) (hne : ws ≠ []) :
    (text s).joinTypeWords = .text (String.ofList
      (JoinType.cutEndings ([' '].intercalate (ws.map Text.upper)))) := by
  obtain ⟨w, rest, rfl⟩ := List.exists_cons_of_ne_nil hne
  obtain ⟨c, text, htext, -⟩ := Text.exists_intercalate_cons (h.isSolid w (by simp)).upper
    (rest.map Text.upper)
  simp [joinTypeWords, upperWords, Text.words_eq_iff.2 h, Text.upper_intercalate, htext,
    JoinType.cutEndings]

/-- The reader is left with the word of what the text says, which is null when nothing is set, or
else with a text that is no word of a join type. -/
theorem joinTypeWords_cases (h : Text.HasWords s.toList ws) :
    (∃ o, JoinType.SaidBy (ws.map Text.upper) o ∧ (text s).joinTypeWords = ofOptional ofWord o) ∨
    (∀ o, ¬ JoinType.SaidBy (ws.map Text.upper) o) ∧ ∃ u, u ≠ "" ∧
      (Vocabulary.ofWord? u : Option JoinType) = none ∧ (text s).joinTypeWords = .text u := by
  by_cases hne : ws = []
  · subst hne
    exact .inl ⟨none, .unset, joinTypeWords_of_blank h⟩
  have hmap : ws.map Text.upper ≠ [] := by simpa using hne
  have hsolid : ∀ w ∈ ws.map Text.upper, Text.IsSolid w :=
    List.forall_mem_map.2 fun w hw ↦ (h.isSolid w hw).upper
  have hsaid (t : JoinType) := JoinType.cutEndings_eq_word_iff hmap hsolid (t := t)
  have hleft := JoinType.cutEndings_ne_nil hmap hsolid
  rw [joinTypeWords_of_hasWords h hne]
  generalize JoinType.cutEndings ([' '].intercalate (ws.map Text.upper)) = u at hsaid hleft
  -- what is left is no word of a join type, or it is one and the text says it
  rcases hword : (Vocabulary.ofWord? (String.ofList u) : Option JoinType) with - | t
  · refine .inr ⟨fun o ho ↦ ?_, _, by simpa using hleft, hword, rfl⟩
    rcases o with - | t
    · exact hmap (JoinType.saidBy_none_iff.1 ho)
    · rw [(hsaid t).2 ho, String.ofList_toList, JoinType.ofWord?_word] at hword
      nomatch hword
  · have hu := Vocabulary.word_of_ofWord? hword
    refine .inl ⟨some t, (hsaid t).1 ?_, ?_⟩
    · rw [hu, String.toList_ofList]
    · rw [← hu]
      rfl

end Value

/-! ### Checks of texts -/

/-- What names no member is refused with the list of all names. -/
theorem member_eq_fault {α : Type} [Vocabulary α] {w : String}
    (h : (Vocabulary.ofWord? w : Option α) = none) :
    member α (.text w) = fault (.notAmong (Vocabulary.words α)) := by
  rw [member, h]
  rfl

/-- The check reads a text by what its words say, and refuses a text whose words say nothing. -/
structure JoinType.IsReadBy {α : Type} (check : Value → Checked α)
    (value : Option JoinType → α) : Prop where
  eq_ok : ∀ {s : String} {ws : List (List Char)} {o : Option JoinType},
    Text.HasWords s.toList ws → SaidBy (ws.map Text.upper) o → check (.text s) = .ok (value o)
  eq_fault : ∀ {s : String} {ws : List (List Char)}, Text.HasWords s.toList ws →
    (∀ o, ¬ SaidBy (ws.map Text.upper) o) →
      check (.text s) = fault (.notAmong (Vocabulary.words JoinType))

namespace JoinType.IsReadBy

variable {α : Type} {value : Option JoinType → α}

/-- Words that say no join type are reported where they stand. -/
theorem reports {check : Value → Checked α} (h : IsReadBy check value) {s : String}
    {ws : List (List Char)} (hws : Text.HasWords s.toList ws)
    (hnot : ∀ o, ¬ SaidBy (ws.map Text.upper) o) :
    Reports (check (.text s)) ⟨[], .notAmong (Vocabulary.words JoinType)⟩ :=
  ⟨_, h.eq_fault hws hnot, List.mem_singleton_self _⟩

/-- A check of what the reader is left with is settled by two kinds of values: the words of join
types, with null for none, and texts that are no such words. -/
theorem of_joinTypeWords (check : Value → Checked α)
    (hok : ∀ o, check (ofOptional ofWord o) = .ok (value o))
    (hfault : ∀ u, u ≠ "" → (Vocabulary.ofWord? u : Option JoinType) = none →
      check (.text u) = fault (.notAmong (Vocabulary.words JoinType))) :
    IsReadBy (fun v ↦ check v.joinTypeWords) value where
  eq_ok := by
    intro s ws o hws ho
    rcases Value.joinTypeWords_cases hws with ⟨o', ho', hread⟩ | ⟨hnot, -⟩
    · rw [hread, hok, ho'.unique ho]
    · exact absurd ho (hnot o)
  eq_fault := by
    intro s ws hws hnot
    rcases Value.joinTypeWords_cases hws with ⟨o, ho, -⟩ | ⟨-, u, hu, hword, hread⟩
    · exact absurd ho (hnot o)
    · rw [hread, hfault u hu hword]

/-- The join type of a table may be left open. -/
theorem nullable : IsReadBy (fun v ↦ Checked.nullable (member JoinType) v.joinTypeWords) id := by
  refine of_joinTypeWords (Checked.nullable (member JoinType)) (fun o ↦ ?_) fun u _ hword ↦ ?_
  · exact nullable_ofOptional (fun _ ↦ nofun) fun t _ ↦ member_ofWord t
  · have hne : Value.text u ≠ .null := nofun
    rw [nullable_of_ne_null hne, member_eq_fault hword]
    rfl

/-- INNER stands in for the join type of a request. -/
theorem orInner : IsReadBy (fun v ↦ member JoinType (v.joinTypeWords.orWord (word JoinType.inner)))
    (fun o ↦ o.getD .inner) := by
  refine of_joinTypeWords (fun v ↦ member JoinType (v.orWord (word JoinType.inner)))
    (fun o ↦ ?_) fun u hu hword ↦ ?_
  · rcases o with - | t
    · exact member_ofWord JoinType.inner
    · show member JoinType ((ofWord t).orWord _) = _
      rw [orWord_ofWord, member_ofWord]
      rfl
  · have hgiven : (Value.text u).isGiven = true := by simpa [Value.isGiven] using hu
    rw [Value.orWord, if_pos hgiven, member_eq_fault hword]

end JoinType.IsReadBy

/-! ### Records with the text of a join type -/

/-- A shape takes a join type from the text under the first of the keys that is present. -/
structure ReadsJoinType {α : Type} (keys : List String) (read : Value → Checked α)
    (set : Option JoinType → α → α) : Prop where
  /-- When the record is read without the text, it is read with the text exactly if the words say
  something, and then that is what the text changes. -/
  read_eq_ok_iff : ∀ {fields : Record} {key s : String} {ws : List (List Char)} {a b : α},
    findField keys fields = some (key, .text s) → Text.HasWords s.toList ws →
      read (.record (without keys fields)) = .ok a →
        (read (.record fields) = .ok b ↔
          ∃ o, JoinType.SaidBy (ws.map Text.upper) o ∧ b = set o a)
  /-- A text whose words say nothing is refused, whatever else is in the record. -/
  refuses : ∀ {fields : Record} {key s : String} {ws : List (List Char)},
    findField keys fields = some (key, .text s) → Text.HasWords s.toList ws →
      (∀ o, ¬ JoinType.SaidBy (ws.map Text.upper) o) →
        Reports (read (.record fields)) ⟨[.key key], .notAmong (Vocabulary.words JoinType)⟩

/-- A shape with a field for the join type takes it from there, when the other parts do not depend
on the keys of the field and its faults are reported. -/
theorem ReadsJoinType.of_field {α β : Type} {keys : List String} {read : Value → Checked α}
    {check : Value → Checked β} {value : Option JoinType → β} (fallback : β) (put : β → α → α)
    (hcheck : JoinType.IsReadBy check value)
    (hparts : ∀ {fields a b}, read (.record (without keys fields)) = .ok a →
      (read (.record fields) = .ok b ↔
        ∃ x, Checked.optional keys fallback check fields = .ok x ∧ b = put x a))
    (hfaults : ∀ {fields e}, Reports (Checked.optional keys fallback check fields) e →
      Reports (read (.record fields)) e) :
    ReadsJoinType keys read fun o a ↦ put (value o) a where
  read_eq_ok_iff := by
    intro fields key s ws a b hfield hws hrest
    rw [hparts hrest]
    constructor
    · rintro ⟨x, hx, rfl⟩
      rw [Checked.optional, hfield, inside_eq_ok_iff] at hx
      by_cases hsaid : ∃ o, JoinType.SaidBy (ws.map Text.upper) o
      · obtain ⟨o, ho⟩ := hsaid
        exact ⟨o, ho, by rw [Except.ok.inj (hx.symm.trans (hcheck.eq_ok hws ho))]⟩
      · exact absurd hx ((hcheck.reports hws (not_exists.1 hsaid)).ne_ok x)
    · rintro ⟨o, ho, rfl⟩
      exact ⟨_, optional_of_findField hfield (hcheck.eq_ok hws ho), rfl⟩
  refuses := by
    intro fields key s ws hfield hws hnot
    exact hfaults (.optional hfield (hcheck.reports hws hnot))

/-! ### Tables -/

namespace TableSource

theorem readsJoinType :
    ReadsJoinType joinTypeKeys ofValue fun o t ↦ { t with joinType := o } := by
  refine .of_field none (fun o (t : TableSource) ↦ { t with joinType := o }) .nullable
    (fun {fields a b} hrest ↦ ?_) fun {fields e} h ↦ ?_
  · rw [ofValue_record_eq_ok_iff] at hrest ⊢
    simp (disch := decide) only [required_without, optional_without] at hrest
    obtain ⟨hname, -, hon⟩ := hrest
    rcases b with ⟨name, joinType, on⟩
    rw [hname, hon, Except.ok.injEq, Except.ok.injEq]
    constructor
    · rintro ⟨rfl, hjoinType, rfl⟩
      exact ⟨joinType, hjoinType, rfl⟩
    · rintro ⟨o, hjoinType, h⟩
      cases h
      exact ⟨rfl, hjoinType, rfl⟩
  · exact (Reports.both_right _ (h.both_left _)).bind _

end TableSource

/-! ### Requests -/

namespace Request

theorem readsJoinType :
    ReadsJoinType joinTypeKeys ofValue fun o r ↦ { r with joinType := o.getD .inner } := by
  refine .of_field .inner (fun t (r : Request) ↦ { r with joinType := t }) .orInner
    (fun {fields a b} hrest ↦ ?_) fun {fields e} h ↦ ?_
  · rw [ofValue_record_eq_ok_iff] at hrest ⊢
    simp (disch := decide) only [optional_without] at hrest
    obtain ⟨htables, -, hcolumns, haggregations, hfilters, hhaving, horderBy, hgroupBy⟩ := hrest
    rcases b with ⟨tables, joinType, columns, aggregations, filters, having, orderBy, groupBy⟩
    simp only [htables, hcolumns, haggregations, hfilters, hhaving, horderBy, hgroupBy,
      Except.ok.injEq]
    constructor
    · rintro ⟨rfl, hjoinType, rfl, rfl, rfl, rfl, rfl, rfl⟩
      exact ⟨joinType, hjoinType, rfl⟩
    · rintro ⟨t, hjoinType, h⟩
      cases h
      exact ⟨rfl, hjoinType, rfl, rfl, rfl, rfl, rfl, rfl⟩
  · exact (Reports.both_right _ (h.both_left _)).bind _

/-- A request reports what is wrong with one of its tables, at the place of the table. -/
theorem reports_of_table {fields tableFields : Record} {items : List Value} {n : ℕ} {e : Fault}
    (htables : fields.lookup "tables" = some (.list items))
    (hitem : items[n]? = some (.record tableFields))
    (h : Reports (TableSource.ofValue (.record tableFields)) e) :
    Reports (ofValue (.record fields))
      ⟨.key "tables" :: .index n :: .key "TableRef" :: e.path, e.kind⟩ := by
  have hentry : Reports (TableEntry.ofValue (.record tableFields))
      ⟨.key "TableRef" :: e.path, e.kind⟩ :=
    ((h.map TableEntry.source).inside _).orElse_left fun _ ↦ nofun
  have hlist : Reports (Checked.list TableEntry.ofValue (.list items))
      ⟨.index n :: .key "TableRef" :: e.path, e.kind⟩ := by
    have helement := hentry.eachFrom hitem 0
    rwa [Nat.zero_add] at helement
  exact (((hlist.nullable nofun).optional (findField_singleton htables)).both_left _).bind _

end Request

/-- **The text of a join type is read exactly by its grammar.** Every text has its words, and what
these say is read for a table and for a request, where INNER stands in when nothing is set. A
request with a table whose text says nothing is refused as a whole. -/
theorem joinType_read_exactly :
    (∀ s : String, ∃! ws, Text.HasWords s.toList ws) ∧
    (ReadsJoinType TableSource.joinTypeKeys TableSource.ofValue
      fun o t ↦ { t with joinType := o }) ∧
    (ReadsJoinType Request.joinTypeKeys Request.ofValue
      fun o r ↦ { r with joinType := o.getD .inner }) ∧
    ∀ {fields tableFields : Record} {items : List Value} {n : ℕ} {key s : String}
      {ws : List (List Char)}, fields.lookup "tables" = some (.list items) →
        items[n]? = some (.record tableFields) →
        findField TableSource.joinTypeKeys tableFields = some (key, .text s) →
        Text.HasWords s.toList ws → (∀ o, ¬ JoinType.SaidBy (ws.map Text.upper) o) →
        Reports (Request.ofValue (.record fields))
          ⟨[.key "tables", .index n, .key "TableRef", .key key],
            .notAmong (Vocabulary.words JoinType)⟩ := by
  refine ⟨fun s ↦ Text.existsUnique_hasWords s.toList, TableSource.readsJoinType,
    Request.readsJoinType, ?_⟩
  intro fields tableFields items n key s ws htables hitem hfield hws hnot
  exact Request.reports_of_table htables hitem
    (TableSource.readsJoinType.refuses hfield hws hnot)

/-- A loose spelling, a blank text and words in the wrong order. -/
theorem joinType_read_spellings :
    TableSource.ofValue (.record
      [("name", .text "stores"), ("type", .text " left\touter  join")]) =
        .ok { name := "stores", joinType := some .left } ∧
    Request.ofValue (.record [("joinType", .text " \n")]) = .ok {} ∧
    Reports (Request.ofValue (.record [("tables", .list [.text "sales",
        .record [("name", .text "stores"), ("type", .text "left join outer")]])]))
      ⟨[.key "tables", .index 1, .key "TableRef", .key "type"],
        .notAmong ["INNER", "LEFT", "RIGHT", "FULL"]⟩ := by
  obtain ⟨-, htable, hrequest, hinner⟩ := joinType_read_exactly
  have hloose : Text.HasWords " left\touter  join".toList
      ["left".toList, "outer".toList, "join".toList] := Text.words_eq_iff.1 (by decide +kernel)
  have hblank : Text.HasWords " \n".toList [] := Text.words_eq_iff.1 (by decide +kernel)
  have hwrong : Text.HasWords "left join outer".toList
      ["left".toList, "join".toList, "outer".toList] := Text.words_eq_iff.1 (by decide +kernel)
  refine ⟨?_, ?_, ?_⟩
  · exact (htable.read_eq_ok_iff (a := { name := "stores" }) rfl hloose rfl).2
      ⟨some .left, by decide +kernel, rfl⟩
  · exact (hrequest.read_eq_ok_iff (a := {}) rfl hblank rfl).2 ⟨none, .unset, rfl⟩
  · refine hinner (n := 1) rfl rfl rfl hwrong fun o ↦ ?_
    rcases o with - | t
    · decide +kernel
    · cases t <;> decide +kernel

end ReportQuery
