import ReportQuery.Proofs.Sql.Reader
import ReportQuery.Proofs.Sql.RightSide

/-!
# Reading conditions

A reader of written conditions: `readConditions` reads a text of the form
`left operator right AND …` and gives back what it was written from
(`readConditions_conjunction`), and `readOperand` reads a right side back to the operand that was
meant (`readOperand_sql`).

## Why a text has one reading

Texts between quotes hold anything, ` AND ` included, and columns may be called AND or LIKE, so
the reader looks for no word. It follows the shape of a condition from left to right.

* A left side is a run of name characters, perhaps followed by a group in parentheses, with blank
  characters around both (`LeftSide`). After it stands one space, and then an operator, which
  starts with neither a blank character nor a parenthesis (`afterLeft_append`).
* An operator is a word of the vocabulary with a space behind it. With that space, none is the
  beginning of another (`readOperator_append`).
* A right side is a group in parentheses, or it has no space that is code (`RightSide`); what
  follows it is nothing or starts with a space (`afterRight_append`).

Groups and literals are passed over by `afterCode`, where literals are closed and the closing
parenthesis is no code inside a group.
-/

namespace ReportQuery.Sql

/-! ### The reader -/

/-- What follows a group in parentheses, if the text starts with one. -/
def afterGroup : List Char → List Char
  | '(' :: s => (afterCode ')' .outside s).drop 1
  | s => s

/-- What follows a left side and the space behind it. -/
def afterLeft (s : List Char) : List Char :=
  Text.trimStart (afterGroup (Text.trimStart ((Text.trimStart s).dropWhile isColumnPart)))

/-- What follows a right side. -/
def afterRight (s : List Char) : List Char :=
  if s.head? = some '(' then afterGroup s else afterCode ' ' .outside s

/-- The comparison whose word, with a space behind it, starts the text, and what follows. -/
def readOperator (s : List Char) : Option (Comparison × List Char) :=
  (Vocabulary.all : List Comparison).findSome? fun c ↦
    (((word c).toList ++ [' ']).isPrefixOf? s).map (c, ·)

/-- A condition at the start of the text, and what follows. -/
def readCondition (s : List Char) : Option (Condition × List Char) :=
  (readOperator (afterLeft s)).map fun (c, right) ↦
    (⟨String.ofList (before s (afterLeft s)).dropLast, word c,
      String.ofList (before right (afterRight right))⟩, afterRight right)

/-- The conditions of a text, which AND joins. -/
def readConditions (s : String) : Option (List Condition) :=
  readSequence readCondition " AND ".toList s.toList

/-- The text whose quotes are doubled, up to the quote at the end. -/
def undouble : List Char → Option (List Char)
  | [] => none
  | [c] => if c = '\'' then some [] else none
  | c :: d :: s =>
    if c = '\'' then (if d = '\'' then (undouble s).map ('\'' :: ·) else none)
    else (undouble (d :: s)).map (c :: ·)

/-- A text between quotes, or a text without. -/
def readAtom : List Char → Option Atom
  | '\'' :: s => (undouble s).map fun t ↦ .quoted (String.ofList t)
  | s => some (.bare (String.ofList s))

/-- An element of a list at the start of the text, and what follows. -/
def readElement (s : List Char) : Option (Atom × List Char) :=
  (readAtom (before s (afterCode ',' .outside s))).map (·, afterCode ',' .outside s)

/-- A right side: a list of atoms between parentheses, or an atom. -/
def readOperand (s : String) : Option Operand :=
  match s.toList with
  | '(' :: t =>
    if t.getLast? = some ')' then (readSequence readElement ", ".toList t.dropLast).map .list
    else none
  | t => (readAtom t).map .atom

/-! ### Atoms -/

/-- Doubled quotes are read as single ones, up to the closing quote. -/
theorem undouble_doubleQuotes (s : List Char) :
    undouble (doubleQuotes s ++ ['\'']) = some s := by
  induction s with
  | nil => rfl
  | cons c s ih =>
    rw [doubleQuotes]
    split
    · next hc => simp [undouble, ih, hc]
    · next hc =>
      cases hs : doubleQuotes s ++ ['\''] with
      | nil => simp at hs
      | cons d t =>
        rw [hs] at ih
        simp [undouble, hc, hs, ih]

/-- An atom has no character as code that neither is a quote nor stands without quotes. -/
theorem Atom.WellFormed.sealed {a : Atom} (h : a.WellFormed) {d : Char} (hquote : d ≠ '\'')
    (hbare : isBareChar d = false) : Sealed (fun t ↦ d ∉ t) a.sql.toList := by
  cases a with
  | bare s =>
    have hchars := (bareChar_of_wellFormed h).2
    exact sealed_of_plain (fun hmem ↦ Text.ne_of_class (hchars _ hmem) (d := '\'') (by decide) rfl)
      fun hmem ↦ Text.ne_of_class (hchars _ hmem) hbare rfl
  | quoted s => exact sealed_quoteText (by simpa using hquote) s

theorem Atom.WellFormed.head {a : Atom} (h : a.WellFormed) :
    ∃ c t, a.sql.toList = c :: t ∧ c ≠ '(' := by
  cases a with
  | bare s =>
    obtain ⟨hne, hchars⟩ := bareChar_of_wellFormed h
    obtain ⟨c, t, hs⟩ := List.exists_cons_of_ne_nil hne
    exact ⟨c, t, hs, Text.ne_of_class (hchars c (by simp [hs])) (by decide)⟩
  | quoted s => exact ⟨'\'', _, toList_quoteText s, by decide⟩

/-- A written atom is read again. -/
theorem readAtom_sql {a : Atom} (h : a.WellFormed) : readAtom a.sql.toList = some a := by
  cases a with
  | bare s =>
    obtain ⟨hne, hchars⟩ := bareChar_of_wellFormed h
    obtain ⟨c, t, hs⟩ := List.exists_cons_of_ne_nil hne
    have hc : c ≠ '\'' := Text.ne_of_class (hchars c (by simp [hs])) (by decide)
    show readAtom s.toList = _
    rw [readAtom.eq_def]
    split
    · next u hu =>
      rw [hs] at hu
      exact absurd (List.cons.inj hu).1 hc
    · rw [String.ofList_toList]
  | quoted s =>
    show readAtom (quoteText s).toList = _
    rw [toList_quoteText, List.cons_append, readAtom, undouble_doubleQuotes]
    simp

/-! ### Operands -/

/-- An element of a list is read up to the comma behind it. -/
theorem readElement_append {a : Atom} (h : a.IsLiteral) {rest : List Char}
    (hrest : Continues [',', ' '] rest) :
    readElement (a.sql.toList ++ rest) = some (a, rest) := by
  have hsealed := h.wellFormed.sealed (d := ',') (by decide) (by decide)
  have hafter : afterCode ',' .outside (a.sql.toList ++ rest) = rest := by
    refine afterCode_append hsealed.closed hsealed.code ?_
    rcases hrest with rfl | ⟨t, rfl⟩
    · exact .inl rfl
    · exact .inr ⟨rfl, by decide⟩
  rw [readElement, hafter, before_append, readAtom_sql h.wellFormed]
  rfl

theorem toList_sql_list (items : List Atom) : (Operand.list items).sql.toList =
    '(' :: [',', ' '].intercalate (items.map fun a ↦ a.sql.toList) ++ [')'] := by
  rw [Operand.sql, String.toList_append, String.toList_append, String.toList_intercalate,
    List.map_map]
  rfl

/-- **A right side is read back** to the operand that it was written from. -/
theorem readOperand_sql {o : Operand} (h : o.WellFormed) : readOperand o.sql = some o := by
  cases o with
  | atom a =>
    have hatom := readAtom_sql (a := a) h
    obtain ⟨c, t, hs, hc⟩ := Atom.WellFormed.head (a := a) h
    rw [hs] at hatom
    show readOperand a.sql = _
    rw [readOperand, hs]
    split
    · next heq => exact absurd (List.cons.inj heq).1 hc
    · rw [hatom]
      rfl
  | list items =>
    have hitems : readSequence readElement [',', ' ']
        ([',', ' '].intercalate (items.map fun a ↦ a.sql.toList)) = some items := by
      refine readSequence_intercalate (by simp) (fun a ha ↦ ?_)
        fun a ha rest hrest ↦ readElement_append (h a ha) hrest
      obtain ⟨c, t, hs, -⟩ := (h a ha).wellFormed.head
      simp [hs]
    rw [readOperand, toList_sql_list, List.cons_append]
    simp only [List.getLast?_concat, if_true, List.dropLast_concat]
    rw [show (", " : String).toList = [',', ' '] from rfl, hitems]
    rfl

/-! ### Left sides -/

/-- The form of a left side: a run of name characters, or one with a group in parentheses behind
it, and blank characters around both. -/
inductive LeftSide : List Char → Prop
  | name {b₁ name b₂ : List Char} (hb₁ : Blanks b₁) (hne : name ≠ [])
      (hname : ∀ c ∈ name, isColumnPart c = true) (hb₂ : Blanks b₂) :
      LeftSide (b₁ ++ name ++ b₂)
  | call {b₁ name b₂ inner b₃ : List Char} (hb₁ : Blanks b₁) (hne : name ≠ [])
      (hname : ∀ c ∈ name, isColumnPart c = true) (hb₂ : Blanks b₂)
      (hinner : Sealed (fun t ↦ ')' ∉ t) inner) (hb₃ : Blanks b₃) :
      LeftSide (b₁ ++ name ++ b₂ ++ '(' :: inner ++ ')' :: b₃)

/-- Behind the name of a left side, what is not blank is found. -/
theorem trimStart_dropWhile_name {b₁ name b₂ : List Char} (hb₁ : Blanks b₁) (hne : name ≠ [])
    (hname : ∀ c ∈ name, isColumnPart c = true) (hb₂ : Blanks b₂) {c : Char} {t : List Char}
    (hc : isColumnPart c = false) :
    Text.trimStart ((Text.trimStart (b₁ ++ name ++ b₂ ++ c :: t)).dropWhile isColumnPart) =
      Text.trimStart (c :: t) := by
  obtain ⟨d, u, rfl⟩ := List.exists_cons_of_ne_nil hne
  have hd : Text.isBlank d = false := isBlank_of_isColumnPart (hname d (by simp))
  rw [List.append_assoc, List.append_assoc, Text.trimStart_append hb₁, List.cons_append,
    Text.trimStart_of_not_blank hd, ← List.cons_append, List.dropWhile_append_of_pos hname]
  -- the name ends at a blank character, or at `c` when none stands between
  cases b₂ with
  | nil => rw [List.nil_append, List.dropWhile_cons_of_neg (by simp [hc])]
  | cons e b₂ =>
    have he : isColumnPart e = false := by
      rw [Bool.eq_false_iff]
      intro h
      have := isBlank_of_isColumnPart h
      simp [hb₂ e (by simp)] at this
    rw [List.cons_append, List.dropWhile_cons_of_neg (by simp [he]), ← List.cons_append,
      Text.trimStart_append hb₂]

/-- The reader finds the operator behind a left side and a space. -/
theorem afterLeft_append {l : List Char} (h : LeftSide l) {c : Char} {t : List Char}
    (hblank : Text.isBlank c = false) (hgroup : c ≠ '(') :
    afterLeft (l ++ ' ' :: c :: t) = c :: t := by
  have hspace : Text.trimStart (' ' :: c :: t) = c :: t := by
    rw [Text.trimStart_cons, if_pos (by decide), Text.trimStart_of_not_blank hblank]
  have hgroup : afterGroup (c :: t) = c :: t := by
    rw [afterGroup.eq_def]
    split
    · next heq => exact absurd (List.cons.inj heq).1 hgroup
    · rfl
  cases h with
  | name hb₁ hne hname hb₂ =>
    rw [afterLeft, trimStart_dropWhile_name hb₁ hne hname hb₂ (by decide), hspace, hgroup,
      Text.trimStart_of_not_blank hblank]
  | @call b₁ name b₂ inner b₃ hb₁ hne hname hb₂ hinner hb₃ =>
    -- the parenthesis that closes the group is the first one that is code
    have hafter : afterCode ')' .outside (inner ++ ')' :: (b₃ ++ ' ' :: c :: t)) =
        ')' :: (b₃ ++ ' ' :: c :: t) :=
      afterCode_append hinner.closed hinner.code (.inr ⟨rfl, by decide⟩)
    have hsplit : b₁ ++ name ++ b₂ ++ '(' :: inner ++ ')' :: b₃ ++ ' ' :: c :: t =
        b₁ ++ name ++ b₂ ++ '(' :: (inner ++ ')' :: (b₃ ++ ' ' :: c :: t)) := by
      simp only [List.append_assoc, List.cons_append]
    rw [afterLeft, hsplit, trimStart_dropWhile_name hb₁ hne hname hb₂ (by decide),
      Text.trimStart_of_not_blank (by decide), afterGroup, hafter, List.drop_one, List.tail_cons,
      Text.trimStart_append hb₃, hspace]

/-! ### Operators -/

/-- An operator is read as the comparison that it is the word of. -/
theorem readOperator_append (c : Comparison) (t : List Char) :
    readOperator ((word c).toList ++ ' ' :: t) = some (c, t) := by
  cases c <;> rfl

/-- No operator starts with a blank character or with a parenthesis. -/
theorem exists_word_cons (c : Comparison) : ∃ d t, (word c).toList = d :: t ∧
    Text.isBlank d = false ∧ d ≠ '(' := by
  have hopens : (word c).toList.head?.any (fun d ↦ !Text.isBlank d && d ≠ '(') = true := by
    cases c <;> decide
  cases hc : (word c).toList with
  | nil => simp [hc] at hopens
  | cons d t =>
    rw [hc] at hopens
    exact ⟨d, t, rfl, by simpa using hopens⟩

/-! ### Right sides -/

/-- The form of a right side: no space is code and it starts with no parenthesis, or it is a group
in parentheses. -/
inductive RightSide : List Char → Prop
  | atom {t : List Char} (ht : Sealed (fun t ↦ ' ' ∉ t) t) (hne : t ≠ [])
      (hgroup : t.head? ≠ some '(') : RightSide t
  | group {inner : List Char} (hinner : Sealed (fun t ↦ ')' ∉ t) inner) :
      RightSide ('(' :: inner ++ [')'])

/-- A well-formed operand is a right side. -/
theorem Operand.WellFormed.rightSide {o : Operand} (h : o.WellFormed) :
    RightSide o.sql.toList := by
  cases o with
  | atom a =>
    have h : a.WellFormed := h
    obtain ⟨c, t, hs, hc⟩ := h.head
    exact .atom (h.sealed (by decide) (by decide)) (by simp [Operand.sql, hs])
      (by simpa [Operand.sql, hs] using hc)
  | list items =>
    rw [toList_sql_list]
    refine .group (sealed_intercalate (joins_not_mem _) (by simp) (by decide) (by simp) (by decide)
      fun t ht ↦ ?_)
    obtain ⟨a, ha, rfl⟩ := List.mem_map.1 ht
    exact (h a ha).wellFormed.sealed (by decide) (by decide)

/-- The reader finds what follows a right side. -/
theorem afterRight_append {t : List Char} (h : RightSide t) {rest : List Char}
    (hrest : rest = [] ∨ rest.head? = some ' ') : afterRight (t ++ rest) = rest := by
  cases h with
  | atom ht hne hgroup =>
    obtain ⟨c, u, rfl⟩ := List.exists_cons_of_ne_nil hne
    rw [afterRight, if_neg (show (c :: u ++ rest).head? ≠ some '(' from hgroup)]
    refine afterCode_append ht.closed ht.code ?_
    rcases hrest with hrest | hrest
    · exact .inl hrest
    · exact .inr ⟨hrest, by decide⟩
  | @group inner hinner =>
    have hafter : afterCode ')' .outside (inner ++ ')' :: rest) = ')' :: rest :=
      afterCode_append hinner.closed hinner.code (.inr ⟨rfl, by decide⟩)
    rw [afterRight, List.append_assoc, List.cons_append, if_pos List.head?_cons,
      List.singleton_append, afterGroup, hafter]
    rfl

/-! ### Conditions -/

theorem toList_sql (c : Condition) : c.sql.toList =
    c.left.toList ++ ' ' :: (c.operator.toList ++ ' ' :: c.right.toList) := by
  simp [Condition.sql]

/-- **A condition is read back**, and the reader stops where it ends. -/
theorem readCondition_append {c : Condition} {comparison : Comparison}
    (hleft : LeftSide c.left.toList) (hoperator : c.operator = word comparison)
    (hright : RightSide c.right.toList) {rest : List Char}
    (hrest : Continues " AND ".toList rest) :
    readCondition (c.sql.toList ++ rest) = some (c, rest) := by
  obtain ⟨d, t, hword, hblank, hgroup⟩ := exists_word_cons comparison
  have hspace : rest = [] ∨ rest.head? = some ' ' := by
    rcases hrest with rfl | ⟨t, rfl⟩
    · exact .inl rfl
    · exact .inr rfl
  have hafter : afterLeft (c.sql.toList ++ rest) =
      c.operator.toList ++ ' ' :: (c.right.toList ++ rest) := by
    rw [toList_sql, hoperator, hword, List.append_assoc, List.cons_append, List.append_assoc,
      List.cons_append, List.cons_append, afterLeft_append hleft hblank hgroup]
    rfl
  -- in front of the operator stands the left side with the space, which the reader drops
  have hbefore : before (c.sql.toList ++ rest)
      (c.operator.toList ++ ' ' :: (c.right.toList ++ rest)) = c.left.toList ++ [' '] := by
    have hsplit : c.sql.toList ++ rest = (c.left.toList ++ [' ']) ++
        (c.operator.toList ++ ' ' :: (c.right.toList ++ rest)) := by
      rw [toList_sql]
      simp only [List.append_assoc, List.cons_append, List.nil_append]
    rw [hsplit, before_append]
  rw [readCondition, hafter, hbefore, hoperator, readOperator_append, Option.map_some]
  simp only [afterRight_append hright hspace, before_append, List.dropLast_concat,
    String.ofList_toList, ← hoperator]

/-- **Conditions are read back from their conjunction** when each of them has sides that can be told
apart from what stands around them. -/
theorem readConditions_conjunction {conditions : List Condition}
    (h : ∀ c ∈ conditions, LeftSide c.left.toList ∧
      (∃ comparison, c.operator = word (comparison : Comparison)) ∧ RightSide c.right.toList) :
    readConditions (conjunction conditions) = some conditions := by
  rw [readConditions, conjunction, String.toList_intercalate, List.map_map]
  refine readSequence_intercalate (by decide) (fun c _ ↦ ?_) fun c hc rest hrest ↦ ?_
  · simp [toList_sql]
  · obtain ⟨hleft, ⟨comparison, hoperator⟩, hright⟩ := h c hc
    exact readCondition_append hleft hoperator hright hrest

end ReportQuery.Sql
