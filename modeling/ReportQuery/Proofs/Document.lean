import ReportQuery.Checked
import ReportQuery.Proofs.Except
import ReportQuery.Request.Encode

/-!
# Parts of documents

What the checks of texts, scalars, lists and fields read, as equivalences: a check has a value
exactly when the part of the document is that value, written as `Request.toValue` writes it or in
another form. Read from right to left they say that a part that was written is read back.

A key that a record does not have stands for null (`Value.field`). So a field that may be left out
is read like any other, as long as null is read as what stands in for it
(`Checked.optional_eq_ok_iff`); and so is a field that has to be given, as long as null is refused.

A check that fails **reports** each fault that it lists (`Checked.Reports`). Faults are not lost on
the way out: what a part reports the whole reports, with the place of the part in front of the path.

## In which form the facts are stated

Each combinator of checks has one equivalence, or one implication where a fallback makes the other
direction fail. None of them mentions a particular shape of document. The shapes (a filter, a table,
a whole request) are read with these combinators and with nothing else, so a fact about a shape is
put together from these facts in the order of its fields.
-/

namespace ReportQuery

/-- What a record has under a key; null when it has nothing there. -/
def Value.field (v : Value) (key : String) : Value :=
  match v with
  | .record fields => (fields.lookup key).getD .null
  | _ => .null

/-- A field that is there is the first one of its key. -/
theorem Value.field_of_lookup {fields : List (String × Value)} {key : String} {w : Value}
    (h : fields.lookup key = some w) : (record fields).field key = w := by
  rw [field, h]
  rfl

/-- A part that is not null is there. -/
theorem Value.exists_lookup_of_field {v w : Value} {key : String} (h : v.field key = w)
    (hne : w ≠ .null) : ∃ fields, v = .record fields ∧ fields.lookup key = some w := by
  rw [field.eq_def] at h
  split at h
  · next fields =>
    rcases hlookup : fields.lookup key with - | w' <;> rw [hlookup] at h
    · exact absurd h.symm hne
    · exact ⟨fields, rfl, hlookup.trans (congrArg some h)⟩
  · exact absurd h.symm hne

namespace Checked

open Value (ofOptional ofParts)

variable {α : Type} {check : Value → Checked α} {v : Value} {a fallback : α}

/-! ### Simple parts and lists -/

theorem text_eq_ok_iff {s : String} : text v = .ok s ↔ v = .text s := by
  rcases v <;> simp [text, fault]

theorem scalar_eq_ok_iff {s : Scalar} : scalar v = .ok s ↔ v = s.toValue := by
  constructor
  · intro h
    rw [scalar] at h
    split at h
    · next hs => exact Except.ok.inj h ▸ (Scalar.toValue_of_ofValue? hs).symm
    · nomatch h
  · rintro rfl
    rw [scalar, Scalar.ofValue?_toValue]

/-- A value that is not null is checked. -/
theorem nullable_of_ne_null (h : v ≠ .null) : nullable check v = (check v).map some := by
  rw [nullable.eq_def]
  split
  · exact absurd rfl h
  · rfl

/-- A nullable check accepts null as nothing, and any other value as what the check accepts. -/
theorem nullable_cases {o : Option α} (h : nullable check v = .ok o) :
    (v = .null ∧ o = none) ∨ ∃ a, check v = .ok a ∧ o = some a := by
  by_cases hv : v = .null
  · subst hv
    exact .inl ⟨rfl, (Except.ok.inj h).symm⟩
  · rw [nullable_of_ne_null hv] at h
    obtain ⟨a, ha, rfl⟩ := map_eq_ok_iff.1 h
    exact .inr ⟨a, ha, rfl⟩

/-- What is written of an optional value is read again, if nothing that is there is written as null.
-/
theorem nullable_ofOptional {toValue : α → Value} {o : Option α} (hnull : ∀ a, toValue a ≠ .null)
    (h : ∀ a ∈ o, check (toValue a) = .ok a) : nullable check (ofOptional toValue o) = .ok o := by
  rcases o with - | a
  · rfl
  · show nullable check (toValue a) = _
    rw [nullable_of_ne_null (hnull a), h a rfl]
    rfl

theorem nullable_text (s : Option String) : nullable text (ofOptional .text s) = .ok s :=
  nullable_ofOptional (fun _ ↦ nofun) fun _ _ ↦ rfl

/-- Elements are accepted exactly when each of them is, in order. -/
theorem eachFrom_eq_ok_iff {vs : List Value} {as : List α} {n : ℕ} :
    eachFrom check n vs = .ok as ↔ List.Forall₂ (fun v a ↦ check v = .ok a) vs as := by
  induction vs generalizing n as with
  | nil => simp [eachFrom, eq_comm]
  | cons v vs ih =>
    rw [eachFrom, map_eq_ok_iff, List.forall₂_cons_left_iff]
    constructor
    · rintro ⟨⟨a, rest⟩, hboth, rfl⟩
      obtain ⟨ha, hrest⟩ := both_eq_ok_iff.1 hboth
      exact ⟨a, rest, inside_eq_ok_iff.1 ha, ih.1 hrest, rfl⟩
    · rintro ⟨a, rest, ha, hrest, rfl⟩
      exact ⟨(a, rest), both_eq_ok_iff.2 ⟨inside_eq_ok_iff.2 ha, ih.2 hrest⟩, rfl⟩

/-- **A list is accepted exactly when it is a list** and each of its elements is accepted. -/
theorem list_eq_ok_iff {as : List α} : Checked.list check v = .ok as ↔
    ∃ items, v = .list items ∧ List.Forall₂ (fun item a ↦ check item = .ok a) items as := by
  rw [Checked.list.eq_def]
  split
  · simp [eachFrom_eq_ok_iff]
  · next hne =>
    refine iff_of_false nofun ?_
    rintro ⟨items, rfl, -⟩
    exact hne items rfl

/-- A list is read again when each of its parts is. -/
theorem list_ofParts {toValue : α → Value} {as : List α}
    (h : ∀ a ∈ as, check (toValue a) = .ok a) : Checked.list check (ofParts toValue as) = .ok as :=
  list_eq_ok_iff.2 ⟨_, rfl, List.forall₂_map_left_iff.2 (List.forall₂_same.2 h)⟩

/-- What holds of all values of a check holds of the elements of a list. -/
theorem forall_mem_of_list {P : α → Prop} (hcheck : ∀ v a, check v = .ok a → P a) {as : List α}
    (h : Checked.list check v = .ok as) : ∀ a ∈ as, P a := by
  obtain ⟨items, -, hitems⟩ := list_eq_ok_iff.1 h
  clear h
  induction hitems with
  | nil => exact List.forall_mem_nil P
  | cons hitem _ ih => exact List.forall_mem_cons.2 ⟨hcheck _ _ hitem, ih⟩

/-! ### Alternatives -/

/-- What one of two checks accepts was accepted by the first or by the second. -/
theorem of_orElse {x y : Checked α} (h : orElse x y = .ok a) : x = .ok a ∨ y = .ok a := by
  rcases x with es | b
  · rcases y with es' | b
    · nomatch h
    · exact .inr h
  · exact .inl h

/-- A name in the place of a fault does not change what is accepted. -/
theorem of_named {name : String} (h : named name check v = .ok a) : check v = .ok a :=
  inside_eq_ok_iff.1 h

/-! ### Fields -/

variable {fields : List (String × Value)} {keys : List String} {key : String}

/-- What is read from a record is read from its fields. -/
theorem exists_fields {shape : String} {read : List (String × Value) → Checked α}
    (h : (fieldsOf shape v >>= read) = .ok a) :
    ∃ fields, v = .record fields ∧ read fields = .ok a := by
  obtain ⟨fields, hfields, hread⟩ := bind_eq_ok_iff.1 h
  rw [fieldsOf.eq_def] at hfields
  split at hfields
  · exact ⟨_, rfl, Except.ok.inj hfields ▸ hread⟩
  · nomatch hfields

/-- A record is read in two stages: its parts side by side, and then what is made of them. -/
theorem record_eq_ok_iff {β : Type} {shape : String} {parts : Record → Checked β}
    {make : β → Checked α} :
    (fieldsOf shape (.record fields) >>= fun fields ↦ parts fields >>= make) = .ok a ↔
      ∃ p, parts fields = .ok p ∧ make p = .ok a := by
  show (parts fields >>= make) = .ok a ↔ _
  exact bind_eq_ok_iff

theorem findField_singleton (h : fields.lookup key = some v) :
    findField [key] fields = some (key, v) := by
  rw [findField, List.findSome?_cons, h]
  rfl

/-- A field that is found is checked, whatever the fallback. -/
theorem optional_of_findField (hfield : findField keys fields = some (key, v))
    (hcheck : check v = .ok a) : optional keys fallback check fields = .ok a := by
  rw [optional, hfield]
  exact inside_eq_ok_iff.2 hcheck

theorem required_of_lookup (hfield : fields.lookup key = some v) (hcheck : check v = .ok a) :
    required key check fields = .ok a := by
  rw [required, hfield]
  exact inside_eq_ok_iff.2 hcheck

/-- A field that has to be given is read from the record, provided that null is refused. -/
theorem required_eq_ok_iff (hnull : ∀ a, check .null ≠ .ok a) :
    required key check fields = .ok a ↔ check ((Value.record fields).field key) = .ok a := by
  rw [required, Value.field]
  rcases fields.lookup key with - | v
  · exact iff_of_false (fun h ↦ nomatch inside_eq_ok_iff.1 h) (hnull a)
  · exact inside_eq_ok_iff

/-- A field that may be left out is read from the record, provided that null is read as what stands
in for it. -/
theorem optional_eq_ok_iff (hnull : check .null = .ok fallback) :
    optional [key] fallback check fields = .ok a ↔
      check ((Value.record fields).field key) = .ok a := by
  rw [optional, findField, List.findSome?_cons, Value.field]
  rcases fields.lookup key with - | v
  · exact hnull ▸ Iff.rfl
  · exact inside_eq_ok_iff

/-- An optional field with one key is what the check makes of the field, where null and a missing
field give the same. -/
theorem field_of_optional (h : optional [key] fallback check fields = .ok a)
    (hnull : check .null = .ok fallback) : check ((Value.record fields).field key) = .ok a :=
  (optional_eq_ok_iff hnull).1 h

/-- The fields of a record that stand under none of the keys. -/
def without (keys : List String) (fields : Record) : Record :=
  fields.filter fun field ↦ field.1 ∉ keys

/-- Fields that are left out are not looked for under other keys. -/
theorem lookup_without (h : key ∉ keys) (fields : Record) :
    (without keys fields).lookup key = fields.lookup key := by
  induction fields with
  | nil => rfl
  | cons field rest ih =>
    obtain ⟨k, v⟩ := field
    rw [without] at ih ⊢
    by_cases hk : key = k
    · subst hk
      simp [h]
    · have hne : (key == k) = false := by simpa using hk
      rw [List.filter_cons, List.lookup_cons, hne]
      split
      · rw [List.lookup_cons, hne]
        exact ih
      · exact ih

theorem findField_without {keys' : List String} (h : ∀ key ∈ keys', key ∉ keys)
    (fields : Record) : findField keys' (without keys fields) = findField keys' fields := by
  induction keys' with
  | nil => rfl
  | cons key keys' ih =>
    obtain ⟨hkey, hkeys⟩ := List.forall_mem_cons.1 h
    rw [findField, findField] at ih ⊢
    rw [List.findSome?_cons, List.findSome?_cons, lookup_without hkey, ih hkeys]

theorem required_without (h : key ∉ keys) (fields : Record) :
    required key check (without keys fields) = required key check fields := by
  rw [required, required, lookup_without h]

theorem optional_without {keys' : List String} (h : ∀ key ∈ keys', key ∉ keys)
    (fields : Record) :
    optional keys' fallback check (without keys fields) = optional keys' fallback check fields := by
  rw [optional, optional, findField_without h]

/-! ### Faults that are reported -/

/-- The check fails, and the fault is among those that it lists. -/
def Reports (x : Checked α) (e : Fault) : Prop :=
  ∃ es, x = .error es ∧ e ∈ es

namespace Reports

variable {β : Type} {x : Checked α} {y : Checked β} {e : Fault}

/-- A check that reports a fault accepts nothing. -/
theorem ne_ok (h : Reports x e) (a : α) : x ≠ .ok a := by
  obtain ⟨es, rfl, -⟩ := h
  nofun

/-- A fault is reported whatever comes after it. -/
theorem bind (h : Reports x e) (f : α → Checked β) : Reports (x >>= f) e := by
  obtain ⟨es, rfl, he⟩ := h
  exact ⟨es, rfl, he⟩

theorem map (h : Reports x e) (f : α → β) : Reports (x.map f) e := by
  obtain ⟨es, rfl, he⟩ := h
  exact ⟨es, rfl, he⟩

/-- A fault inside a field is reported with the field in front of its path. -/
theorem inside (h : Reports x e) (step : PathStep) :
    Reports (Checked.inside step x) ⟨step :: e.path, e.kind⟩ := by
  obtain ⟨es, rfl, he⟩ := h
  exact ⟨_, rfl, List.mem_map_of_mem he⟩

/-- A fault on the left is reported whatever is on the right. -/
theorem both_left (h : Reports x e) (y : Checked β) : Reports (both x y) e := by
  obtain ⟨es, rfl, he⟩ := h
  rcases y with es' | b
  · exact ⟨es ++ es', rfl, List.mem_append_left es' he⟩
  · exact ⟨es, rfl, he⟩

theorem both_right (x : Checked α) (h : Reports y e) : Reports (both x y) e := by
  obtain ⟨es, rfl, he⟩ := h
  rcases x with es' | a
  · exact ⟨es' ++ es, rfl, List.mem_append_right es' he⟩
  · exact ⟨es, rfl, he⟩

/-- Of two alternatives the first reports its faults when the second fails too. -/
theorem orElse_left {x' : Checked α} (h : Reports x e) (h' : ∀ a, x' ≠ .ok a) :
    Reports (orElse x x') e := by
  obtain ⟨es, rfl, he⟩ := h
  rcases x' with es' | a
  · exact ⟨es ++ es', rfl, List.mem_append_left es' he⟩
  · exact absurd rfl (h' a)

/-- A fault in a field that is found is reported under the key that was found. -/
theorem optional (hfield : findField keys fields = some (key, v)) (h : Reports (check v) e) :
    Reports (Checked.optional keys fallback check fields) ⟨.key key :: e.path, e.kind⟩ := by
  rw [Checked.optional, hfield]
  exact h.inside _

theorem nullable (h : Reports (check v) e) (hv : v ≠ .null) :
    Reports (Checked.nullable check v) e := by
  rw [nullable_of_ne_null hv]
  exact h.map _

/-- An element reports its faults under its index. -/
theorem eachFrom {items : List Value} {n : ℕ} (hitem : items[n]? = some v)
    (h : Reports (check v) e) (start : ℕ) :
    Reports (Checked.eachFrom check start items) ⟨.index (start + n) :: e.path, e.kind⟩ := by
  induction items generalizing start n with
  | nil => simp at hitem
  | cons item items ih =>
    rw [Checked.eachFrom]
    rcases n with - | n
    · obtain rfl : item = v := by simpa using hitem
      exact ((h.inside _).both_left _).map _
    · have hrest := ih (by simpa using hitem) (start + 1)
      rw [Nat.add_right_comm, Nat.add_assoc] at hrest
      exact (both_right _ hrest).map _

end Reports

end Checked

end ReportQuery
