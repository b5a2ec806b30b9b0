import ReportQuery.Value

/-!
# Records

Fields in the order in which their keys first came. A key stands once, with what was given for
it last, so that a list of pairs with repeated keys determines the fields. A record is made of
fields with values.
-/

namespace ReportQuery

/-- Fields with distinct keys, in order. -/
abbrev Fields (α : Type) := List (String × α)

/-- The fields of a record. -/
abbrev Record := Fields Value

namespace Fields

variable {α : Type}

/-- The fields with one more: a new key goes to the end, a known key gets the new content. -/
def insert (key : String) (a : α) : Fields α → Fields α
  | [] => [(key, a)]
  | (k, b) :: rest => if k = key then (k, a) :: rest else (k, b) :: insert key a rest

/-- The fields of a list of pairs. -/
def ofPairs (pairs : List (String × α)) : Fields α :=
  pairs.foldl (fun fields (key, a) ↦ insert key a fields) []

/-! ### Small lemmas -/

@[simp] theorem lookup_insert_self (key : String) (a : α) (fields : Fields α) :
    (insert key a fields).lookup key = some a := by
  induction fields with
  | nil => simp [insert]
  | cons entry rest ih =>
    obtain ⟨k, b⟩ := entry
    by_cases h : k = key
    · simp [insert, h]
    · simp [insert, h, List.lookup_cons, ih, show (key == k) = false by simpa using Ne.symm h]

theorem lookup_insert_of_ne {key other : String} (h : other ≠ key) (a : α) (fields : Fields α) :
    (insert key a fields).lookup other = fields.lookup other := by
  induction fields with
  | nil => simp [insert, h]
  | cons entry rest ih =>
    obtain ⟨k, b⟩ := entry
    by_cases hk : k = key
    · subst hk
      simp [insert, List.lookup_cons, show (other == k) = false by simpa using h]
    · simp only [insert, hk, if_false, List.lookup_cons, ih]

theorem insert_of_not_mem {key : String} {fields : Fields α} (h : key ∉ fields.map (·.1)) (a : α) :
    insert key a fields = fields ++ [(key, a)] := by
  induction fields with
  | nil => rfl
  | cons entry rest ih =>
    obtain ⟨k, b⟩ := entry
    rw [List.map_cons, List.mem_cons, not_or] at h
    rw [insert, if_neg (Ne.symm h.1), ih h.2, List.cons_append]

/-- Pairs with new and distinct keys are appended to the fields, one by one. -/
theorem foldl_insert_of_nodup (pairs fields : Fields α)
    (h : ((fields ++ pairs).map (·.1)).Nodup) :
    pairs.foldl (fun fields (key, a) ↦ insert key a fields) fields = fields ++ pairs := by
  induction pairs generalizing fields with
  | nil => exact (List.append_nil fields).symm
  | cons entry rest ih =>
    obtain ⟨k, a⟩ := entry
    have hkey : k ∉ fields.map (·.1) := by
      rw [List.map_append, List.nodup_append] at h
      exact fun hmem ↦ h.2.2 _ hmem k (by simp) rfl
    have hinsert : insert k a fields = fields ++ [(k, a)] := insert_of_not_mem hkey a
    calc ((k, a) :: rest).foldl (fun fields (key, a) ↦ insert key a fields) fields
        = rest.foldl (fun fields (key, a) ↦ insert key a fields) (fields ++ [(k, a)]) := by
          rw [← hinsert]
          rfl
      _ = (fields ++ [(k, a)]) ++ rest := ih _ (by simpa using h)
      _ = fields ++ (k, a) :: rest := List.append_assoc fields [(k, a)] rest

/-- Pairs with distinct keys are the fields already. -/
theorem ofPairs_of_nodup {pairs : Fields α} (h : (pairs.map (·.1)).Nodup) :
    ofPairs pairs = pairs :=
  foldl_insert_of_nodup pairs [] h

theorem mem_keys_insert {key other : String} {a : α} {fields : Fields α} :
    other ∈ (insert key a fields).map (·.1) ↔ other = key ∨ other ∈ fields.map (·.1) := by
  induction fields with
  | nil => simp [insert]
  | cons entry rest ih =>
    rw [insert]
    split
    case isTrue heq => simp [heq]
    case isFalse =>
      rw [List.map_cons, List.mem_cons, ih, List.map_cons, List.mem_cons, or_left_comm]

theorem nodup_keys_insert {key : String} {a : α} {fields : Fields α}
    (h : (fields.map (·.1)).Nodup) : ((insert key a fields).map (·.1)).Nodup := by
  induction fields with
  | nil => simp [insert]
  | cons entry rest ih =>
    obtain ⟨hentry, hrest⟩ := List.nodup_cons.1 h
    rw [insert]
    split
    case isTrue => exact h
    case isFalse hne =>
      refine List.nodup_cons.2 ⟨fun hmem ↦ ?_, ih hrest⟩
      rcases mem_keys_insert.1 hmem with heq | hmem
      · exact hne heq
      · exact hentry hmem

/-- Of pairs that are given after one another the last one counts, before what was there already. -/
theorem lookup_foldl_insert (key : String) (pairs fields : Fields α) :
    (pairs.foldl (fun fields (key, a) ↦ insert key a fields) fields).lookup key =
      (pairs.reverse ++ fields).lookup key := by
  induction pairs generalizing fields with
  | nil => rfl
  | cons entry rest ih =>
    obtain ⟨k, a⟩ := entry
    rw [List.foldl_cons, ih, List.reverse_cons, List.append_assoc, List.lookup_append,
      List.lookup_append, List.singleton_append]
    by_cases h : key = k
    · rw [h, lookup_insert_self, List.lookup_cons_self]
    · rw [lookup_insert_of_ne h, List.lookup_cons, beq_false_of_ne h]

theorem nodup_keys_ofPairs (pairs : Fields α) : ((ofPairs pairs).map (·.1)).Nodup := by
  suffices hfields : ∀ fields : Fields α, (fields.map (·.1)).Nodup →
      ((pairs.foldl (fun fields (key, a) ↦ insert key a fields) fields).map (·.1)).Nodup from
    hfields [] List.nodup_nil
  induction pairs with
  | nil => exact fun _ h ↦ h
  | cons entry rest ih => exact fun fields h ↦ ih _ (nodup_keys_insert h)

/-- **The last pair with a key** is the one that counts. -/
theorem lookup_ofPairs_iff {pairs : Fields α} {key : String} {a : α} :
    (ofPairs pairs).lookup key = some a ↔
      ∃ before after, pairs = before ++ (key, a) :: after ∧ ∀ entry ∈ after, entry.1 ≠ key := by
  rw [ofPairs, lookup_foldl_insert, List.append_nil, List.lookup_eq_some_iff]
  constructor
  · rintro ⟨after, before, hreverse, hafter⟩
    refine ⟨before.reverse, after.reverse, ?_, fun entry hentry ↦ ?_⟩
    · rw [← List.reverse_reverse pairs, hreverse]
      simp
    · exact Ne.symm (by simpa using hafter entry (List.mem_reverse.1 hentry))
  · rintro ⟨before, after, rfl, hafter⟩
    refine ⟨after.reverse, before.reverse, by simp, fun entry hentry ↦ ?_⟩
    simpa using Ne.symm (hafter entry (List.mem_reverse.1 hentry))

end Fields

end ReportQuery
