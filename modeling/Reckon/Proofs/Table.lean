import Mathlib.Data.List.Forall2
import Mathlib.Data.List.Induction
import Reckon.Table

/-!
# Facts about tables

* `IsSet` says in full what binding a key does to a table.
* The values of a table are those that have been bound (`mem_values_insert`).
* `mapValues` changes the values of a table and leaves its keys in place; looking up and binding
  commute with it.
* Tables that are related by `Rel` have the same keys in the same order; looking up and binding
  preserve the relation.
* `restrict` keeps the entries whose keys pass a test. Keys that pass are looked up and bound as
  before, and binding another one goes unnoticed.
* The table of some entries (`ofList`) has their keys in order of first appearance, each with the
  value that it appears with last. Entries with distinct keys are a table as they stand.
-/

namespace Reckon.Table

variable {α β : Type}

/-- The table `t'` is `t` with `value` at `key`: a new key goes to the end. -/
structure IsSet (t : Table α) (key : String) (value : α) (t' : Table α) : Prop where
  here : t'.get? key = some value
  elsewhere : ∀ other, other ≠ key → t'.get? other = t.get? other
  keys : t'.keys = if key ∈ t.keys then t.keys else t.keys ++ [key]

theorem isSet_insert (t : Table α) (key : String) (value : α) :
    t.IsSet key value (t.insert key value) where
  here := by rw [get?_insert, if_pos rfl]
  elsewhere := fun other h => by rw [get?_insert, if_neg h]
  keys := keys_insert t key value

theorem mem_values_of_get? {t : Table α} {key : String} {value : α}
    (h : t.get? key = some value) : value ∈ t.values := by
  induction t with
  | nil => cases h
  | cons p rest ih =>
    rw [get?] at h
    split at h
    · cases h
      exact List.mem_cons_self
    · exact List.mem_cons_of_mem _ (ih h)

/-- A table that is bound at a key has no values but the new one and those it had. -/
theorem mem_values_insert {t : Table α} {key : String} {value v : α}
    (h : v ∈ (t.insert key value).values) : v = value ∨ v ∈ t.values := by
  induction t with
  | nil => exact .inl (List.mem_singleton.mp h)
  | cons p rest ih =>
    rw [insert] at h
    split at h
    · rcases List.mem_cons.mp h with rfl | h
      · exact .inl rfl
      · exact .inr (List.mem_cons_of_mem _ h)
    · rcases List.mem_cons.mp h with rfl | h
      · exact .inr List.mem_cons_self
      · exact (ih h).imp_right (List.mem_cons_of_mem _)

/-- The table with every value changed. -/
def mapValues (g : α → β) (t : Table α) : Table β := List.map (fun p => (p.1, g p.2)) t

theorem get?_mapValues (g : α → β) (t : Table α) (key : String) :
    (t.mapValues g).get? key = (t.get? key).map g := by
  induction t with
  | nil => rfl
  | cons p rest ih =>
    simp only [mapValues, List.map_cons, get?]
    split
    · rfl
    · exact ih

theorem mapValues_insert (g : α → β) (t : Table α) (key : String) (value : α) :
    (t.insert key value).mapValues g = (t.mapValues g).insert key (g value) := by
  induction t with
  | nil => rfl
  | cons p rest ih =>
    simp only [mapValues, List.map_cons, insert]
    split
    · rfl
    · exact congrArg _ ih

/-- The tables have the same keys in the same order, with values that are related. -/
def Rel (R : α → β → Prop) (t : Table α) (u : Table β) : Prop :=
  List.Forall₂ (fun p q => p.1 = q.1 ∧ R p.2 q.2) t u

section Rel

variable {R : α → β → Prop} {t : Table α} {u : Table β}

theorem Rel.get? (h : Rel R t u) (key : String) : Option.Rel R (t.get? key) (u.get? key) := by
  induction h with
  | nil => exact .none
  | cons hpq _ ih =>
    rw [Table.get?, Table.get?, hpq.1]
    split
    · exact .some hpq.2
    · exact ih

theorem Rel.insert (h : Rel R t u) (key : String) {value : α} {value' : β}
    (hvalue : R value value') : Rel R (t.insert key value) (u.insert key value') := by
  induction h with
  | nil => exact .cons ⟨rfl, hvalue⟩ .nil
  | cons hpq hrest ih =>
    rw [Table.insert, Table.insert, hpq.1]
    split
    · exact .cons ⟨rfl, hvalue⟩ hrest
    · exact .cons ⟨rfl, hpq.2⟩ ih

end Rel

/-- The entries whose keys pass the test. -/
def restrict (t : Table α) (p : String → Bool) : Table α := t.filter fun e => p e.1

section Restrict

variable (t : Table α) {p : String → Bool} {key : String}

theorem get?_restrict (h : p key = true) : (t.restrict p).get? key = t.get? key := by
  induction t with
  | nil => rfl
  | cons e rest ih =>
    unfold restrict at ih ⊢
    rw [List.filter_cons, Table.get?]
    split
    · rw [Table.get?, ih]
    · rename_i he
      have hne : e.1 ≠ key := by
        rintro rfl
        exact he h
      rw [if_neg hne, ih]

theorem restrict_insert (value : α) (h : p key = true) :
    (t.insert key value).restrict p = (t.restrict p).insert key value := by
  induction t with
  | nil => simp [restrict, Table.insert, h]
  | cons e rest ih => grind [restrict, Table.insert]

theorem restrict_insert_of_not (value : α) (h : p key = false) :
    (t.insert key value).restrict p = t.restrict p := by
  induction t with
  | nil => simp [restrict, Table.insert, h]
  | cons e rest ih => grind [restrict, Table.insert]

end Restrict

/-! ### Tables of entries -/

/-- The table of some entries, bound one after the other. -/
def ofList (entries : List (String × α)) : Table α := entries.foldl (fun t e => t.insert e.1 e.2) []

theorem ofList_concat (entries : List (String × α)) (e : String × α) :
    ofList (entries ++ [e]) = (ofList entries).insert e.1 e.2 := by
  unfold ofList
  rw [List.foldl_append]
  rfl

theorem keys_ofList (entries : List (String × α)) :
    (ofList entries).keys = (entries.map (·.1)).eraseDups := by
  induction entries using List.reverseRecOn with
  | nil => rfl
  | append_singleton entries e ih =>
    rw [ofList_concat, keys_insert, ih, List.map_append, List.eraseDups_append]
    by_cases h : e.1 ∈ entries.map (·.1)
    · rw [if_pos (List.mem_eraseDups.mpr h)]
      simp [List.removeAll, h]
    · rw [if_neg (mt List.mem_eraseDups.mp h)]
      simp [List.removeAll, h, List.eraseDups_cons]

/-- Of the entries with one key, the last one counts. -/
theorem get?_ofList_map (key : α → String) (xs : List α) (k : String) :
    (ofList (xs.map fun x => (key x, x))).get? k = xs.findRev? fun x => key x == k := by
  rw [List.findRev?_eq_find?_reverse]
  induction xs using List.reverseRecOn with
  | nil => rfl
  | append_singleton xs x ih =>
    rw [List.map_append, List.map_singleton, ofList_concat, get?_insert, ih, List.reverse_append,
      List.reverse_singleton, List.singleton_append, List.find?_cons]
    by_cases h : key x = k
    · rw [if_pos h.symm, beq_iff_eq.mpr h]
    · rw [if_neg (Ne.symm h), beq_eq_false_iff_ne.mpr h]

theorem nodup_keys_insert {t : Table α} (h : t.keys.Nodup) (key : String) (value : α) :
    (t.insert key value).keys.Nodup := by
  rw [keys_insert]
  split
  · exact h
  · rename_i hkey
    refine List.nodup_append.mpr ⟨h, List.pairwise_singleton _ key, fun other hother k hk => ?_⟩
    rw [List.mem_singleton.mp hk]
    rintro rfl
    exact hkey hother

theorem nodup_keys_ofList (entries : List (String × α)) : (ofList entries).keys.Nodup := by
  induction entries using List.reverseRecOn with
  | nil => exact List.nodup_nil
  | append_singleton entries e ih =>
    rw [ofList_concat]
    exact nodup_keys_insert ih _ _

/-- Where keys are distinct, every entry is found. -/
theorem get?_of_mem {t : Table α} (h : t.keys.Nodup) {key : String} {value : α}
    (hmem : (key, value) ∈ t) : t.get? key = some value := by
  induction t with
  | nil => cases hmem
  | cons p rest ih =>
    obtain ⟨hp, hrest⟩ := List.nodup_cons.mp (show (p.1 :: Table.keys rest).Nodup from h)
    rw [get?]
    rcases List.mem_cons.mp hmem with rfl | hmem
    · exact if_pos rfl
    · have hne : p.1 ≠ key := by
        rintro rfl
        exact hp (List.mem_map.mpr ⟨_, hmem, rfl⟩)
      rw [if_neg hne]
      exact ih hrest hmem

/-- Entries with distinct keys are a table as they stand. -/
theorem ofList_of_nodup {entries : List (String × α)} (h : (entries.map (·.1)).Nodup) :
    ofList entries = entries := by
  have hinsert : ∀ (t : Table α) (e : String × α), e.1 ∉ t.keys → t.insert e.1 e.2 = t ++ [e] := by
    intro t e he
    induction t with
    | nil => rfl
    | cons p rest ih => grind [insert, keys]
  induction entries using List.reverseRecOn with
  | nil => rfl
  | append_singleton entries e ih =>
    rw [List.map_append, List.nodup_append] at h
    obtain ⟨hentries, -, hne⟩ := h
    rw [ofList_concat, ih hentries]
    exact hinsert _ _ fun he => hne _ he _ (List.mem_singleton_self _) rfl

end Reckon.Table
