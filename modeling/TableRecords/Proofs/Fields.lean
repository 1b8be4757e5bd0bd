import Mathlib
import TableRecords.Fields
import TableRecords.Proofs.Value.Key

/-! # Fields

What setting and merging do to the keys of fields, and to what is found under a key.
-/

namespace TableRecords

namespace Entries

variable {α : Type} {key other : Value} {a : α} {entries : List (Value × α)}

theorem keys_assign (h : ∃ k ∈ entries.map Prod.fst, k.same key = true) :
    (assign key a entries).map Prod.fst = entries.map Prod.fst := by
  induction entries with
  | nil => simp at h
  | cons first rest ih =>
      by_cases hs : first.1.same key = true
      · simp [assign, hs]
      · have hrest : ∃ k ∈ rest.map Prod.fst, k.same key = true := by
          obtain ⟨k, hk, hkey⟩ := h
          rcases List.mem_cons.1 hk with rfl | hk
          · exact absurd hkey hs
          · exact ⟨k, hk, hkey⟩
        simp [assign, hs, ih hrest]

theorem find_cons (first : Value × α) (rest : List (Value × α)) :
    find? (first :: rest) other =
      if first.1.same other = true then some first else find? rest other := by
  rw [find?, List.find?_cons]
  cases first.1.same other <;> rfl

/-- What is found after a value was set: the value under the same key, and the rest as before. -/
theorem find_assign : (find? (assign key a entries) other).map Prod.snd =
    if key.same other = true then some a else (find? entries other).map Prod.snd := by
  induction entries with
  | nil =>
      rw [assign, find_cons]
      split <;> rfl
  | cons first rest ih =>
      by_cases hs : first.1.same key = true
      · have hother := Value.same_congr hs other
        rw [assign, if_pos hs, find_cons, find_cons, ← hother]
        split <;> rfl
      · rw [assign, if_neg hs, find_cons, find_cons]
        by_cases hf : first.1.same other = true
        · have hkey : ¬key.same other = true := by
            intro hk
            rw [Value.same_comm] at hk
            exact hs (by rw [Value.same_congr hf, hk])
          rw [if_pos hf, if_pos hf, if_neg hkey]
        · rw [if_neg hf, if_neg hf, ih]

end Entries

namespace Fields

variable {fields row : Fields} {key other v : Value}

theorem has_iff : fields.has key = true ↔ ∃ k ∈ fields.keys, k.same key = true := List.any_eq_true

theorem has_iff_get : fields.has key = true ↔ (fields.get? key).isSome = true := by
  rw [has_iff, get?, Option.isSome_map, Entries.find?, List.find?_isSome, keys]
  simp

theorem get_eq_none (h : ¬fields.has key = true) : fields.get? key = none := by
  rw [has_iff_get, Option.not_isSome_iff_eq_none] at h
  exact h

theorem has_of_same (h : fields.has key = true) (hs : key.same other = true) :
    fields.has other = true := by
  obtain ⟨k, hk, hkey⟩ := has_iff.1 h
  exact has_iff.2 ⟨k, hk, (Value.same_congr hkey other).trans hs⟩

theorem keys_set (h : fields.has key = true) : (fields.set key v).keys = fields.keys :=
  Entries.keys_assign (has_iff.1 h)

theorem get_set : (fields.set key v).get? other =
    if key.same other = true then some v else fields.get? other := Entries.find_assign

theorem has_congr (h : fields.keys = row.keys) : fields.has key = row.has key := by
  rw [has, has, h]

theorem keys_setAll {entries : Pairs} (h : ∀ entry ∈ entries, fields.has entry.1 = true) :
    (fields.setAll entries).keys = fields.keys := by
  induction entries generalizing fields with
  | nil => rfl
  | cons first rest ih =>
      have hfirst : (fields.set first.1 first.2).keys = fields.keys :=
        keys_set (h first List.mem_cons_self)
      have hrest : ∀ entry ∈ rest, (fields.set first.1 first.2).has entry.1 = true := by
        intro entry he
        rw [has_congr hfirst]
        exact h entry (List.mem_cons_of_mem _ he)
      exact (ih hrest).trans hfirst

/-- A row that brings no new key leaves the keys and their order. -/
theorem keys_merge (h : ∀ k ∈ row.keys, fields.has k = true) :
    (fields.merge row).keys = fields.keys :=
  keys_setAll fun _ he => h _ (List.mem_map_of_mem he)

theorem get_setAll {entries : Pairs} (h : Entries.Distinct entries) :
    (fields.setAll entries).get? key =
      ((Entries.find? entries key).map Prod.snd).or (fields.get? key) := by
  induction entries generalizing fields with
  | nil => rfl
  | cons first rest ih =>
      obtain ⟨hfirst, hrest⟩ := List.pairwise_cons.1 h
      have hset : (fields.setAll (first :: rest)).get? key =
          ((fields.set first.1 first.2).setAll rest).get? key := rfl
      rw [hset, ih hrest, get_set, Entries.find_cons]
      split
      · rename_i hs
        have hnone : Entries.find? rest key = none := by
          refine List.find?_eq_none.2 fun entry he hsame => ?_
          have hapart := hfirst entry he
          rw [Value.same_congr hs, Value.same_comm] at hapart
          exact absurd hsame (by simp [hapart])
        rw [hnone]
        rfl
      · rfl

theorem get_merge : (fields.merge row).get? key = (row.get? key).or (fields.get? key) :=
  get_setAll row.distinct

end Fields

end TableRecords
