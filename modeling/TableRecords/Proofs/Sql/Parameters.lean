import Mathlib
import TableRecords.Proofs.Sql.Composition

/-! # Parameters

What a statement binds. The values that it assigns to columns are adapted when it is built; the key
of a row, and the limit and the offset of a search, are bound as they are given. So the parameters
of a statement are within the range of the store exactly if these are.
-/

namespace TableRecords

/-- Whether an integer is one that the store can keep. -/
def InInt64 (n : Int) : Prop := int64Min ≤ n ∧ n ≤ int64Max

instance (n : Int) : Decidable (InInt64 n) :=
  inferInstanceAs (Decidable (int64Min ≤ n ∧ n ≤ int64Max))

theorem fitsInt64_iff {n : Int} : fitsInt64 n = true ↔ InInt64 n := by
  simp [fitsInt64, InInt64]

/-- Nothing is adapted but integers out of range. -/
theorem bindable_eq_self_iff {v : Value} : bindable v = v ↔ ∀ n, v = .int n → InInt64 n := by
  cases v with
  | int n =>
      by_cases h : fitsInt64 n = true
      · have hn : InInt64 n := fitsInt64_iff.1 h
        simp [bindable, h, hn]
      · have hn : ¬InInt64 n := fun hn => h (fitsInt64_iff.2 hn)
        simp [bindable, h, hn]
  | null => simp [bindable]
  | bool b => simp [bindable]
  | real x => simp [bindable]
  | text s => simp [bindable]
  | blob bytes => simp [bindable]
  | decimal d => simp [bindable]
  | list items => simp [bindable]
  | map entries => simp [bindable]

theorem bindable_bindable (v : Value) : bindable (bindable v) = bindable v := by
  cases v with
  | int n => by_cases h : fitsInt64 n = true <;> simp [bindable, h]
  | null => rfl
  | bool b => rfl
  | real x => rfl
  | text s => rfl
  | blob bytes => rfl
  | decimal d => rfl
  | list items => rfl
  | map entries => rfl

theorem forall_bindable_iff {vs : List Value} :
    (∀ v ∈ vs, bindable v = v) ↔ ∀ n, .int n ∈ vs → InInt64 n := by
  constructor
  · intro h n hn
    exact bindable_eq_self_iff.1 (h _ hn) n rfl
  · intro h v hv
    refine bindable_eq_self_iff.2 fun n hn => h n ?_
    rwa [← hn]

theorem forall_bindable_adapted {adapted given : List Value} :
    (∀ v ∈ adapted.map bindable ++ given, bindable v = v) ↔ ∀ v ∈ given, bindable v = v := by
  rw [List.forall_mem_append]
  refine and_iff_right fun v hv => ?_
  obtain ⟨u, _, rfl⟩ := List.mem_map.1 hv
  exact bindable_bindable u

/-- A statement that a builder returns, with the values that the builder binds as they are given to
it: the key of the row it is about, or the limit and the offset of a search. -/
inductive Statement.Binds : List Value → Statement → Prop
  | insert {table attrs s} (h : Statement.insert table attrs = .ok s) : Binds [] s
  | update {table attrs conditions s} (h : Statement.update table attrs conditions = .ok s) :
      Binds [] s
  | updateById {table attrs id s} (h : Statement.updateById table attrs id = .ok s) : Binds [id] s
  | selectById {table id s} (h : Statement.selectById table id = .ok s) : Binds [id] s
  | deleteById {table id s} (h : Statement.deleteById table id = .ok s) : Binds [id] s
  | search {table columns query options limit s}
      (h : SearchQuery.statement table columns query options limit = .ok s) :
      Binds [limit, .int options.offset.val] s

namespace Statement

variable {table id limit : Value} {s : Statement}

theorem params_assignments (assignments : List Assignment) :
    Assignment.params assignments = (assignments.map (·.value)).map bindable := by
  rw [List.map_map]
  rfl

theorem params_insert {attrs : Pairs} (h : insert table attrs = .ok s) :
    ∃ adapted : List Value, s.params = adapted.map bindable := by
  obtain ⟨name, _, h⟩ := Outcome.bind_eq_ok.1 h
  split at h
  · cases h
    exact ⟨[], rfl⟩
  · obtain ⟨assignments, _, h⟩ := Outcome.bind_eq_ok.1 h
    cases h
    exact ⟨_, params_assignments assignments⟩

theorem params_update {attrs : Option Pairs} {conditions : Pairs}
    (h : update table attrs conditions = .ok s) :
    ∃ adapted : List Value, s.params = adapted.map bindable := by
  obtain ⟨name, _, h⟩ := Outcome.bind_eq_ok.1 h
  obtain ⟨assignments, _, h⟩ := Outcome.bind_eq_ok.1 h
  obtain ⟨conditions, _, h⟩ := Outcome.bind_eq_ok.1 h
  cases h
  exact ⟨_, params_assignments assignments⟩

theorem params_updateById {attrs : Option Pairs} (h : updateById table attrs id = .ok s) :
    ∃ adapted : List Value, s.params = adapted.map bindable ++ [id] := by
  obtain ⟨name, _, h⟩ := Outcome.bind_eq_ok.1 h
  obtain ⟨assignments, _, h⟩ := Outcome.bind_eq_ok.1 h
  cases h
  exact ⟨_, congrArg (· ++ [id]) (params_assignments assignments)⟩

theorem params_selectById (h : selectById table id = .ok s) : s.params = [id] := by
  obtain ⟨name, _, h⟩ := Outcome.bind_eq_ok.1 h
  cases h
  rfl

theorem params_deleteById (h : deleteById table id = .ok s) : s.params = [id] := by
  obtain ⟨name, _, h⟩ := Outcome.bind_eq_ok.1 h
  cases h
  rfl

theorem params_search {columns : List Value} {query : String} {options : SearchOptions}
    (h : SearchQuery.statement table columns query options limit = .ok s) :
    s.params = [limit, .int options.offset.val] := by
  obtain ⟨_, _, _, _, _, hparams⟩ := SearchQuery.exists_text h
  exact hparams

theorem Binds.params {given : List Value} (h : s.Binds given) :
    ∃ adapted : List Value, s.params = adapted.map bindable ++ given := by
  cases h with
  | insert h => simpa using params_insert h
  | update h => simpa using params_update h
  | updateById h => exact params_updateById h
  | selectById h => exact ⟨[], params_selectById h⟩
  | deleteById h => exact ⟨[], params_deleteById h⟩
  | search h => exact ⟨[], params_search h⟩

end Statement

/-- The parameters of a statement can all be bound as they are, and then are no integers out of
range, exactly if no integer out of range was given for the key, the limit or the offset. -/
theorem parameters_bindable_iff {given : List Value} {statement : Statement}
    (h : statement.Binds given) :
    ((∀ p ∈ statement.params, bindable p = p) ↔
        ∀ n, .int n ∈ statement.params → InInt64 n) ∧
      ((∀ p ∈ statement.params, bindable p = p) ↔ ∀ n, .int n ∈ given → InInt64 n) := by
  refine ⟨forall_bindable_iff, ?_⟩
  obtain ⟨adapted, hparams⟩ := h.params
  rw [hparams, forall_bindable_adapted]
  exact forall_bindable_iff

theorem parameters_bindable_assigned : ∃ statement,
    Statement.updateById (.text "notes") (some [(.text "size", .int (int64Max + 1))]) (.int 7) =
      .ok statement ∧ ∀ p ∈ statement.params, bindable p = p := by
  have hupdate : Statement.updateById (.text "notes")
      (some [(.text "size", .int (int64Max + 1))]) (.int 7) =
        .ok ⟨"UPDATE notes SET size = ? WHERE id = ?",
          [bindable (.int (int64Max + 1)), .int 7]⟩ := rfl
  refine ⟨_, hupdate, (parameters_bindable_iff (.updateById hupdate)).2.2 fun n hn => ?_⟩
  cases List.mem_singleton.1 hn
  decide

/-- A key out of range is bound as it is. -/
theorem selectById_out_of_range : ∃ statement,
    Statement.selectById (.text "notes") (.int (int64Max + 1)) = .ok statement ∧
      ∃ p ∈ statement.params, bindable p ≠ p := by
  refine ⟨_, rfl, .int (int64Max + 1), List.mem_singleton.2 rfl, fun h => ?_⟩
  have hrange := bindable_eq_self_iff.1 h (int64Max + 1) rfl
  exact absurd hrange.2 (by decide)

end TableRecords
