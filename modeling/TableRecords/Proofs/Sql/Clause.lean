import Mathlib
import TableRecords.Proofs.Sql.ClauseReader

/-! # Clauses and their conditions

A clause says exactly what the mapping it was built from says: each entry is one fragment, in its
place, with the column and the operator its key spells and the literal of its value. Every statement
about the rows that a mapping selects carries the clause of that mapping.
-/

namespace TableRecords

namespace Condition

/-- What a key spells: a column, which means equality, or a column, a space and an operator. -/
inductive Spells : Value → Identifier → Operator → Prop
  | column (column : Identifier) : Spells (.text column.text) column .equals
  | pair (column : Identifier) (operator : Operator) :
      Spells (.text (column.text ++ " " ++ operator.text)) column operator

theorem exists_split {s : String} (h : ' ' ∈ s.toList) :
    ∃ first rest, s = first ++ " " ++ rest ∧ ' ' ∉ first.toList := by
  obtain ⟨first, rest, hs, hfirst⟩ := List.eq_append_cons_of_mem h
  have hspace : " ".toList = [' '] := rfl
  refine ⟨String.ofList first, String.ofList rest, ?_, by rwa [String.toList_ofList]⟩
  rw [← String.toList_inj, hs]
  simp [hspace]

theorem parseKey_split {first : String} (h : ' ' ∉ first.toList) (rest : String) :
    parseKey (.text (first ++ " " ++ rest)) = (do
      let column ← Identifier.ofValue "column" (.text first)
      let operator ← Operator.ofValue (.text rest)
      pure (column, operator)) := by
  have hspace : " ".toList = [' '] := rfl
  have hspan : (first ++ " " ++ rest).toList.span (· != ' ') =
      (first.toList, ' ' :: rest.toList) := by
    rw [String.toList_append, String.toList_append, hspace, List.append_assoc]
    exact span_space h rest.toList
  simp only [parseKey, hspan, String.ofList_toList]

theorem parseKey_whole {key : Value} (h : ∀ s, key = .text s → ' ' ∉ s.toList) :
    parseKey key = (do
      let column ← Identifier.ofValue "column" key
      pure (column, Operator.equals)) := by
  cases key with
  | text s =>
      have hspan : (s.toList ++ []).span (· != ' ') = (s.toList, []) :=
        span_append (fun c hc => bne_iff_ne.2 (by rintro rfl; exact h s rfl hc)) (by simp)
      rw [List.append_nil] at hspan
      simp only [parseKey, hspan]
  | _ => rfl

theorem parseKey_column (column : Identifier) :
    parseKey (.text column.text) = .ok (column, .equals) := by
  have hs : ∀ s, (.text column.text : Value) = .text s → ' ' ∉ s.toList := by
    rintro _ ⟨⟩
    exact column.space_notMem
  have hc : Identifier.ofValue "column" (.text column.text) = .ok column :=
    Identifier.ofValue_eq_ok.2 rfl
  rw [parseKey_whole hs, hc]
  rfl

theorem parseKey_pair (column : Identifier) (operator : Operator) :
    parseKey (.text (column.text ++ " " ++ operator.text)) = .ok (column, operator) := by
  have hc : Identifier.ofValue "column" (.text column.text) = .ok column :=
    Identifier.ofValue_eq_ok.2 rfl
  have ho : Operator.ofValue (.text operator.text) = .ok operator := Operator.ofValue_eq_ok.2 rfl
  rw [parseKey_split column.space_notMem, hc, ho]
  rfl

/-- The keys that are accepted are those that spell a column and an operator. -/
theorem parseKey_eq_ok {key : Value} {column : Identifier} {operator : Operator} :
    parseKey key = .ok (column, operator) ↔ Spells key column operator := by
  constructor
  · intro h
    by_cases hs : ∃ s, key = .text s ∧ ' ' ∈ s.toList
    · obtain ⟨s, rfl, hs⟩ := hs
      obtain ⟨first, rest, rfl, hfirst⟩ := exists_split hs
      rw [parseKey_split hfirst] at h
      obtain ⟨_, hcolumn, h⟩ := Outcome.bind_eq_ok.1 h
      obtain ⟨_, hoperator, h⟩ := Outcome.bind_eq_ok.1 h
      cases h
      rw [Value.text.inj (Identifier.ofValue_eq_ok.1 hcolumn),
        Value.text.inj (Operator.ofValue_eq_ok.1 hoperator)]
      exact .pair column operator
    · rw [parseKey_whole fun s hkey hm => hs ⟨s, hkey, hm⟩] at h
      obtain ⟨_, hcolumn, h⟩ := Outcome.bind_eq_ok.1 h
      cases h
      rw [Identifier.ofValue_eq_ok.1 hcolumn]
      exact .column column
  · rintro (_ | _)
    · exact parseKey_column column
    · exact parseKey_pair column operator

theorem ofEntry_eq_ok {entry : Value × Value} {condition : Condition} :
    ofEntry entry = .ok condition ↔
      parseKey entry.1 = .ok (condition.column, condition.operator) ∧
        condition.value = entry.2 := by
  obtain ⟨column, operator, value⟩ := condition
  rw [ofEntry, Outcome.bind_eq_ok]
  constructor
  · rintro ⟨⟨column', operator'⟩, hkey, h⟩
    cases h
    exact ⟨hkey, rfl⟩
  · rintro ⟨hkey, rfl⟩
    exact ⟨_, hkey, rfl⟩

end Condition

/-- A fragment states an entry when it has the column and the operator of its key, as the key spells
them, and the literal of its value. -/
def Fragment.States (fragment : Fragment) (entry : Value × Value) : Prop :=
  ∃ column operator, Condition.parseKey entry.1 = .ok (column, operator) ∧
    Condition.Spells entry.1 column operator ∧
    fragment = ⟨column.text, operator.text, quote entry.2⟩

theorem Condition.fragment_states {entry : Value × Value} {condition : Condition}
    (h : ofEntry entry = .ok condition) : condition.fragment.States entry := by
  obtain ⟨hkey, hvalue⟩ := ofEntry_eq_ok.1 h
  refine ⟨_, _, hkey, parseKey_eq_ok.1 hkey, ?_⟩
  rw [fragment, hvalue]

/-- What is read from a clause states, entry by entry, the mapping it was built from. -/
theorem buildWhere_states {conditions : Pairs} {clause : String}
    (h : buildWhere conditions = .ok clause) :
    ∃ fragments, readClause clause = some fragments ∧
      List.Forall₂ Fragment.States fragments conditions := by
  obtain ⟨checked, hchecked, rfl⟩ := Outcome.map_eq_ok.1 h
  refine ⟨checked.map Condition.fragment, Condition.readClause_joined checked, ?_⟩
  rw [List.forall₂_map_left_iff]
  exact (Outcome.mapM_eq_ok.1 hchecked).flip.imp fun _ _ => Condition.fragment_states

/-! ## Statements that carry a clause -/

/-- A statement about all rows of a table, made to be about those that satisfy a clause. -/
def Statement.restrict (clause ending : String) (statement : Statement) : Statement :=
  { statement with sql := statement.sql ++ (" WHERE " ++ clause ++ ending) }

/-- Every statement about the rows a mapping selects is the statement about all rows, restricted by
a clause. -/
structure CarriesClause (conditions : Pairs) (clause : String) : Prop where
  select : ∀ table columns limit, Statement.select table conditions columns limit = do
    let statement ← Statement.select table [] columns none
    let ending ← Statement.limitClause limit
    pure (statement.restrict clause ending)
  count : ∀ table, Statement.count table conditions =
    Statement.restrict clause "" <$> Statement.count table []
  update : ∀ table attrs, Statement.update table attrs conditions =
    Statement.restrict clause "" <$> Statement.update table attrs []
  delete : ∀ table, Statement.delete table conditions =
    Statement.restrict clause "" <$> Statement.delete table []

/-- A statement that ends with its conditions is the one about all rows, restricted by them. -/
theorem Statement.restrict_where (head : String) (params : List Value) (first : Condition)
    (rest : List Condition) (ending : String) :
    (⟨head ++ Condition.whereClause (first :: rest) ++ ending, params⟩ : Statement) =
      (⟨head ++ Condition.whereClause [], params⟩ : Statement).restrict
        (Condition.joined (first :: rest)) ending := by
  have hall : Condition.whereClause [] = "" := rfl
  have hsome : Condition.whereClause (first :: rest) =
      " WHERE " ++ Condition.joined (first :: rest) := rfl
  rw [Statement.restrict, hall, hsome, String.append_empty]
  simp only [String.append_assoc]

theorem carriesClause {conditions : Pairs} {first : Condition} {rest : List Condition}
    (h : Condition.ofPairs conditions = .ok (first :: rest)) :
    CarriesClause conditions (Condition.joined (first :: rest)) := by
  have hnone : Condition.ofPairs [] = .ok [] := rfl
  have hrestrict : ∀ (head : String) (params : List Value),
      (⟨head ++ Condition.whereClause (first :: rest), params⟩ : Statement) =
        Statement.restrict (Condition.joined (first :: rest)) ""
          ⟨head ++ Condition.whereClause [], params⟩ := by
    intro head params
    rw [← Statement.restrict_where, String.append_empty]
  constructor
  · intro table columns limit
    have hlimit : Statement.limitClause none = .ok "" := rfl
    simp only [Statement.select, h, hnone, hlimit]
    cases Statement.tableName table with
    | error fault => rfl
    | ok name =>
        cases Identifier.ofValues "column" columns with
        | error fault => rfl
        | ok names =>
            cases Statement.limitClause limit with
            | error fault => rfl
            | ok ending =>
                refine congrArg Except.ok ((Statement.restrict_where _ _ _ _ _).trans ?_)
                rw [String.append_empty]
  · intro table
    simp only [Statement.count, h, hnone]
    cases Statement.tableName table with
    | error fault => rfl
    | ok name => exact congrArg Except.ok (hrestrict _ _)
  · intro table attrs
    simp only [Statement.update, h, hnone]
    cases Statement.tableName table with
    | error fault => rfl
    | ok name =>
        cases Assignment.ofRequired attrs with
        | error fault => rfl
        | ok assignments => exact congrArg Except.ok (hrestrict _ _)
  · intro table
    simp only [Statement.delete, h, hnone]
    cases Statement.tableName table with
    | error fault => rfl
    | ok name => exact congrArg Except.ok (hrestrict _ _)

/-- A mapping whose keys are all accepted has a clause from which its entries are read back, each in
its place. Another mapping has that clause only if it states the same, only the empty mapping has no
clause, and statements carry the clause of a mapping that is not empty. -/
theorem clause_means_conditions {conditions : Pairs}
    (accepted : ∀ entry ∈ conditions, ∃ parsed, Condition.parseKey entry.1 = .ok parsed) :
    ∃ clause fragments, buildWhere conditions = .ok clause ∧
      readClause clause = some fragments ∧
      List.Forall₂ Fragment.States fragments conditions ∧
      (∀ other, buildWhere other = .ok clause → List.Forall₂ Fragment.States fragments other) ∧
      (clause = "" ↔ conditions = []) ∧
      (conditions ≠ [] → CarriesClause conditions clause) := by
  obtain ⟨checked, hchecked⟩ : ∃ checked, Condition.ofPairs conditions = .ok checked := by
    refine Outcome.mapM_ok_of_forall fun entry he => ?_
    obtain ⟨⟨column, operator⟩, hkey⟩ := accepted entry he
    exact ⟨⟨column, operator, entry.2⟩, Condition.ofEntry_eq_ok.2 ⟨hkey, rfl⟩⟩
  have hbuild : buildWhere conditions = .ok (Condition.joined checked) :=
    Outcome.map_eq_ok.2 ⟨checked, hchecked, rfl⟩
  obtain ⟨fragments, hread, hstates⟩ := buildWhere_states hbuild
  refine ⟨_, fragments, hbuild, hread, hstates, fun other ho => ?_, ?_, fun hne => ?_⟩
  · obtain ⟨others, hothers, hs⟩ := buildWhere_states ho
    rw [hread] at hothers
    cases hothers
    exact hs
  · constructor
    · intro hempty
      rw [hempty] at hread
      cases hread
      exact List.forall₂_nil_left_iff.1 hstates
    · rintro rfl
      cases hchecked
      rfl
  · cases checked with
    | nil =>
        cases hread
        exact absurd (List.forall₂_nil_left_iff.1 hstates) hne
    | cons first rest => exact carriesClause hchecked

/-- Conditions whose values look like more of the clause. -/
def lookAlikes : Pairs :=
  [(.text "note not Like", .text "' AND id = 1 -- "), (.text "owner IS", .null),
    (.text "tag", .text "a\x00b")]

theorem lookAlikes_clause :
    buildWhere lookAlikes = .ok
      "note not Like ''' AND id = 1 -- ' AND owner IS NULL AND tag = CAST(X'610062' AS TEXT)" ∧
    ∃ fragments, readClause
      "note not Like ''' AND id = 1 -- ' AND owner IS NULL AND tag = CAST(X'610062' AS TEXT)" =
        some fragments ∧ List.Forall₂ Fragment.States fragments lookAlikes := by
  have hclause : buildWhere lookAlikes = .ok
      "note not Like ''' AND id = 1 -- ' AND owner IS NULL AND tag = CAST(X'610062' AS TEXT)" := rfl
  have haccepted : ∀ entry ∈ lookAlikes, ∃ parsed, Condition.parseKey entry.1 = .ok parsed := by
    intro entry he
    simp only [lookAlikes, List.mem_cons, List.not_mem_nil, or_false] at he
    rcases he with rfl | rfl | rfl
    · exact ⟨_, rfl⟩
    · exact ⟨_, rfl⟩
    · exact ⟨_, rfl⟩
  obtain ⟨clause, fragments, hbuild, hread, hstates, -⟩ := clause_means_conditions haccepted
  rw [hclause] at hbuild
  cases hbuild
  exact ⟨hclause, fragments, hread, hstates⟩

end TableRecords
