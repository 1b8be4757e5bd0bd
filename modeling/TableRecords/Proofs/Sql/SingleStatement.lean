import Mathlib
import TableRecords.Proofs.Sql.Composition

/-! # Single statements

Whatever a builder is given, the text it returns is one statement. Each builder is a concatenation
of pieces that may stand anywhere, and of one literal that is escaped where it stands.
-/

namespace TableRecords

theorem inert_comma : Inert ", " := by decide

theorem inert_commaSeparated (names : List Identifier) : Inert (commaSeparated names) := by
  refine inert_comma.intercalate fun piece hp => ?_
  obtain ⟨name, _, rfl⟩ := List.mem_map.1 hp
  exact name.inert

theorem Assignment.inert_setClause (assignments : List Assignment) :
    Inert (setClause assignments) := by
  have hset : Inert " = ?" := by decide
  refine inert_comma.intercalate fun piece hp => ?_
  obtain ⟨assignment, _, rfl⟩ := List.mem_map.1 hp
  exact assignment.column.inert.append hset

theorem Assignment.inert_placeholders (assignments : List Assignment) :
    Inert (", ".intercalate (assignments.map fun _ => "?")) := by
  refine inert_comma.intercalate fun piece hp => ?_
  obtain ⟨_, _, rfl⟩ := List.mem_map.1 hp
  decide

namespace Statement

variable {table id : Value} {conditions : Pairs} {statement : Statement}

theorem inert_limitClause {limit : Option Value} {ending : String}
    (h : limitClause limit = .ok ending) : Inert ending := by
  cases limit with
  | none =>
      cases h
      decide
  | some limit =>
      obtain ⟨n, _, h⟩ := Outcome.bind_eq_ok.1 h
      obtain ⟨digits, hdigits, h⟩ := Outcome.bind_eq_ok.1 h
      cases h
      unfold integerText at hdigits
      split at hdigits
      · cases hdigits
      · cases hdigits
        exact (by decide : Inert " LIMIT ").append (inert_toString n)

theorem inert_insert {attrs : Pairs} (h : insert table attrs = .ok statement) :
    Inert statement.sql := by
  have hinto : Inert "INSERT INTO " := by decide
  obtain ⟨name, _, h⟩ := Outcome.bind_eq_ok.1 h
  split at h
  · cases h
    exact (hinto.append name.inert).append (by decide)
  · obtain ⟨assignments, _, h⟩ := Outcome.bind_eq_ok.1 h
    cases h
    exact (((((hinto.append name.inert).append (by decide)).append
      (inert_commaSeparated _)).append (by decide)).append
        (Assignment.inert_placeholders assignments)).append (by decide)

theorem inert_select {columns : List Value} {limit : Option Value}
    (h : select table conditions columns limit = .ok statement) : Inert statement.sql := by
  obtain ⟨name, _, h⟩ := Outcome.bind_eq_ok.1 h
  obtain ⟨columns, _, h⟩ := Outcome.bind_eq_ok.1 h
  obtain ⟨conditions, _, h⟩ := Outcome.bind_eq_ok.1 h
  obtain ⟨ending, hending, h⟩ := Outcome.bind_eq_ok.1 h
  cases h
  have hcolumns : Inert (if columns.isEmpty then "*" else commaSeparated columns) := by
    split
    · decide
    · exact inert_commaSeparated columns
  have hselect : Inert "SELECT " := by decide
  have hfrom : Inert " FROM " := by decide
  exact ((((hselect.append hcolumns).append hfrom).append name.inert).append
    (composed_whereClause conditions).inert).append (inert_limitClause hending)

theorem inert_byId {head : String} (h : Inert head) :
    Inert (head ++ " WHERE " ++ primaryKey.text ++ " = ?") := by
  have hwhere : Inert " WHERE " := by decide
  have hplaceholder : Inert " = ?" := by decide
  exact ((h.append hwhere).append primaryKey.inert).append hplaceholder

theorem inert_selectById (h : selectById table id = .ok statement) : Inert statement.sql := by
  obtain ⟨name, _, h⟩ := Outcome.bind_eq_ok.1 h
  cases h
  exact inert_byId ((by decide : Inert "SELECT * FROM ").append name.inert)

theorem inert_count (h : count table conditions = .ok statement) : Inert statement.sql := by
  obtain ⟨name, _, h⟩ := Outcome.bind_eq_ok.1 h
  obtain ⟨conditions, _, h⟩ := Outcome.bind_eq_ok.1 h
  cases h
  have hcount : Inert "SELECT COUNT(*) FROM " := by decide
  exact (hcount.append name.inert).append (composed_whereClause conditions).inert

theorem inert_updateHead (name : Identifier) (assignments : List Assignment) :
    Inert ("UPDATE " ++ name.text ++ " SET " ++ Assignment.setClause assignments) := by
  have hupdate : Inert "UPDATE " := by decide
  have hset : Inert " SET " := by decide
  exact ((hupdate.append name.inert).append hset).append (Assignment.inert_setClause assignments)

theorem inert_update {attrs : Option Pairs} (h : update table attrs conditions = .ok statement) :
    Inert statement.sql := by
  obtain ⟨name, _, h⟩ := Outcome.bind_eq_ok.1 h
  obtain ⟨assignments, _, h⟩ := Outcome.bind_eq_ok.1 h
  obtain ⟨conditions, _, h⟩ := Outcome.bind_eq_ok.1 h
  cases h
  exact (inert_updateHead name assignments).append (composed_whereClause conditions).inert

theorem inert_updateById {attrs : Option Pairs} (h : updateById table attrs id = .ok statement) :
    Inert statement.sql := by
  obtain ⟨name, _, h⟩ := Outcome.bind_eq_ok.1 h
  obtain ⟨assignments, _, h⟩ := Outcome.bind_eq_ok.1 h
  cases h
  exact inert_byId (inert_updateHead name assignments)

theorem inert_delete (h : delete table conditions = .ok statement) : Inert statement.sql := by
  obtain ⟨name, _, h⟩ := Outcome.bind_eq_ok.1 h
  obtain ⟨conditions, _, h⟩ := Outcome.bind_eq_ok.1 h
  cases h
  have hdelete : Inert "DELETE FROM " := by decide
  exact (hdelete.append name.inert).append (composed_whereClause conditions).inert

theorem inert_deleteById (h : deleteById table id = .ok statement) : Inert statement.sql := by
  obtain ⟨name, _, h⟩ := Outcome.bind_eq_ok.1 h
  cases h
  exact inert_byId ((by decide : Inert "DELETE FROM ").append name.inert)

end Statement

namespace SearchQuery

theorem inert_text (table : Identifier) (columns : List Identifier) (query : String)
    (options : SearchOptions) (snippet : Option Int) (conditions : List Condition) :
    Inert (text table columns query options snippet conditions) := by
  have hmatch : Passes false true " MATCH '" := by decide
  have horder : Passes true false "' ORDER BY " := by decide
  have hlimit : Inert " LIMIT ? OFFSET ?" := by decide
  have hopening := (composed_opening table columns options snippet conditions).inert
  have hquery := (hopening.append hmatch).append
    (passes_escapeText (.text (matchText query options)))
  exact ((hquery.append horder).append (composed_rankTerm _).inert).append hlimit

theorem inert_statement {table limit : Value} {columns : List Value} {query : String}
    {options : SearchOptions} {statement : Statement}
    (h : SearchQuery.statement table columns query options limit = .ok statement) :
    Inert statement.sql := by
  obtain ⟨name, names, snippet, conditions, hsql, -⟩ := exists_text h
  rw [hsql]
  exact inert_text name names query options snippet conditions

end SearchQuery

theorem SearchIndex.inert_of_mem_removal {table : Identifier} {statement : Statement}
    (h : statement ∈ removal table) : Inert statement.sql := by
  have hindex := (name table).inert
  have htrigger : Inert "DROP TRIGGER IF EXISTS " := by decide
  have htable : Inert "DROP TABLE IF EXISTS " := by decide
  simp only [removal, List.mem_cons, List.not_mem_nil, or_false] at h
  rcases h with rfl | rfl | rfl | rfl
  · exact (htrigger.append hindex).append (by decide)
  · exact (htrigger.append hindex).append (by decide)
  · exact (htrigger.append hindex).append (by decide)
  · exact htable.append hindex

/-! ## Every builder -/

/-- The statements that builders return, whatever they are given. -/
inductive Statement.Built : Statement → Prop
  | insert {table attrs s} (h : Statement.insert table attrs = .ok s) : Built s
  | select {table conditions columns limit s}
      (h : Statement.select table conditions columns limit = .ok s) : Built s
  | selectById {table id s} (h : Statement.selectById table id = .ok s) : Built s
  | count {table conditions s} (h : Statement.count table conditions = .ok s) : Built s
  | update {table attrs conditions s} (h : Statement.update table attrs conditions = .ok s) :
      Built s
  | updateById {table attrs id s} (h : Statement.updateById table attrs id = .ok s) : Built s
  | delete {table conditions s} (h : Statement.delete table conditions = .ok s) : Built s
  | deleteById {table id s} (h : Statement.deleteById table id = .ok s) : Built s
  | search {table columns query options limit s}
      (h : SearchQuery.statement table columns query options limit = .ok s) : Built s
  | dropIndex {table statements s} (h : SearchIndex.removalOf table = .ok statements)
      (hs : s ∈ statements) : Built s

/-- Whatever text a builder returns is one single statement. -/
theorem built_isSingleStatement {statement : Statement} (h : statement.Built) :
    IsSingleStatement statement.sql := by
  refine Inert.isSingleStatement ?_
  cases h with
  | insert h => exact Statement.inert_insert h
  | select h => exact Statement.inert_select h
  | selectById h => exact Statement.inert_selectById h
  | count h => exact Statement.inert_count h
  | update h => exact Statement.inert_update h
  | updateById h => exact Statement.inert_updateById h
  | delete h => exact Statement.inert_delete h
  | deleteById h => exact Statement.inert_deleteById h
  | search h => exact SearchQuery.inert_statement h
  | dropIndex h hs =>
      obtain ⟨name, _, rfl⟩ := Outcome.map_eq_ok.1 h
      exact SearchIndex.inert_of_mem_removal hs

theorem hostile_delete_isSingleStatement : ∃ statement,
    Statement.delete (.text "notes") [(.text "title", .text "'; DROP TABLE notes; --")] =
      .ok statement ∧ IsSingleStatement statement.sql := by
  have hdelete : Statement.delete (.text "notes")
      [(.text "title", .text "'; DROP TABLE notes; --")] =
        .ok ⟨"DELETE FROM notes WHERE title = '''; DROP TABLE notes; --'", []⟩ := rfl
  exact ⟨_, hdelete, built_isSingleStatement (.delete hdelete)⟩

end TableRecords
