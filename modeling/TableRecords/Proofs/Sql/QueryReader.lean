import Mathlib
import TableRecords.Proofs.Sql.ClauseReader

/-! # Reading queries

The statements that select rows by conditions, and a reader that tells from the text of one what it
asks for and by which conditions.
-/

namespace TableRecords

namespace Statement

def rowsWhere (table : Identifier) (conditions : List Condition) (ending : String) : Statement :=
  ⟨"SELECT * FROM " ++ table.text ++ Condition.whereClause conditions ++ ending, []⟩

def countWhere (table : Identifier) (conditions : List Condition) : Statement :=
  ⟨"SELECT COUNT(*) FROM " ++ table.text ++ Condition.whereClause conditions, []⟩

def deleteWhere (table : Identifier) (conditions : List Condition) : Statement :=
  ⟨"DELETE FROM " ++ table.text ++ Condition.whereClause conditions, []⟩

def updateWhere (table : Identifier) (assignments : List Assignment)
    (conditions : List Condition) : Statement :=
  ⟨"UPDATE " ++ table.text ++ " SET " ++ Assignment.setClause assignments ++
    Condition.whereClause conditions, Assignment.params assignments⟩

variable (table : Identifier) (conditions : Pairs)

theorem tableName_toValue : tableName table.toValue = .ok table := Identifier.ofValue_eq_ok.2 rfl

theorem select_eq {limit : Option Value} {ending : String} (h : limitClause limit = .ok ending) :
    select table.toValue conditions [] limit =
      (fun checked => rowsWhere table checked ending) <$> Condition.ofPairs conditions := by
  rw [select, tableName_toValue, h]
  cases Condition.ofPairs conditions with
  | error fault => rfl
  | ok checked => rfl

theorem count_eq : count table.toValue conditions =
    countWhere table <$> Condition.ofPairs conditions := by
  rw [count, tableName_toValue]
  cases Condition.ofPairs conditions with
  | error fault => rfl
  | ok checked => rfl

theorem delete_eq : delete table.toValue conditions =
    deleteWhere table <$> Condition.ofPairs conditions := by
  rw [delete, tableName_toValue]
  cases Condition.ofPairs conditions with
  | error fault => rfl
  | ok checked => rfl

theorem update_eq {attrs : Pairs} {assignments : List Assignment}
    (h : Assignment.ofPairs attrs = .ok assignments) :
    update table.toValue (some attrs) conditions =
      updateWhere table assignments <$> Condition.ofPairs conditions := by
  have hrequired : Assignment.ofRequired (some attrs) = .ok assignments := h
  rw [update, tableName_toValue, hrequired]
  cases Condition.ofPairs conditions with
  | error fault => rfl
  | ok checked => rfl

theorem limitClause_one : limitClause (some (.int 1)) = .ok " LIMIT 1" := by
  have h : ¬tenPow digitLimit ≤ (1 : Int).natAbs := by decide +kernel
  have hdigits : integerText 1 = .ok "1" := if_neg h
  exact Outcome.bind_eq_ok.2 ⟨1, rfl, Outcome.bind_eq_ok.2 ⟨"1", hdigits, rfl⟩⟩

end Statement

/-- What a statement asks for, and the fragments of its clause. -/
inductive Query where
  | rows (fragments : List Fragment) (limited : Bool)
  | count (fragments : List Fragment)
  | delete (fragments : List Fragment)
  | change (column : String) (fragments : List Fragment)

def after? (opening text : String) : Option String :=
  (text.toList.dropPrefix? opening.toList).map String.ofList

def before? (ending text : String) : Option String :=
  (text.toList.dropSuffix? ending.toList).map String.ofList

def readWhere (clause : String) : Option (List Fragment) :=
  if clause = "" then some [] else after? " WHERE " clause >>= readClause

def readRows (rest : String) : Option Query :=
  ((readWhere rest).map fun fragments => .rows fragments false) <|>
    ((before? " LIMIT 1" rest >>= readWhere).map fun fragments => .rows fragments true)

def readChange (rest : String) : Option Query :=
  let (column, rest) := rest.toList.span (· != ' ')
  (after? " = ?" (String.ofList rest) >>= readWhere).map (.change (String.ofList column))

def readQuery (table sql : String) : Option Query :=
  (after? "SELECT * FROM " sql >>= after? table >>= readRows) <|>
  ((after? "SELECT COUNT(*) FROM " sql >>= after? table >>= readWhere).map .count) <|>
  ((after? "DELETE FROM " sql >>= after? table >>= readWhere).map .delete) <|>
  (after? "UPDATE " sql >>= after? table >>= after? " SET " >>= readChange)

theorem after_eq_some {opening text rest : String} :
    after? opening text = some rest ↔ text = opening ++ rest := by
  rw [after?, Option.map_eq_some_iff]
  constructor
  · rintro ⟨cs, hcs, rfl⟩
    obtain ⟨cs', htext, hopening⟩ := List.dropPrefix?_eq_some_iff.1 hcs
    rw [beq_iff_eq] at hopening
    apply String.toList_injective
    rw [String.toList_append, String.toList_ofList, htext, hopening]
  · rintro rfl
    refine ⟨rest.toList, ?_, String.ofList_toList⟩
    rw [String.toList_append]
    exact List.dropPrefix?_append_of_beq _ BEq.rfl

theorem after_append (opening rest : String) : after? opening (opening ++ rest) = some rest :=
  after_eq_some.2 rfl

theorem after_eq_none {opening other : String} (n : Nat) (rest : String)
    (h : n ≤ opening.toList.length ∧ n ≤ other.toList.length ∧
      opening.toList.take n ≠ other.toList.take n) : after? opening (other ++ rest) = none := by
  refine Option.eq_none_iff_forall_ne_some.2 fun found hfound => ?_
  exact append_ne_append n h found rest (after_eq_some.1 hfound).symm

theorem before_append (text ending : String) : before? ending (text ++ ending) = some text := by
  rw [before?, String.toList_append,
    List.dropSuffix?_eq_some_iff.2 ⟨ending.toList, rfl, BEq.rfl⟩, Option.map_some,
    String.ofList_toList]

open Condition (whereClause joined fragment)

theorem whereClause_cons (first : Condition) (rest : List Condition) :
    whereClause (first :: rest) = " WHERE " ++ joined (first :: rest) := rfl

theorem readWhere_whereClause (conditions : List Condition) :
    readWhere (whereClause conditions) = some (conditions.map fragment) := by
  cases conditions with
  | nil => rfl
  | cons first rest =>
      have hne : " WHERE " ++ joined (first :: rest) ≠ "" := by simp
      rw [whereClause_cons, readWhere, if_neg hne, after_append]
      exact Condition.readClause_joined (first :: rest)

theorem readWhere_limited (conditions : List Condition) :
    readWhere (whereClause conditions ++ " LIMIT 1") = none := by
  have hlimit : " LIMIT 1".toList.dropPrefix? conjunction = none := by decide
  cases conditions with
  | nil => decide
  | cons first rest =>
      have hne : " WHERE " ++ (joined (first :: rest) ++ " LIMIT 1") ≠ "" := by simp
      have hcs : (joined (first :: rest) ++ " LIMIT 1").toList.isEmpty = false := by simp
      rw [whereClause_cons, String.append_assoc, readWhere, if_neg hne, after_append]
      change readClause _ = none
      rw [readClause, hcs, String.toList_append]
      exact Condition.readFragments_unfinished first rest rfl hlimit

/-! ## Reading statements -/

namespace Statement

variable (table : Identifier) (conditions : List Condition)

theorem read_rowsWhere : readQuery table.text (rowsWhere table conditions "").sql =
    some (.rows (conditions.map fragment) false) := by
  have hsql : (rowsWhere table conditions "").sql =
      "SELECT * FROM " ++ (table.text ++ whereClause conditions) := by
    unfold rowsWhere
    rw [String.append_empty, String.append_assoc]
  have hrows := after_append "SELECT * FROM " (table.text ++ whereClause conditions)
  have htable := after_append table.text (whereClause conditions)
  rw [hsql]
  simp [readQuery, hrows, htable, readRows, readWhere_whereClause]

theorem read_rowsWhere_limited : readQuery table.text (rowsWhere table conditions " LIMIT 1").sql =
    some (.rows (conditions.map fragment) true) := by
  have hsql : (rowsWhere table conditions " LIMIT 1").sql =
      "SELECT * FROM " ++ (table.text ++ (whereClause conditions ++ " LIMIT 1")) := by
    unfold rowsWhere
    simp only [String.append_assoc]
  have hrows := after_append "SELECT * FROM "
    (table.text ++ (whereClause conditions ++ " LIMIT 1"))
  have htable := after_append table.text (whereClause conditions ++ " LIMIT 1")
  rw [hsql]
  simp [readQuery, hrows, htable, readRows, readWhere_limited, before_append, readWhere_whereClause]

theorem read_countWhere : readQuery table.text (countWhere table conditions).sql =
    some (.count (conditions.map fragment)) := by
  have hsql : (countWhere table conditions).sql =
      "SELECT COUNT(*) FROM " ++ (table.text ++ whereClause conditions) := by
    unfold countWhere
    exact String.append_assoc
  have hrows : after? "SELECT * FROM "
      ("SELECT COUNT(*) FROM " ++ (table.text ++ whereClause conditions)) = none :=
    after_eq_none 8 _ (by decide)
  have hcount := after_append "SELECT COUNT(*) FROM " (table.text ++ whereClause conditions)
  have htable := after_append table.text (whereClause conditions)
  rw [hsql]
  simp [readQuery, hrows, hcount, htable, readWhere_whereClause]

theorem read_deleteWhere : readQuery table.text (deleteWhere table conditions).sql =
    some (.delete (conditions.map fragment)) := by
  have hsql : (deleteWhere table conditions).sql =
      "DELETE FROM " ++ (table.text ++ whereClause conditions) := by
    unfold deleteWhere
    exact String.append_assoc
  have hrows : after? "SELECT * FROM "
      ("DELETE FROM " ++ (table.text ++ whereClause conditions)) = none :=
    after_eq_none 1 _ (by decide)
  have hcount : after? "SELECT COUNT(*) FROM "
      ("DELETE FROM " ++ (table.text ++ whereClause conditions)) = none :=
    after_eq_none 1 _ (by decide)
  have hdelete := after_append "DELETE FROM " (table.text ++ whereClause conditions)
  have htable := after_append table.text (whereClause conditions)
  rw [hsql]
  simp [readQuery, hrows, hcount, hdelete, htable, readWhere_whereClause]

theorem read_updateWhere (assignments : List Assignment) :
    readQuery table.text (updateWhere table assignments conditions).sql =
      readChange (Assignment.setClause assignments ++ whereClause conditions) := by
  have hsql : ∀ rest, ("UPDATE " ++ table.text ++ " SET " ++ rest : String) =
      "UPDATE " ++ (table.text ++ (" SET " ++ rest)) := by
    intro rest
    simp only [String.append_assoc]
  have hother : ∀ opening rest, opening = "SELECT * FROM " ∨ opening = "SELECT COUNT(*) FROM " ∨
      opening = "DELETE FROM " → after? opening ("UPDATE " ++ rest) = none := by
    rintro opening rest (rfl | rfl | rfl) <;> exact after_eq_none 1 rest (by decide)
  have hupdate := fun rest => after_append "UPDATE " (table.text ++ (" SET " ++ rest))
  have htable := fun rest => after_append table.text (" SET " ++ rest)
  have hset := fun rest => after_append " SET " rest
  rw [updateWhere, String.append_assoc, hsql]
  simp [readQuery, hother, hupdate, htable, hset]

end Statement

theorem readChange_column (column : Identifier) (rest : String) :
    readChange (column.text ++ (" = ?" ++ rest)) =
      (readWhere rest).map (.change column.text) := by
  have hcs : " = ?".toList = ' ' :: ['=', ' ', '?'] := by decide
  have hspan := span_space column.space_notMem (['=', ' ', '?'] ++ rest.toList)
  have hrest : String.ofList (' ' :: (['=', ' ', '?'] ++ rest.toList)) = " = ?" ++ rest := by
    apply String.toList_injective
    rw [String.toList_ofList, String.toList_append, hcs]
    rfl
  have hafter := after_append " = ?" rest
  rw [readChange, String.toList_append, String.toList_append, hcs, List.cons_append, hspan]
  simp only [hrest, hafter, String.ofList_toList, Option.bind_eq_bind, Option.bind_some]

theorem readChange_whereClause (conditions : List Condition) :
    readChange (whereClause conditions) = none := by
  cases conditions with
  | nil => decide
  | cons first rest =>
      have hcs : " WHERE ".toList = ' ' :: ['W', 'H', 'E', 'R', 'E', ' '] := by decide
      have hspan := span_space (List.not_mem_nil (a := ' '))
        (['W', 'H', 'E', 'R', 'E', ' '] ++ (joined (first :: rest)).toList)
      rw [List.nil_append] at hspan
      have hother : after? " = ?" (" WHERE " ++ joined (first :: rest)) = none :=
        after_eq_none 2 _ (by decide)
      have hall : String.ofList (' ' :: (['W', 'H', 'E', 'R', 'E', ' '] ++
          (joined (first :: rest)).toList)) = " WHERE " ++ joined (first :: rest) := by
        apply String.toList_injective
        rw [String.toList_ofList, String.toList_append, hcs]
        rfl
      rw [whereClause_cons, readChange, String.toList_append, hcs, List.cons_append, hspan]
      simp only [hall, hother]
      rfl

theorem readWhere_comma (rest : String) : readWhere (", " ++ rest) = none := by
  have hne : ", " ++ rest ≠ "" := by simp
  have hother : after? " WHERE " (", " ++ rest) = none := after_eq_none 1 rest (by decide)
  rw [readWhere, if_neg hne, hother]
  rfl

open Assignment (setClause)

theorem setClause_cons_cons (first second : Assignment) (rest : List Assignment) :
    setClause (first :: second :: rest) =
      first.column.text ++ " = ?" ++ ", " ++ setClause (second :: rest) :=
  String.intercalate_cons_cons

theorem read_setClause_single (assignment : Assignment) (conditions : List Condition) :
    readChange (setClause [assignment] ++ whereClause conditions) =
      some (.change assignment.column.text (conditions.map fragment)) := by
  have htext : setClause [assignment] = assignment.column.text ++ " = ?" := by simp [setClause]
  rw [htext, String.append_assoc, readChange_column, readWhere_whereClause, Option.map_some]

theorem readChange_several (first second : Assignment) (rest : List Assignment)
    (conditions : List Condition) :
    readChange (setClause (first :: second :: rest) ++ whereClause conditions) = none := by
  have hassoc : ∀ c q m s w : String, c ++ q ++ m ++ s ++ w = c ++ (q ++ (m ++ (s ++ w))) := by
    intro c q m s w
    simp only [String.append_assoc]
  rewrite [setClause_cons_cons, hassoc, readChange_column, readWhere_comma]
  rfl

theorem readChange_nothing (conditions : List Condition) :
    readChange (setClause [] ++ whereClause conditions) = none := by
  have hempty : setClause [] = "" := rfl
  rewrite [hempty, String.empty_append]
  exact readChange_whereClause conditions

end TableRecords
