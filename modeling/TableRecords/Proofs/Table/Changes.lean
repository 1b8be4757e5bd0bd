import Mathlib
import TableRecords.Proofs.Store.InPlace
import TableRecords.Table.Search

/-! # What changes records and tables

A record is assigned, deleted and reloaded in place, and a table is made searchable in place. Each
change is the last thing that is done, so that one that fails leaves the object as it was.
-/

namespace TableRecords

variable {σ : Type}

namespace Record

variable (db : Database σ) (record : Record)

theorem value_putItem (key v : Value) : (putItem key v : InPlace Record σ Unit).value record =
    Action.ofExcept (do
      if key.same primaryKey.toValue then throw .keyAssigned
      match ← record.item? key with
      | some _ => pure (record.setField key v)
      | none => throw (.noColumn record.table key)) >>= fun after => pure ((), after) := by
  rw [putItem, InPlace.value_bind, InPlace.value_held, pure_bind]
  split
  · rfl
  · generalize record.item? key = outcome
    cases outcome with
    | error fault => rfl
    | ok found => cases found <;> rfl

theorem setItem_eq (key v : Value) : record.setItem key v = (do
    if key.same primaryKey.toValue then throw .keyAssigned
    match ← record.item? key with
    | some _ => pure (record.setField key v)
    | none => throw (.noColumn record.table key)) :=
  InPlace.changed_of_value (record.value_putItem key v)

theorem value_putItem_eq (key v : Value) : (putItem key v : InPlace Record σ Unit).value record =
    Action.ofExcept (record.setItem key v) >>= fun after => pure ((), after) := by
  rw [value_putItem, setItem_eq]

theorem setAttribute_eq (name : String) (v : Value) : record.setAttribute name v =
    if name ≠ primaryKey.text ∧ shadowsAttribute name then .error (.attributeAssigned name)
    else record.setItem (.text name) v := by
  unfold setAttribute putAttribute
  split <;> rfl

theorem value_putAttribute_eq (name : String) (v : Value) :
    (putAttribute name v : InPlace Record σ Unit).value record =
      Action.ofExcept (record.setAttribute name v) >>= fun after => pure ((), after) := by
  rw [setAttribute_eq, putAttribute]
  split
  · rfl
  · exact record.value_putItem_eq (.text name) v

theorem framed_putItem (key v : Value) : (putItem key v : InPlace Record σ Unit).Framed := by
  refine InPlace.keeps_held.bind_framed fun record => ?_
  split
  · exact (InPlace.keeps_throw _).framed
  · refine (InPlace.keeps_ofExcept _).bind_framed fun found => ?_
    cases found with
    | none => exact (InPlace.keeps_throw _).framed
    | some _ => exact (InPlace.succeeds_assign _).framed

theorem framed_putAttribute (name : String) (v : Value) :
    (putAttribute name v : InPlace Record σ Unit).Framed := by
  unfold putAttribute
  split
  · exact (InPlace.keeps_throw _).framed
  · exact framed_putItem _ v

theorem value_deleteRow : (deleteRow db).value record = (do
    Action.ofExcept (record.ensureAlive "delete")
    let statement ← Action.ofExcept (Statement.deleteById record.table record.id)
    let _ ← db.execute statement
    record.note "Deleted record" []
    pure ((), { record with deleted := true })) := by
  simp [deleteRow, note]

theorem framed_deleteRow : (deleteRow db).Framed := by
  refine InPlace.keeps_held.bind_framed fun record =>
    (InPlace.keeps_ofExcept _).bind_framed fun _ =>
      (InPlace.keeps_ofExcept _).bind_framed fun statement =>
        (InPlace.keeps_onStore _).bind_framed fun _ => ?_
  exact (InPlace.succeeds_assign _).framed.bind_succeeds fun _ => InPlace.succeeds_log _

theorem value_reloadRow : (reloadRow db).value record = (do
    Action.ofExcept (record.ensureAlive "reload")
    let statement ← Action.ofExcept (Statement.selectById record.table record.id)
    match ← db.queryRow statement with
    | none => pure (false, record)
    | some row => pure (true, record.refresh row)) := by
  simp only [reloadRow, InPlace.value_bind, InPlace.value_held, InPlace.value_ofExcept,
    InPlace.value_onStore, bind_assoc, pure_bind]
  refine bind_congr fun _ => bind_congr fun statement => bind_congr fun found => ?_
  cases found <;> rfl

theorem framed_reloadRow : (reloadRow db).Framed := by
  refine InPlace.keeps_held.bind_framed fun record =>
    (InPlace.keeps_ofExcept _).bind_framed fun _ =>
      (InPlace.keeps_ofExcept _).bind_framed fun statement =>
        (InPlace.keeps_onStore _).bind_framed fun found => ?_
  cases found with
  | none => exact (InPlace.keeps_pure false).framed
  | some row =>
      exact (InPlace.succeeds_assign _).framed.bind_succeeds fun _ => InPlace.succeeds_pure true

end Record

namespace Table

variable (db : Database σ) (table : Table) (columns : List Value)

theorem value_makeSearchable : (makeSearchable db columns).value table = (do
    let columns ← Action.ofExcept (table.searchColumnsOf columns)
    let found ← table.indexedColumns db
    if !namesColumns found columns then
      db.transaction (table.rebuildIndex db columns)
      Action.log (table.entry Level.info "Built search index" [("columns", namesValue columns)])
    pure ((), { table with searchColumns := some columns })) := by
  simp only [makeSearchable, InPlace.value_bind, InPlace.value_held, InPlace.value_ofExcept,
    InPlace.value_onStore, bind_assoc, pure_bind]
  refine bind_congr fun columns => bind_congr fun found => ?_
  split <;> simp

theorem value_makeSearchable_eq : (makeSearchable db columns).value table =
    table.searchable db columns >>= fun after => pure ((), after) := by
  simp [searchable]

theorem searchable_eq : table.searchable db columns = (do
    let columns ← Action.ofExcept (table.searchColumnsOf columns)
    let found ← table.indexedColumns db
    if !namesColumns found columns then
      db.transaction (table.rebuildIndex db columns)
      Action.log (table.entry Level.info "Built search index" [("columns", namesValue columns)])
    pure { table with searchColumns := some columns }) := by
  rw [searchable, value_makeSearchable]
  simp only [bind_assoc]
  refine bind_congr fun columns => bind_congr fun found => ?_
  split <;> simp

theorem framed_makeSearchable : (makeSearchable db columns).Framed := by
  refine InPlace.keeps_held.bind_framed fun table =>
    (InPlace.keeps_ofExcept _).bind_framed fun columns =>
      (InPlace.keeps_onStore _).bind_framed fun found => ?_
  have hassign := (InPlace.succeeds_assign (σ := σ)
    { table with searchColumns := some columns }).framed
  split
  · exact (InPlace.keeps_onStore _).bind_framed fun _ =>
      (InPlace.keeps_log _).bind_framed fun _ => hassign
  · exact (InPlace.keeps_pure ()).bind_framed fun _ => hassign

end Table

end TableRecords
