import Mathlib
import TableRecords.Proofs.Record.Saving

/-! # Access to fields

The fields of a record are reached as attributes and as items. A table has no column that one of a
record's own attributes would hide, so both routes lead to the same fields, whatever was assigned
before by either of them. What is no field cannot be assigned by any route.
-/

namespace TableRecords

variable {σ : Type}

namespace Table

/-- Whether no column of a table is hidden by an attribute of its records. -/
def Unhidden (table : Table) : Prop :=
  ∀ column ∈ table.schemaColumns, shadowsAttribute column.text = false

theorem shadowsAttribute_of_checkColumn {table column : Identifier} {u : Unit}
    (h : checkColumn table column = .ok u) : shadowsAttribute column.text = false := by
  unfold checkColumn at h
  split at h
  · cases h
  · rename_i hshadows
    simpa using hshadows

theorem unhidden_define (db : Database σ) (name : Value) (schema : Option Pairs) :
    db.Yields (define (db.recording Unit) name schema) (define db name schema)
      fun _ table => table.Unhidden := by
  refine (yields_define db name schema).imp fun _ _ hdefined table htable column hm => ?_
  obtain ⟨identifier, columns, -, -, hcolumns, rfl⟩ := hdefined table htable
  obtain ⟨entry, hentry, rfl⟩ := List.mem_map.1 hm
  exact shadowsAttribute_of_checkColumn (schemaOf_ok hcolumns hentry).1

theorem Accepted.unhidden {db : Database σ} {table : Table} (h : table.Accepted db) :
    table.Unhidden := by
  induction h with
  | defined h => exact (unhidden_define _ _ _).of_sends h _ rfl
  | indexed _ h ih =>
      have hschema := (schema_searchable _ _ _).of_sends h _ rfl
      intro column hm
      rw [schemaColumns, hschema] at hm
      exact ih column hm

theorem Sound.text_ne {table : Table} (h : table.Sound) {column : Identifier}
    (hc : column ∈ table.schemaColumns) : column.text ≠ primaryKey.text := fun heq =>
  (h column hc).1 (Identifier.toValue_injective (congrArg Value.text heq))

theorem Owns.has {table : Table} {record : Record} (h : table.Owns record) {column : Identifier}
    (hc : column ∈ table.columns) : record.fields.has column.toValue = true :=
  Fields.has_iff.2
    ⟨column.toValue, (h.keys _).2 (List.mem_map_of_mem hc), Value.same_text_iff.2 rfl⟩

end Table

namespace Record

/-- An assignment to a record, by either route. -/
inductive Edit where
  | member (name : String) (v : Value)
  | item (key v : Value)

namespace Edit

def key : Edit → Value
  | member name _ => .text name
  | item key _ => key

def value : Edit → Value
  | member _ v => v
  | item _ v => v

def make : Edit → InPlace Record σ Unit
  | member name v => putAttribute name v
  | item key v => putItem key v

def made (record : Record) (edit : Edit) : Except Fault Record := edit.make.changed record

/-- The faults of an edit that names no field: an attribute of another kind is reserved, and what
cannot be a key at all is refused as such. -/
def IsRefusedBy (fault : Fault) : Edit → Prop
  | member name _ =>
    fault.kind = if shadowsAttribute name then .reservedColumn else .missingAttribute
  | item key _ =>
    match key.checkKey with
    | .ok _ => fault.kind = .missingAttribute
    | .error unfit => fault = unfit

end Edit

/-- How an edit ends, and the record after it. -/
def editing (record : Record) (edit : Edit) : Except Fault Unit × Record := edit.make.alone record

def edited (record : Record) (edit : Edit) : Record := (record.editing edit).2

def editedBy (record : Record) (edits : List Edit) : Record := edits.foldl edited record

/-- The value that was last assigned to a column. -/
def lastValue? (column : Identifier) (edits : List Edit) : Option Value :=
  (edits.reverse.find? fun edit => edit.key.same column.toValue).map Edit.value

variable {record after : Record} {name : String} {key v : Value} {edit : Edit}

theorem shadows_of_mem_ownAttributes (h : name ∈ record.ownAttributes.map Prod.fst) :
    shadowsAttribute name = true := by
  have hnames : ∀ own ∈ ["id", "table", "annotations", "is_deleted", "_db", "_table", "_fields",
      "_annotations", "_deleted", "__dict__"], shadowsAttribute own = true := by decide
  exact hnames name h

theorem common_eq_none (h : isMember name = false) : Attribute.common? name = none := by
  unfold Attribute.common?
  split
  · exact absurd h (by decide)
  · exact absurd h (by decide)
  · exact absurd h (by decide)
  · rw [h]
    rfl

/-- Whatever attribute a record has besides its fields hides a column of that name. -/
theorem ownAttribute_eq_none (h : shadowsAttribute name = false) :
    record.ownAttribute? name = none := by
  have hown : record.ownAttributes.lookup name = none := by
    refine List.lookup_eq_none_iff.2 fun entry hm => ?_
    have hne : name ≠ entry.1 := by
      rintro rfl
      rw [shadows_of_mem_ownAttributes (List.mem_map_of_mem hm)] at h
      cases h
    simpa using hne
  have hmember : isMember name = false := by
    simp only [shadowsAttribute, Bool.or_eq_false_iff] at h
    exact h.1.2
  rw [ownAttribute?, hown, common_eq_none hmember]
  rfl

theorem getAttribute_of_get (h : shadowsAttribute name = false)
    (hv : record.fields.get? (.text name) = some v) :
    record.getAttribute name = .ok (.value v) := by
  rw [getAttribute, ownAttribute_eq_none h]
  simp only [hv]

theorem get_primaryKey (record : Record) :
    record.fields.get? primaryKey.toValue = some record.id := by
  obtain ⟨v, hv⟩ := Option.isSome_iff_exists.1 (Fields.has_iff_get.1 record.keyed)
  rw [id, hv]
  rfl

theorem item_of_get (hv : record.fields.get? (.text name) = some v) :
    record.item (.text name) = .ok v := by
  have hitem : record.item? (.text name) = .ok (some v) := by rw [← hv]; rfl
  rw [item, hitem]
  rfl

theorem setItem_of_has (h : record.fields.has (.text name) = true) (hid : name ≠ primaryKey.text) :
    record.setItem (.text name) v = .ok (record.setField (.text name) v) := by
  have hsame : (Value.text name).same primaryKey.toValue = false := by
    simpa [Identifier.toValue] using hid
  obtain ⟨w, hw⟩ := Option.isSome_iff_exists.1 (Fields.has_iff_get.1 h)
  have hitem : record.item? (.text name) = .ok (some w) := by rw [← hw]; rfl
  rw [setItem_eq, hsame, hitem]
  rfl

theorem setItem_of_not_has (h : record.fields.has key = false)
    (hid : key.same primaryKey.toValue = false) :
    record.setItem key v =
      key.checkKey >>= fun _ => .error (.noColumn record.table key) := by
  have hget : record.fields.get? key = none := Fields.get_eq_none (by simp [h])
  rw [setItem_eq, hid, item?, hget]
  cases key.checkKey <;> rfl

theorem setAttribute_of_unhidden (h : shadowsAttribute name = false) :
    record.setAttribute name v = record.setItem (.text name) v := by
  rw [setAttribute_eq, if_neg]
  simp [h]

namespace Edit

/-- An edit that succeeds sets the field that it names. -/
theorem made_ok (h : edit.made record = .ok after) :
    record.fields.has edit.key = true ∧ edit.key.same primaryKey.toValue = false ∧
      after = record.setField edit.key edit.value := by
  cases edit with
  | member name v => exact setItem_ok (setAttribute_ok h)
  | item key v => exact setItem_ok h

/-- A field that no attribute hides is set by both routes. -/
theorem editing_of_has (h : record.fields.has (.text name) = true) (hid : name ≠ primaryKey.text)
    (hshadows : shadowsAttribute name = false) (hkey : edit.key = .text name) :
    record.editing edit = (.ok (), record.setField (.text name) edit.value) := by
  refine InPlace.alone_of_changed_ok ?_
  cases edit with
  | member other v =>
      cases hkey
      exact (setAttribute_of_unhidden hshadows).trans (setItem_of_has h hid)
  | item key v =>
      cases hkey
      exact setItem_of_has h hid

theorem framed_make (edit : Edit) : (edit.make : InPlace Record σ Unit).Framed := by
  cases edit with
  | member name v => exact framed_putAttribute name v
  | item key v => exact framed_putItem key v

/-- An edit that fails leaves the record as it was. -/
theorem editing_of_error {fault : Fault} (h : edit.made record = .error fault) :
    record.editing edit = (.error fault, record) :=
  edit.framed_make.alone_of_changed_error h

theorem made_primaryKey (h : edit.key = primaryKey.toValue) :
    edit.made record = .error .keyAssigned := by
  cases edit with
  | member name v =>
      have hname : name = primaryKey.text := Value.text.inj h
      have hmade : (Edit.member name v).made record = _ := record.setAttribute_eq name v
      rw [hmade, if_neg fun hhidden => hhidden.1 hname, hname]
      rfl
  | item key v =>
      cases h
      rfl

theorem made_of_not_has (h : record.fields.has edit.key = false) :
    ∃ fault, edit.made record = .error fault ∧ edit.IsRefusedBy fault := by
  have hid : edit.key.same primaryKey.toValue = false := by
    by_contra hsame
    have hkey := Value.same_text_iff.1 (Bool.eq_true_of_not_eq_false hsame)
    rw [hkey] at h
    cases h.symm.trans record.keyed
  cases edit with
  | member name v =>
      by_cases hshadows : shadowsAttribute name = true
      · have hname : name ≠ primaryKey.text := by
          rintro rfl
          cases hid
        refine ⟨.attributeAssigned name, ?_, ?_⟩
        · exact (record.setAttribute_eq name v).trans (if_pos ⟨hname, hshadows⟩)
        · rw [IsRefusedBy, if_pos hshadows]
          rfl
      · have hunhidden := Bool.eq_false_of_not_eq_true hshadows
        refine ⟨.noColumn record.table (.text name), ?_, ?_⟩
        · exact (setAttribute_of_unhidden hunhidden).trans (setItem_of_not_has h hid)
        · rw [IsRefusedBy, if_neg hshadows]
          rfl
  | item key v =>
      have hmade : (Edit.item key v).made record = _ := setItem_of_not_has h hid
      rw [hmade]
      simp only [IsRefusedBy]
      cases key.checkKey with
      | ok _ => exact ⟨_, rfl, rfl⟩
      | error unfit => exact ⟨unfit, rfl, rfl⟩

end Edit

/-! ## Edits one after the other -/

theorem edited_resembles (record : Record) (edit : Edit) :
    (record.edited edit).Resembles record := by
  unfold edited
  cases h : edit.made record with
  | error fault =>
      rw [Edit.editing_of_error h]
      exact .refl record
  | ok after =>
      obtain ⟨hhas, hid, rfl⟩ := Edit.made_ok h
      have hediting : record.editing edit = _ := InPlace.alone_of_changed_ok h
      rw [hediting]
      exact resembles_setField hhas hid _

theorem editedBy_resembles (record : Record) (edits : List Edit) :
    (record.editedBy edits).Resembles record := by
  induction edits generalizing record with
  | nil => exact .refl record
  | cons edit rest ih => exact (ih (record.edited edit)).trans (record.edited_resembles edit)

end Record

namespace Table

open Record (Edit lastValue?)

variable {table : Table} {record : Record} {column : Identifier}

/-- An edit sets a column that it names, and leaves every other alone. -/
theorem Owns.get_edited (h : table.Owns record) (hs : table.Sound) (hu : table.Unhidden)
    (hc : column ∈ table.schemaColumns) (edit : Edit) :
    (record.edited edit).fields.get? column.toValue =
      if edit.key.same column.toValue then some edit.value
      else record.fields.get? column.toValue := by
  unfold Record.edited
  cases hmade : edit.made record with
  | ok after =>
      obtain ⟨-, -, rfl⟩ := Edit.made_ok hmade
      have hediting : record.editing edit = _ := InPlace.alone_of_changed_ok hmade
      rw [hediting]
      exact Fields.get_set
  | error fault =>
      have hediting := Edit.editing_of_error hmade
      rw [hediting, if_neg]
      intro hsame
      -- an edit that names the column does not fail
      have hset := Edit.editing_of_has (h.has (List.mem_cons_of_mem _ hc)) (hs.text_ne hc)
        (hu column hc) (Value.same_text_iff.1 hsame)
      exact absurd (hset.symm.trans hediting) nofun

theorem Owns.get_editedBy (h : table.Owns record) (hs : table.Sound) (hu : table.Unhidden)
    (hc : column ∈ table.schemaColumns) (edits : List Edit) :
    (record.editedBy edits).fields.get? column.toValue =
      (lastValue? column edits).or (record.fields.get? column.toValue) := by
  induction edits generalizing record with
  | nil => rfl
  | cons edit rest ih =>
      have hedited := h.of_resembles (record.edited_resembles edit)
      have hlast : lastValue? column (edit :: rest) = (lastValue? column rest).or
          (if edit.key.same column.toValue then some edit.value else none) := by
        rw [lastValue?, List.reverse_cons, List.find?_append, List.find?_singleton, Option.map_or]
        split <;> rfl
      have hstep := ih hedited
      rw [h.get_edited hs hu hc] at hstep
      rw [hlast, Option.or_assoc]
      refine hstep.trans (congrArg _ ?_)
      split <;> rfl

end Table

namespace Record

/-- Whether a record differs from another in the value of one column, and in nothing else. -/
structure ChangesOnly (record after : Record) (column : Identifier) (v : Value) : Prop where
  changed : after.fields.get? column.toValue = some v
  kept : ∀ key, key ≠ column.toValue → after.fields.get? key = record.fields.get? key
  keys : after.fields.keys = record.fields.keys
  table : after.table = record.table
  annotations : after.annotations = record.annotations
  deleted : after.deleted = record.deleted

theorem changesOnly_setField (record : Record) {column : Identifier}
    (h : record.fields.has column.toValue = true) (v : Value) :
    record.ChangesOnly (record.setField column.toValue v) column v where
  changed := Fields.get_set.trans (if_pos (Value.same_text_iff.2 rfl))
  kept key hkey := by
    refine Fields.get_set.trans (if_neg fun hsame => hkey ?_)
    rw [Value.same_comm] at hsame
    exact Value.same_text_iff.1 hsame
  keys := Fields.keys_set h
  table := rfl
  annotations := rfl
  deleted := rfl

/-- What is so of a record of a table after edits were made. -/
structure AccessLaw (table : Table) (record : Record) (edits : List Edit) (after : Record) :
    Prop where
  /-- A column is read alike by both routes: what was last assigned to it, or else the row's. -/
  read : ∀ column ∈ table.schemaColumns, ∃ v, after.getAttribute column.text = .ok (.value v) ∧
    after.item column.toValue = .ok v ∧
    (lastValue? column edits).or (record.fields.get? column.toValue) = some v
  readKey : ∃ v, after.getAttribute primaryKey.text = .ok (.value v) ∧
    after.item primaryKey.toValue = .ok v ∧ record.fields.get? primaryKey.toValue = some v
  assigned : ∀ column ∈ table.schemaColumns, ∀ v, ∃ changed,
    after.editing (.member column.text v) = (.ok (), changed) ∧
    after.editing (.item column.toValue v) = (.ok (), changed) ∧
    after.ChangesOnly changed column v
  assignedKey : ∀ edit : Edit, edit.key = primaryKey.toValue →
    ∃ fault, after.editing edit = (.error fault, after) ∧ fault.kind = .reservedColumn
  /-- What is no field is refused, and everything is left as it was. -/
  assignedOther : ∀ edit : Edit, after.fields.has edit.key = false →
    ∃ fault, after.editing edit = (.error fault, after) ∧ edit.IsRefusedBy fault

end Record

/-- After any edits a record of an accepted table obeys the law of access: attributes and items are
the same fields. -/
theorem fields_reached_alike {db : Database σ} {table : Table} {record : Record}
    (accepted : table.Accepted db) (owned : table.Owns record) (edits : List Record.Edit) :
    Record.AccessLaw table record edits (record.editedBy edits) where
  read column hc := by
    have hcolumn := owned.get_editedBy accepted.sound accepted.unhidden hc edits
    have howned := owned.of_resembles (record.editedBy_resembles edits)
    obtain ⟨v, hv⟩ := Option.isSome_iff_exists.1
      (Fields.has_iff_get.1 (howned.has (List.mem_cons_of_mem _ hc)))
    exact ⟨v, Record.getAttribute_of_get (accepted.unhidden column hc) hv, Record.item_of_get hv,
      hcolumn.symm.trans hv⟩
  readKey := by
    have hid := (record.editedBy_resembles edits).id
    refine ⟨record.id, ?_, ?_, record.get_primaryKey⟩
    · rw [← hid]
      rfl
    · rw [← hid]
      exact Record.item_of_get (Record.get_primaryKey _)
  assigned column hc v := by
    have howned := owned.of_resembles (record.editedBy_resembles edits)
    have hhas := howned.has (List.mem_cons_of_mem _ hc)
    have hset : ∀ edit : Record.Edit, edit.key = column.toValue → _ := fun edit =>
      Record.Edit.editing_of_has hhas (accepted.sound.text_ne hc) (accepted.unhidden column hc)
    exact ⟨_, hset (.member column.text v) rfl, hset (.item column.toValue v) rfl,
      Record.changesOnly_setField _ hhas v⟩
  assignedKey edit hkey :=
    ⟨.keyAssigned, Record.Edit.editing_of_error (Record.Edit.made_primaryKey hkey), rfl⟩
  assignedOther edit h := by
    obtain ⟨fault, hmade, hrefused⟩ := Record.Edit.made_of_not_has h
    exact ⟨fault, Record.Edit.editing_of_error hmade, hrefused⟩

theorem note_title_reached_alike :
    searchableNotes.Accepted Playback.database ∧ searchableNotes.Owns (note "seen") ∧
      let edits := [.member "title" (.text "kept"), .item (.text "id") (.int 2),
        .member "save" .null, .item (.text "body") .null]
      ((note "seen").editedBy edits).getAttribute "title" = .ok (.value (.text "kept")) ∧
        ((note "seen").editedBy edits).item (.text "title") = .ok (.text "kept") := by
  have howned := Table.Produces.owns _ produced_note accepted_notes.sound
  refine ⟨accepted_notes, howned, ?_⟩
  intro edits
  obtain ⟨v, hattribute, hitem, hv⟩ :=
    (fields_reached_alike accepted_notes howned edits).read ⟨"title", by decide⟩ (by decide)
  obtain rfl : Value.text "kept" = v := Option.some.inj hv
  exact ⟨hattribute, hitem⟩

end TableRecords
