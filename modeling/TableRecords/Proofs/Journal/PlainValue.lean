import Mathlib
import TableRecords.Proofs.Journal.JsonReader

/-! # Plain values

The values that JSON has too: null, truth values, integers, text, lists and maps by text. Each of
them has a JSON form, which is read as itself and stands for that value and no other.
-/

namespace TableRecords

namespace JsonValue

mutual

/-- The value that JSON stands for. -/
def toValue? : JsonValue → Option Value
  | null => some .null
  | bool b => some (.bool b)
  | int n => some (.int n)
  | real x => some (.real x)
  | text points => points.toString?.map .text
  | list items => (toItems? items).map .list
  | object members => (toEntries? members).map fun entries => .map (named entries)

def toItems? : List JsonValue → Option (List Value)
  | [] => some []
  | item :: rest => do
    let v ← item.toValue?
    let items ← toItems? rest
    pure (v :: items)

def toEntries? : List (String × JsonValue) → Option (List (String × Value))
  | [] => some []
  | (name, item) :: rest => do
    let v ← item.toValue?
    let entries ← toEntries? rest
    pure ((name, v) :: entries)

end

end JsonValue

namespace Value

/-- The values that JSON has too. -/
inductive IsPlain : Value → Prop
  | null : IsPlain .null
  | bool (b : Bool) : IsPlain (.bool b)
  | int (n : Int) : IsPlain (.int n)
  | text (s : String) : IsPlain (.text s)
  | list {items : List Value} (h : ∀ v ∈ items, IsPlain v) : IsPlain (.list items)
  | map {entries : List (String × Value)} (h : ∀ entry ∈ entries, IsPlain entry.2) :
    IsPlain (.map (named entries))

/-- Whether a value has a JSON form that is read as itself and stands for the value. -/
def IsKept (v : Value) : Prop :=
  ∃ j, JsonValue.ofValue v = .ok j ∧ j.ReadsAs j ∧ j.toValue? = some v

end Value

open JsonValue

theorem ofItems_kept {items : List Value} (h : ∀ v ∈ items, v.IsKept) :
    ∃ js, ofItems items = .ok js ∧ (∀ j ∈ js, j.ReadsAs j) ∧ toItems? js = some items := by
  induction items with
  | nil => exact ⟨[], rfl, List.forall_mem_nil _, rfl⟩
  | cons v items ih =>
      obtain ⟨⟨j, hj, hread, hv⟩, hitems⟩ := List.forall_mem_cons.1 h
      obtain ⟨js, hjs, hreads, hvs⟩ := ih hitems
      refine ⟨j :: js, ?_, List.forall_mem_cons.2 ⟨hread, hreads⟩, ?_⟩
      · rw [ofItems, hj, hjs]
        rfl
      · simp [toItems?, hv, hvs]

theorem ofEntries_kept {entries : List (String × Value)} (h : ∀ entry ∈ entries, entry.2.IsKept) :
    ∃ members, ofEntries (named entries) = .ok members ∧ (∀ member ∈ members,
      member.2.ReadsAs member.2) ∧ toEntries? members = some entries := by
  induction entries with
  | nil => exact ⟨[], rfl, List.forall_mem_nil _, rfl⟩
  | cons entry entries ih =>
      obtain ⟨name, v⟩ := entry
      obtain ⟨⟨j, hj, hread, hv⟩, hentries⟩ := List.forall_mem_cons.1 h
      obtain ⟨members, hmembers, hreads, hvs⟩ := ih hentries
      refine ⟨(name, j) :: members, ?_, List.forall_mem_cons.2 ⟨hread, hreads⟩, ?_⟩
      · change ofEntries ((.text name, v) :: named entries) = _
        rw [ofEntries, hj, hmembers]
        rfl
      · simp [toEntries?, hv, hvs]

theorem Value.IsPlain.isKept {v : Value} (h : v.IsPlain) : v.IsKept := by
  induction h with
  | null => exact ⟨.null, rfl, readsAs_null, rfl⟩
  | bool b => exact ⟨.bool b, rfl, readsAs_bool b, rfl⟩
  | int n => exact ⟨.int n, rfl, readsAs_int n, rfl⟩
  | text s =>
      refine ⟨ofString s, rfl, readsAs_ofString s, ?_⟩
      simp [ofString, toValue?, CodePoints.toString?_ofString]
  | list _ ih =>
      obtain ⟨js, hjs, hreads, hvs⟩ := ofItems_kept ih
      refine ⟨.list js, ?_, readsAs_list (List.forall₂_same.2 hreads), by simp [toValue?, hvs]⟩
      rw [ofValue, hjs]
      rfl
  | map _ ih =>
      obtain ⟨members, hmembers, hreads, hvs⟩ := ofEntries_kept ih
      refine ⟨.object members, ?_, readsAs_object (List.forall₂_same.2 fun member hm => ?_),
        by simp [toValue?, hvs]⟩
      · rw [ofValue, hmembers]
        rfl
      · exact ⟨rfl, hreads member hm⟩

end TableRecords
