import Mathlib
import TableRecords.Proofs.Sql.Clause

/-! # Condition keys

A grammar of condition keys, with names described by their characters. Every key reads in one way:
as a column and an operator, or as the fault that tells what is wrong with it, the column first. A
mapping has a clause exactly if all of its keys read as the former, and its first key that does not
decides how it fails.
-/

namespace TableRecords

def IsAsciiLetter (c : Char) : Prop := 'A' ≤ c ∧ c ≤ 'Z' ∨ 'a' ≤ c ∧ c ≤ 'z'

def IsAsciiDigit (c : Char) : Prop := '0' ≤ c ∧ c ≤ '9'

/-- A letter or an underscore, and behind it nothing but letters, digits and underscores. -/
def IsName (s : String) : Prop :=
  ∃ first rest, s.toList = first :: rest ∧ (IsAsciiLetter first ∨ first = '_') ∧
    ∀ c ∈ rest, IsAsciiLetter c ∨ IsAsciiDigit c ∨ c = '_'

theorem isAlpha_iff {c : Char} : c.isAlpha = true ↔ IsAsciiLetter c := by
  simp only [Char.isAlpha, Char.isUpper, Char.isLower, Bool.or_eq_true, Bool.and_eq_true,
    decide_eq_true_eq, IsAsciiLetter, Char.le_def]

theorem isDigit_iff {c : Char} : c.isDigit = true ↔ IsAsciiDigit c := by
  simp only [Char.isDigit, Bool.and_eq_true, decide_eq_true_eq, IsAsciiDigit, Char.le_def]

theorem isNameStart_iff {c : Char} : isNameStart c = true ↔ IsAsciiLetter c ∨ c = '_' := by
  rw [isNameStart, Bool.or_eq_true, isAlpha_iff, beq_iff_eq]

theorem isNameChar_iff {c : Char} :
    isNameChar c = true ↔ IsAsciiLetter c ∨ IsAsciiDigit c ∨ c = '_' := by
  rw [isNameChar, Char.isAlphanum, Bool.or_eq_true, Bool.or_eq_true, isAlpha_iff, isDigit_iff,
    beq_iff_eq, or_assoc]

theorem isName_iff_spelled {s : String} : IsName s ↔ spellsIdentifier s.toList = true := by
  unfold IsName
  cases s.toList with
  | nil => simp [spellsIdentifier]
  | cons first rest =>
      simp only [spellsIdentifier, Bool.and_eq_true, List.all_eq_true, isNameStart_iff,
        isNameChar_iff]
      constructor
      · rintro ⟨_, _, ⟨⟩, hfirst, hrest⟩
        exact ⟨hfirst, hrest⟩
      · rintro ⟨hfirst, hrest⟩
        exact ⟨first, rest, rfl, hfirst, hrest⟩

theorem isName_iff {s : String} : IsName s ↔ ∃ name : Identifier, name.text = s := by
  rw [isName_iff_spelled]
  constructor
  · exact fun h => ⟨⟨s, h⟩, rfl⟩
  · rintro ⟨name, rfl⟩
    exact name.spelled

theorem IsName.ne_text {s : String} (h : ¬IsName s) (name : Identifier) :
    (.text s : Value) ≠ .text name.text :=
  fun heq => h (isName_iff.2 ⟨name, (Value.text.inj heq).symm⟩)

def Operator.Accepts (s : String) : Prop := ∃ operator, Operator.ofValue (.text s) = .ok operator

theorem Operator.accepts_iff {s : String} :
    Operator.Accepts s ↔ ∃ operator : Operator, operator.text = s := by
  refine exists_congr fun operator => ?_
  rw [Operator.ofValue_eq_ok, Value.text.injEq, eq_comm]

namespace Condition

/-- How a key reads: as a column, as a column and an operator with one space between them, or as the
fault of what stands before the first space, or else of all that stands behind it. -/
inductive KeyReading : Value → Except Fault (String × String) → Prop
  | column {name : String} (h : IsName name) : KeyReading (.text name) (.ok (name, "="))
  | pair {name operator : String} (h : IsName name) (ho : Operator.Accepts operator) :
      KeyReading (.text (name ++ " " ++ operator)) (.ok (name, operator))
  | noName {key : Value} (hs : ∀ s, key = .text s → ' ' ∉ s.toList)
      (h : ∀ s, key = .text s → ¬IsName s) :
      KeyReading key (.error (.invalidIdentifier key "column"))
  | noColumn {first rest : String} (hs : ' ' ∉ first.toList) (h : ¬IsName first) :
      KeyReading (.text (first ++ " " ++ rest))
        (.error (.invalidIdentifier (.text first) "column"))
  | noOperator {name operator : String} (h : IsName name) (ho : ¬Operator.Accepts operator) :
      KeyReading (.text (name ++ " " ++ operator)) (.error (.invalidOperator (.text operator)))

def spelling (parsed : Identifier × Operator) : String × String := (parsed.1.text, parsed.2.text)

variable {key : Value} {result : Except Fault (String × String)}

theorem KeyReading.parsed (h : KeyReading key result) : spelling <$> parseKey key = result := by
  cases h with
  | column h =>
      obtain ⟨column, rfl⟩ := isName_iff.1 h
      rw [parseKey_column]
      rfl
  | pair h ho =>
      obtain ⟨column, rfl⟩ := isName_iff.1 h
      obtain ⟨operator, rfl⟩ := Operator.accepts_iff.1 ho
      rw [parseKey_pair]
      rfl
  | noName hs h =>
      have hcolumn : Identifier.ofValue "column" key =
          .error (.invalidIdentifier key "column") :=
        Identifier.ofValue_eq_error.2
          ⟨fun name hkey => h name.text hkey (isName_iff.2 ⟨name, rfl⟩), rfl⟩
      rw [parseKey_whole hs, hcolumn]
      rfl
  | @noColumn first rest hs h =>
      have hcolumn : Identifier.ofValue "column" (.text first) =
          .error (.invalidIdentifier (.text first) "column") :=
        Identifier.ofValue_eq_error.2 ⟨IsName.ne_text h, rfl⟩
      rw [parseKey_split hs, hcolumn]
      rfl
  | @noOperator name operator h ho =>
      obtain ⟨column, rfl⟩ := isName_iff.1 h
      have hcolumn : Identifier.ofValue "column" (.text column.text) = .ok column :=
        Identifier.ofValue_eq_ok.2 rfl
      have hoperator : Operator.ofValue (.text operator) =
          .error (.invalidOperator (.text operator)) :=
        Operator.ofValue_eq_error.2 ⟨fun other hother =>
          ho (Operator.accepts_iff.2 ⟨other, (Value.text.inj hother).symm⟩), rfl⟩
      rw [parseKey_split column.space_notMem, hcolumn, hoperator]
      rfl

theorem exists_keyReading (key : Value) : ∃ result, KeyReading key result := by
  by_cases hspace : ∃ s, key = .text s ∧ ' ' ∈ s.toList
  · obtain ⟨s, rfl, hs⟩ := hspace
    obtain ⟨first, rest, rfl, hfirst⟩ := exists_split hs
    by_cases hname : IsName first
    · by_cases hoperator : Operator.Accepts rest
      · exact ⟨_, .pair hname hoperator⟩
      · exact ⟨_, .noOperator hname hoperator⟩
    · exact ⟨_, .noColumn hfirst hname⟩
  · have hwhole : ∀ s, key = .text s → ' ' ∉ s.toList := fun s hkey hs => hspace ⟨s, hkey, hs⟩
    by_cases hname : ∃ s, key = .text s ∧ IsName s
    · obtain ⟨s, rfl, hs⟩ := hname
      exact ⟨_, .column hs⟩
    · exact ⟨_, .noName hwhole fun s hkey hs => hname ⟨s, hkey, hs⟩⟩

/-- A key is parsed as it reads, and reads as it is parsed. -/
theorem parseKey_reading : spelling <$> parseKey key = result ↔ KeyReading key result := by
  constructor
  · rintro rfl
    obtain ⟨result, hresult⟩ := exists_keyReading key
    rwa [hresult.parsed]
  · exact KeyReading.parsed

theorem parseKey_error_reading {fault : Fault} :
    parseKey key = .error fault ↔ KeyReading key (.error fault) := by
  rw [← parseKey_reading, Outcome.map_eq_error]

/-! ## Mappings -/

def IsKey (key : Value) : Prop := ∃ column operator, KeyReading key (.ok (column, operator))

/-- The first key of a mapping that is none reads as the fault. -/
def FirstOffence (conditions : Pairs) (fault : Fault) : Prop :=
  ∃ before entry after, conditions = before ++ entry :: after ∧
    (∀ other ∈ before, IsKey other.1) ∧ KeyReading entry.1 (.error fault)

theorem isKey_iff : IsKey key ↔ ∃ parsed, parseKey key = .ok parsed := by
  constructor
  · rintro ⟨column, operator, h⟩
    obtain ⟨parsed, hparsed, -⟩ := Outcome.map_eq_ok.1 h.parsed
    exact ⟨parsed, hparsed⟩
  · rintro ⟨parsed, hparsed⟩
    exact ⟨_, _, parseKey_reading.1 (Outcome.map_eq_ok.2 ⟨parsed, hparsed, rfl⟩)⟩

theorem exists_ofEntry_iff {entry : Value × Value} :
    (∃ condition, ofEntry entry = .ok condition) ↔ IsKey entry.1 := by
  rw [isKey_iff]
  constructor
  · rintro ⟨condition, h⟩
    exact ⟨_, (ofEntry_eq_ok.1 h).1⟩
  · rintro ⟨parsed, h⟩
    exact ⟨⟨parsed.1, parsed.2, entry.2⟩, ofEntry_eq_ok.2 ⟨h, rfl⟩⟩

theorem ofEntry_eq_error {entry : Value × Value} {fault : Fault} :
    ofEntry entry = .error fault ↔ KeyReading entry.1 (.error fault) := by
  rw [← parseKey_error_reading, ofEntry, Outcome.bind_eq_error]
  refine or_iff_left ?_
  rintro ⟨parsed, -, h⟩
  cases h

theorem exists_ofPairs_iff {conditions : Pairs} :
    (∃ checked, ofPairs conditions = .ok checked) ↔ ∀ entry ∈ conditions, IsKey entry.1 := by
  constructor
  · rintro ⟨checked, h⟩ entry hm
    obtain ⟨condition, -, hcondition⟩ := Outcome.ok_of_mem h hm
    exact exists_ofEntry_iff.1 ⟨condition, hcondition⟩
  · exact fun h => Outcome.mapM_ok_of_forall fun entry hm => exists_ofEntry_iff.2 (h entry hm)

theorem ofPairs_eq_error {conditions : Pairs} {fault : Fault} :
    ofPairs conditions = .error fault ↔ FirstOffence conditions fault := by
  rw [ofPairs, Outcome.mapM_eq_error]
  simp only [exists_ofEntry_iff, ofEntry_eq_error]
  exact Iff.rfl

end Condition

/-- Keys are parsed by one grammar, and a mapping has a clause exactly if all of its keys are in it.
Otherwise it fails as its first key that is not. -/
theorem keys_parsed_by_grammar :
    (∀ key result, Condition.spelling <$> Condition.parseKey key = result ↔
      Condition.KeyReading key result) ∧
    ∀ conditions : Pairs,
      ((∃ clause, buildWhere conditions = .ok clause) ↔
        ∀ entry ∈ conditions, Condition.IsKey entry.1) ∧
      ∀ fault, buildWhere conditions = .error fault ↔
        Condition.FirstOffence conditions fault := by
  refine ⟨fun key result => Condition.parseKey_reading, fun conditions => ⟨?_, fun fault => ?_⟩⟩
  · rw [← Condition.exists_ofPairs_iff]
    constructor
    · rintro ⟨clause, h⟩
      obtain ⟨checked, hchecked, -⟩ := Outcome.map_eq_ok.1 h
      exact ⟨checked, hchecked⟩
    · rintro ⟨checked, h⟩
      exact ⟨_, Outcome.map_eq_ok.2 ⟨checked, h, rfl⟩⟩
  · rw [← Condition.ofPairs_eq_error]
    exact Outcome.map_eq_error

example : Condition.parseKey (.text "age  =") = .error (.invalidOperator (.text " =")) := by rfl

example : Condition.parseKey (.text "age\n like") =
    .error (.invalidIdentifier (.text "age\n") "column") := by rfl

end TableRecords
