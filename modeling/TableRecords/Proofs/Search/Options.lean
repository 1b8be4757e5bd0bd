import TableRecords.Proofs.Outcome
import TableRecords.Table.Search

/-! # Options as a mapping

Options that are given as a mapping are validated. An option is read from the value under its name,
and has its default where there is none; a mapping with any other name is no mapping of options.
-/

namespace TableRecords

variable {α β γ : Type}

/-- How a validation reads integers, truth values and text. -/
structure Readings where
  integer? : Value → Option Int
  truth? : Value → Option Bool
  text? : Value → Option String

/-- Values that have the type already are taken as they are, and null has none of the types. -/
structure Readings.Plain (readings : Readings) : Prop where
  integer : ∀ n, readings.integer? (.int n) = some n
  truth : ∀ b, readings.truth? (.bool b) = some b
  text : ∀ s, readings.text? (.text s) = some s
  null : readings.integer? .null = none ∧ readings.truth? .null = none ∧
    readings.text? .null = none

namespace SearchOptions

/-- What is read under a name, or else the default. -/
def readUnder (entries : Pairs) (name : String) (read? : Value → Option α) (default : α) :
    Option α :=
  match given? entries name with
  | some v => read? v
  | none => some default

def orNull? (read? : Value → Option α) : Value → Option (Option α)
  | .null => some none
  | v => (read? v).map some

/-- The keys of conditions are read as text, their values left as they are. -/
inductive ReadsConditions (readings : Readings) : Option Value → Option Fields → Prop
  | absent : ReadsConditions readings none none
  | null : ReadsConditions readings (some .null) none
  | mapping {entries pairs : Pairs}
      (h : List.Forall₂ (fun entry pair => ∃ name, readings.text? entry.1 = some name ∧
        (.text name, entry.2) = pair) entries pairs) :
      ReadsConditions readings (some (.map entries)) (some (.ofPairs pairs))

/-- The entries of a mapping are options, and the options are what is read from them. Bounds are
part of the options. -/
structure ReadFrom (readings : Readings) (entries : Pairs) (options : SearchOptions) : Prop where
  limit : readUnder entries "limit" (orNull? readings.integer?) none =
    some (options.limit.map (·.val))
  offset : readUnder entries "offset" readings.integer? 0 = some options.offset.val
  snippet : readUnder entries "snippet" readings.truth? false = some options.snippet
  snippetColumn : readUnder entries "snippet_column" (orNull? readings.text?) none =
    some options.snippetColumn
  snippetTokens : readUnder entries "snippet_tokens" readings.integer? 16 =
    some options.snippetTokens.val
  highlight : readUnder entries "highlight" readings.truth? false = some options.highlight
  openMark : readUnder entries "open_mark" readings.text? "<b>" = some options.openMark
  closeMark : readUnder entries "close_mark" readings.text? "</b>" = some options.closeMark
  ellipsis : readUnder entries "ellipsis" readings.text? "..." = some options.ellipsis
  literal : readUnder entries "literal" readings.truth? false = some options.literal
  conditions : ReadsConditions readings (given? entries "conditions") options.conditions
  named : ∀ entry ∈ entries, ∃ name ∈ names, entry.1 = .text name

/-- What is relied on of a validation: it accepts the mappings that options are read from, with
these options, and nothing else; what it does not accept it rejects with problems. -/
structure Validates (readings : Readings) (validate : Value → Except Fault SearchOptions) :
    Prop where
  plain : readings.Plain
  accepts : ∀ v options, validate v = .ok options ↔
    ∃ entries, v = .map entries ∧ ReadFrom readings entries options
  rejects : ∀ v fault, validate v = .error fault → ∃ problems, fault = .rejected problems

end SearchOptions

/-- The options that an argument of a search stands for. -/
inductive SearchArgument.Means (readings : Readings) : SearchArgument → SearchOptions → Prop
  | absent {options} (h : SearchOptions.ReadFrom readings [] options) :
      Means readings (.given .null) options
  | ready {options} : Means readings (.ready options) options
  | mapping {entries options} (h : SearchOptions.ReadFrom readings entries options) :
      Means readings (.given (.map entries)) options

namespace Checked

theorem both_ok {f : Checked (α → β)} {a : Checked α} {b : β} :
    (f <*> a).outcome = .ok b ↔ ∃ g x, f.outcome = .ok g ∧ a.outcome = .ok x ∧ g x = b := by
  obtain ⟨f⟩ := f
  obtain ⟨a⟩ := a
  change (both ⟨f⟩ ⟨a⟩).outcome = _ ↔ _
  cases f <;> cases a <;> simp [both, passed, failed]

theorem map_ok {f : α → β} {a : Checked α} {b : β} :
    (f <$> a).outcome = .ok b ↔ ∃ x, a.outcome = .ok x ∧ f x = b := by
  change (passed f <*> a).outcome = _ ↔ _
  rw [both_ok]
  simp [passed]

theorem seqLeft_ok {a : Checked α} {c : Checked β} {x : α} :
    (a <* c).outcome = .ok x ↔ a.outcome = .ok x ∧ ∃ y, c.outcome = .ok y := by
  change ((Function.const β <$> a) <*> c).outcome = _ ↔ _
  simp only [both_ok, map_ok]
  constructor
  · rintro ⟨_, y, ⟨x, hx, rfl⟩, hy, rfl⟩
    exact ⟨hx, y, hy⟩
  · rintro ⟨hx, y, hy⟩
    exact ⟨_, y, ⟨x, hx, rfl⟩, hy, rfl⟩

theorem located_ok {location : List LocationStep} {read : Except ProblemKind α} {a : α} :
    (located location read).outcome = .ok a ↔ read.toOption = some a := by
  cases read <;> simp [located, passed, failed, Except.toOption]

theorem without_ok {found : List Problem} {u : Unit} :
    (without found).outcome = .ok u ↔ found = [] := by
  cases found <;> simp [without, passed, failed]

theorem each_ok {check : α → Checked β} {as : List α} {bs : List β} :
    (each check as).outcome = .ok bs ↔
      List.Forall₂ (fun a b => (check a).outcome = .ok b) as bs := by
  induction as generalizing bs with
  | nil => cases bs <;> simp [each, passed]
  | cons a as ih =>
      rw [each, both_ok]
      simp only [map_ok]
      constructor
      · rintro ⟨_, rest, ⟨b, hb, rfl⟩, hrest, rfl⟩
        exact .cons hb (ih.1 hrest)
      · rintro (_ | ⟨hb, hrest⟩)
        exact ⟨_, _, ⟨_, hb, rfl⟩, ih.2 hrest, rfl⟩

end Checked

namespace Value

theorem coerceAtLeast_toOption {low : Int} {v : Value} {a : AtLeast low} :
    (v.coerceAtLeast low).toOption = some a ↔ v.coerceInteger.toOption = some a.val := by
  unfold coerceAtLeast
  cases v.coerceInteger with
  | error kind => exact iff_of_false nofun nofun
  | ok n =>
      by_cases h : low ≤ n
      · simp [bind, Except.bind, h, pure, Except.pure, Except.toOption, Subtype.ext_iff]
      · simp only [bind, Except.bind, h, Except.toOption]
        refine iff_of_false nofun fun hn => h ?_
        cases hn
        exact a.property

theorem coerceWithin_toOption {low high : Int} {v : Value} {a : Within low high} :
    (v.coerceWithin low high).toOption = some a ↔ v.coerceInteger.toOption = some a.val := by
  unfold coerceWithin
  cases v.coerceInteger with
  | error kind => exact iff_of_false nofun nofun
  | ok n =>
      by_cases h : low ≤ n ∧ n ≤ high
      · simp [bind, Except.bind, h.1, h.2, pure, Except.pure, Except.toOption, Subtype.ext_iff]
      · refine iff_of_false ?_ fun hn => h ?_
        · by_cases hl : low ≤ n
          · have hh : ¬n ≤ high := fun hh => h ⟨hl, hh⟩
            simp [bind, Except.bind, hl, hh, throw, throwThe, MonadExceptOf.throw, Except.toOption]
          · simp [bind, Except.bind, hl, throw, throwThe, MonadExceptOf.throw, Except.toOption]
        · cases hn
          exact a.property

theorem coerceOptional_of_ne (coerce : Value → Except ProblemKind α) {v : Value} (h : v ≠ .null) :
    v.coerceOptional coerce = some <$> coerce v := by
  unfold coerceOptional
  split
  · exact absurd rfl h
  · rfl

theorem orNull_of_ne (read? : Value → Option α) {v : Value} (h : v ≠ .null) :
    SearchOptions.orNull? read? v = (read? v).map some := by
  unfold SearchOptions.orNull?
  split
  · exact absurd rfl h
  · rfl

theorem coerceOptional_toOption {coerce : Value → Except ProblemKind α} {read? : Value → Option β}
    {f : α → β} (h : ∀ v a, (coerce v).toOption = some a ↔ read? v = some (f a))
    (v : Value) {a : Option α} :
    (v.coerceOptional coerce).toOption = some a ↔
      SearchOptions.orNull? read? v = some (a.map f) := by
  by_cases hn : v = .null
  · subst hn
    cases a <;> simp [coerceOptional, SearchOptions.orNull?, Except.toOption]
  · have hmap : (some <$> coerce v).toOption = (coerce v).toOption.map some := by
      cases coerce v <;> rfl
    rw [coerceOptional_of_ne coerce hn, orNull_of_ne read? hn, hmap, Option.map_eq_some_iff,
      Option.map_eq_some_iff]
    cases a with
    | none => exact iff_of_false (by simp) (by simp)
    | some a => simp [h]

end Value

namespace SearchOptions

theorem option_ok {entries : Pairs} {name : String} {coerce : Value → Except ProblemKind α}
    {default a : α} {read? : Value → Option β} {f : α → β} {default' : β}
    (h : ∀ v, (coerce v).toOption = some a ↔ read? v = some (f a))
    (hdefault : default = a ↔ default' = f a) :
    (option entries name coerce default).outcome = .ok a ↔
      readUnder entries name read? default' = some (f a) := by
  unfold option readUnder
  cases given? entries name with
  | some v => exact Checked.located_ok.trans (h v)
  | none => simpa [Checked.passed] using hdefault

def readings : Readings where
  integer? v := v.coerceInteger.toOption
  truth? v := v.coerceBool.toOption
  text? v := v.coerceText.toOption

theorem conditionEntry_ok {entry pair : Value × Value} :
    (conditionEntry entry).outcome = .ok pair ↔
      ∃ name, readings.text? entry.1 = some name ∧ (.text name, entry.2) = pair := by
  rw [conditionEntry, Checked.map_ok]
  simp only [Checked.located_ok]
  rfl

theorem conditionsOf_ok {given : Option Value} {conditions : Option Fields} :
    (conditionsOf given).outcome = .ok conditions ↔ ReadsConditions readings given conditions := by
  constructor
  · intro h
    unfold conditionsOf at h
    split at h
    · cases h
      exact .absent
    · cases h
      exact .null
    · obtain ⟨pairs, hpairs, rfl⟩ := Checked.map_ok.1 h
      exact .mapping ((Checked.each_ok.1 hpairs).imp fun _ _ => conditionEntry_ok.1)
    · cases h
  · rintro (_ | _ | h)
    · rfl
    · rfl
    · exact Checked.map_ok.2 ⟨_, Checked.each_ok.2 (h.imp fun _ _ => conditionEntry_ok.2), rfl⟩

theorem unknown_eq_none {key : Value} :
    unknown? key = none ↔ ∃ name ∈ names, key = .text name := by
  unfold unknown?
  split
  · rename_i name
    simp
  · rename_i hkey
    refine iff_of_false nofun ?_
    rintro ⟨name, -, rfl⟩
    exact hkey name rfl

section

variable {entries : Pairs} {name : String} {options : SearchOptions}

theorem option_plain {coerce : Value → Except ProblemKind α} {default a : α} :
    (option entries name coerce default).outcome = .ok a ↔
      readUnder entries name (fun v => (coerce v).toOption) default = some a :=
  option_ok (f := id) (fun _ => Iff.rfl) Iff.rfl

theorem option_atLeast {low : Int} {default a : AtLeast low} :
    (option entries name (Value.coerceAtLeast low) default).outcome = .ok a ↔
      readUnder entries name readings.integer? default.val = some a.val :=
  option_ok (fun _ => Value.coerceAtLeast_toOption) Subtype.ext_iff

theorem option_within {low high : Int} {default a : Within low high} :
    (option entries name (Value.coerceWithin low high) default).outcome = .ok a ↔
      readUnder entries name readings.integer? default.val = some a.val :=
  option_ok (fun _ => Value.coerceWithin_toOption) Subtype.ext_iff

theorem option_optional {coerce : Value → Except ProblemKind α} {read? : Value → Option β}
    {f : α → β} (h : ∀ v a, (coerce v).toOption = some a ↔ read? v = some (f a)) {a : Option α} :
    (option entries name (Value.coerceOptional coerce) none).outcome = .ok a ↔
      readUnder entries name (orNull? read?) none = some (a.map f) :=
  option_ok (fun v => Value.coerceOptional_toOption h v) (by cases a <;> simp)

theorem option_optionalText {a : Option String} :
    (option entries name (Value.coerceOptional Value.coerceText) none).outcome = .ok a ↔
      readUnder entries name (orNull? readings.text?) none = some a := by
  refine option_ok (f := id) (fun v => ?_) Iff.rfl
  have h : _ ↔ orNull? readings.text? v = some (a.map id) :=
    Value.coerceOptional_toOption (fun _ _ => Iff.rfl) v
  rwa [Option.map_id_fun] at h

theorem readFrom_of_ofPairs (h : (ofPairs entries).outcome = .ok options) :
    ReadFrom readings entries options := by
  simp only [ofPairs, Checked.seqLeft_ok, Checked.both_ok, Checked.map_ok, Checked.without_ok] at h
  obtain ⟨⟨_, conditions, ⟨_, literal, ⟨_, ellipsis, ⟨_, close, ⟨_, opening, ⟨_, highlight,
    ⟨_, tokens, ⟨_, column, ⟨_, snippet, ⟨_, offset, ⟨limit, hlimit, rfl⟩, hoffset, rfl⟩, hsnippet,
    rfl⟩, hcolumn, rfl⟩, htokens, rfl⟩, hhighlight, rfl⟩, hopen, rfl⟩, hclose, rfl⟩, hellipsis,
    rfl⟩, hliteral, rfl⟩, hconditions, rfl⟩, -, hknown⟩ := h
  exact {
    limit := (option_optional fun _ _ => Value.coerceAtLeast_toOption).1 hlimit
    offset := option_atLeast.1 hoffset
    snippet := option_plain.1 hsnippet
    snippetColumn := option_optionalText.1 hcolumn
    snippetTokens := option_within.1 htokens
    highlight := option_plain.1 hhighlight
    openMark := option_plain.1 hopen
    closeMark := option_plain.1 hclose
    ellipsis := option_plain.1 hellipsis
    literal := option_plain.1 hliteral
    conditions := conditionsOf_ok.1 hconditions
    named := by
      have hnone := List.filterMap_eq_nil_iff.1 hknown
      exact fun entry he => unknown_eq_none.1 (hnone entry he) }

theorem ofPairs_of_readFrom (h : ReadFrom readings entries options) :
    (ofPairs entries).outcome = .ok options := by
  have hknown := List.filterMap_eq_nil_iff.2 fun entry he => unknown_eq_none.2 (h.named entry he)
  obtain ⟨limit, offset, snippet, column, tokens, highlight, openMark, closeMark, ellipsis, literal,
    conditions⟩ := options
  refine Checked.seqLeft_ok.2 ⟨?_, (), Checked.without_ok.2 hknown⟩
  refine Checked.both_ok.2 ⟨_, conditions, ?_, conditionsOf_ok.2 h.conditions, rfl⟩
  refine Checked.both_ok.2 ⟨_, literal, ?_, option_plain.2 h.literal, rfl⟩
  refine Checked.both_ok.2 ⟨_, ellipsis, ?_, option_plain.2 h.ellipsis, rfl⟩
  refine Checked.both_ok.2 ⟨_, closeMark, ?_, option_plain.2 h.closeMark, rfl⟩
  refine Checked.both_ok.2 ⟨_, openMark, ?_, option_plain.2 h.openMark, rfl⟩
  refine Checked.both_ok.2 ⟨_, highlight, ?_, option_plain.2 h.highlight, rfl⟩
  refine Checked.both_ok.2 ⟨_, tokens, ?_, option_within.2 h.snippetTokens, rfl⟩
  refine Checked.both_ok.2 ⟨_, column, ?_, ?_, rfl⟩
  · refine Checked.both_ok.2 ⟨_, snippet, ?_, option_plain.2 h.snippet, rfl⟩
    refine Checked.both_ok.2 ⟨_, offset, ?_, option_atLeast.2 h.offset, rfl⟩
    exact Checked.map_ok.2 ⟨limit,
      (option_optional fun _ _ => Value.coerceAtLeast_toOption).2 h.limit, rfl⟩
  · exact option_optionalText.2 h.snippetColumn

theorem validate_eq_ok {v : Value} : validate v = .ok options ↔
    ∃ entries, v = .map entries ∧ ReadFrom readings entries options := by
  have hmap : validate v = .ok options ↔ (ofValue v).outcome = .ok options := by
    unfold validate
    cases (ofValue v).outcome <;> simp [Except.mapError]
  rw [hmap]
  unfold ofValue
  split
  · rename_i entries
    constructor
    · exact fun h => ⟨entries, rfl, readFrom_of_ofPairs h⟩
    · rintro ⟨_, ⟨⟩, h⟩
      exact ofPairs_of_readFrom h
  · rename_i hv
    refine iff_of_false nofun ?_
    rintro ⟨entries, rfl, -⟩
    exact hv entries rfl

end

theorem validates : Validates readings validate where
  plain := ⟨fun _ => rfl, fun _ => rfl, fun _ => rfl, rfl, rfl, rfl⟩
  accepts _ _ := validate_eq_ok
  rejects v fault h := by
    unfold validate at h
    cases hproblems : (ofValue v).outcome with
    | ok _ =>
        rw [hproblems] at h
        cases h
    | error problems =>
        rw [hproblems] at h
        cases h
        exact ⟨problems, rfl⟩

end SearchOptions

/-! ## Arguments -/

section

variable {readings : Readings} {validate : Value → Except Fault SearchOptions}
  {argument : SearchArgument} {options : SearchOptions} {fault : Fault}

theorem SearchOptions.readFrom_nil : ReadFrom readings [] options ↔ options = {} := by
  constructor
  · intro h
    have habsent : ∀ conditions, ReadsConditions readings none conditions →
        ReadsConditions SearchOptions.readings none conditions := by
      rintro _ ⟨⟩
      exact .absent
    have hown : ReadFrom SearchOptions.readings [] options :=
      ⟨h.limit, h.offset, h.snippet, h.snippetColumn, h.snippetTokens, h.highlight, h.openMark,
        h.closeMark, h.ellipsis, h.literal, habsent _ h.conditions, h.named⟩
    exact (Except.ok.inj (ofPairs_of_readFrom hown)).symm
  · rintro rfl
    exact ⟨rfl, rfl, rfl, rfl, rfl, rfl, rfl, rfl, rfl, rfl, .absent, List.forall_mem_nil _⟩

theorem SearchOptions.loadWith_of_ne {v : Value} (h : v ≠ .null) :
    loadWith validate v = validate v := by
  unfold loadWith
  split
  · exact absurd rfl h
  · rfl

theorem SearchOptions.Validates.loadWith_eq_ok (h : Validates readings validate) :
    argument.loadWith validate = .ok options ↔ argument.Means readings options := by
  cases argument with
  | ready own =>
      constructor
      · rintro ⟨⟩
        exact .ready
      · rintro ⟨⟩
        rfl
  | given v =>
      by_cases hv : v = .null
      · subst hv
        constructor
        · rintro ⟨⟩
          exact .absent (readFrom_nil.2 rfl)
        · rintro ⟨hread⟩
          rw [readFrom_nil.1 hread]
          rfl
      · rw [SearchArgument.loadWith, loadWith_of_ne hv, h.accepts]
        constructor
        · rintro ⟨entries, rfl, hread⟩
          exact .mapping hread
        · rintro (_ | _ | hread)
          · exact absurd rfl hv
          · exact ⟨_, rfl, hread⟩

theorem SearchOptions.Validates.loadWith_eq_error (h : Validates readings validate)
    (hf : argument.loadWith validate = .error fault) :
    (∃ problems, fault = .rejected problems) ∧ ∀ options, ¬argument.Means readings options := by
  constructor
  · cases argument with
    | ready own => cases hf
    | given v =>
        by_cases hv : v = .null
        · subst hv
          cases hf
        · rw [SearchArgument.loadWith, loadWith_of_ne hv] at hf
          exact h.rejects v fault hf
  · intro options hmeans
    rw [h.loadWith_eq_ok.2 hmeans] at hf
    cases hf

end

end TableRecords
