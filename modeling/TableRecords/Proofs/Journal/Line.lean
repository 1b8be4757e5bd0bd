import Mathlib
import TableRecords.Proofs.Journal.Message
import TableRecords.Proofs.Journal.PlainValue
import TableRecords.Proofs.Value.Key

/-! # Log lines

What is written of an entry is one line of printable ASCII, and a reader of JSON takes one object
from it: level, logger and message, the reports that there are, the extras that are shown, and the
members of an extra called `extra`, in this order. Where a name is given more than once, it has the
place where it was given first and the content that it was given last.
-/

namespace TableRecords

section

variable {α : Type}

/-- Members with the content of a name set: in its place, or at the end if the name is new. -/
def setMember (name : String) (a : α) : List (String × α) → List (String × α)
  | [] => [(name, a)]
  | member :: rest =>
    if member.1 = name then (name, a) :: rest else member :: setMember name a rest

def overlaid (given : List (String × α)) : List (String × α) :=
  given.foldl (fun members member => setMember member.1 member.2 members) []

theorem overlaid_append (given more : List (String × α)) :
    overlaid (given ++ more) =
      more.foldl (fun members member => setMember member.1 member.2 members) (overlaid given) :=
  List.foldl_append

theorem overlaid_append_singleton (given : List (String × α)) (member : String × α) :
    overlaid (given ++ [member]) = setMember member.1 member.2 (overlaid given) :=
  overlaid_append given [member]

theorem names_setMember (name : String) (a : α) (members : List (String × α)) :
    (setMember name a members).map Prod.fst =
      if name ∈ members.map Prod.fst then members.map Prod.fst
      else members.map Prod.fst ++ [name] := by
  induction members with
  | nil => rfl
  | cons member rest ih =>
      by_cases h : member.1 = name
      · simp [setMember, h]
      · have hne : name ≠ member.1 := fun heq => h heq.symm
        simp only [setMember, if_neg h, List.map_cons, ih, List.mem_cons, hne, false_or]
        split <;> rfl

theorem lookup_member (key : String) (member : String × α) (rest : List (String × α)) :
    (member :: rest).lookup key = if key = member.1 then some member.2 else rest.lookup key := by
  rw [List.lookup_cons]
  split
  · rename_i h
    rw [if_pos (beq_iff_eq.1 h)]
  · rename_i h
    rw [if_neg (beq_eq_false_iff_ne.1 h)]

theorem lookup_setMember (name key : String) (a : α) (members : List (String × α)) :
    (setMember name a members).lookup key = if key = name then some a else members.lookup key := by
  induction members with
  | nil => rw [setMember, lookup_member]
  | cons member rest ih =>
      unfold setMember
      by_cases h : member.1 = name
      · rw [if_pos h, lookup_member, lookup_member, h]
        by_cases hk : key = name
        · simp only [if_pos hk]
        · simp only [if_neg hk]
      · rw [if_neg h, lookup_member, lookup_member, ih]
        by_cases hk : key = member.1
        · have hne : key ≠ name := fun heq => h (hk.symm.trans heq)
          rw [if_pos hk, if_pos hk, if_neg hne]
        · simp only [if_neg hk]

theorem mem_setMember {name : String} {a : α} {members : List (String × α)} {member : String × α}
    (h : member ∈ setMember name a members) : member = (name, a) ∨ member ∈ members := by
  induction members with
  | nil => exact Or.inl (List.mem_singleton.1 h)
  | cons first rest ih =>
      unfold setMember at h
      split at h
      · exact (List.mem_cons.1 h).imp_right (List.mem_cons_of_mem first)
      · rcases List.mem_cons.1 h with rfl | h
        · exact Or.inr List.mem_cons_self
        · exact (ih h).imp_right (List.mem_cons_of_mem first)

/-- Names are in the order in which they were first given. -/
theorem names_overlaid (given : List (String × α)) :
    (overlaid given).map Prod.fst = (given.map Prod.fst).eraseDups := by
  induction given using List.reverseRecOn with
  | nil => rfl
  | append_singleton given member ih =>
      rw [overlaid_append_singleton, names_setMember, ih, List.map_append, List.eraseDups_append]
      by_cases h : member.1 ∈ given.map Prod.fst
      · simp [h, List.removeAll]
      · simp [h, List.removeAll, List.eraseDups_cons]

theorem nodup_names_overlaid (given : List (String × α)) :
    ((overlaid given).map Prod.fst).Nodup := by
  induction given using List.reverseRecOn with
  | nil => exact List.nodup_nil
  | append_singleton given member ih =>
      rw [overlaid_append_singleton, names_setMember]
      split
      · exact ih
      · rename_i h
        rw [← List.concat_eq_append]
        exact List.Nodup.concat h ih

/-- A name has the content that it was given last. -/
theorem lookup_overlaid (given : List (String × α)) (name : String) :
    (overlaid given).lookup name = given.reverse.lookup name := by
  induction given using List.reverseRecOn with
  | nil => rfl
  | append_singleton given member ih =>
      rw [overlaid_append_singleton, lookup_setMember, ih, List.reverse_concat, lookup_member]

theorem mem_overlaid {given : List (String × α)} {member : String × α}
    (h : member ∈ overlaid given) : member ∈ given := by
  induction given using List.reverseRecOn with
  | nil => cases h
  | append_singleton given last ih =>
      rw [overlaid_append_singleton] at h
      rcases mem_setMember h with rfl | h
      · simp
      · exact List.mem_append_left _ (ih h)

end

/-- What a member of a line is made of: a value, or the message. -/
inductive Content where
  | value (v : Value)
  | message (points : CodePoints)

namespace Content

def json : Content → Except Fault JsonValue
  | value v => JsonValue.ofValue v
  | message points => .ok (.text points)

/-- Whether JSON tells this content. -/
def ToldBy (content : Content) (found : JsonValue) : Prop :=
  match content with
  | value v => found.toValue? = some v
  | message points => found = .text points.paired

/-- Whether content has a JSON form that is read as something that tells it. -/
def IsKept (content : Content) : Prop :=
  ∃ j found, content.json = .ok j ∧ j.ReadsAs found ∧ content.ToldBy found

theorem isKept_value {v : Value} (h : v.IsPlain) : IsKept (value v) := by
  obtain ⟨j, hj, hread, hv⟩ := h.isKept
  exact ⟨j, j, hj, hread, hv⟩

theorem isKept_message {points : CodePoints} (h : points.InRange) : IsKept (message points) :=
  ⟨_, _, rfl, JsonValue.readsAs_text h, rfl⟩

end Content

/-- Whether members are what was given: each name once, where it was first given, with what it was
given last. -/
structure Tells (found : List (String × JsonValue)) (given : List (String × Content)) : Prop where
  once : (found.map Prod.fst).Nodup
  order : found.map Prod.fst = (given.map Prod.fst).eraseDups
  last : ∀ name content, given.reverse.lookup name = some content →
    ∃ item, found.lookup name = some item ∧ content.ToldBy item

def IsRead (member : String × Content) (found : String × JsonValue) : Prop :=
  member.1 = found.1 ∧ member.2.ToldBy found.2

theorem lookup_read {members : List (String × Content)} {found : List (String × JsonValue)}
    (h : List.Forall₂ IsRead members found) {name : String} {content : Content}
    (hc : members.lookup name = some content) :
    ∃ item, found.lookup name = some item ∧ content.ToldBy item := by
  induction h with
  | nil => cases hc
  | @cons member read members found hread _ ih =>
      rw [lookup_member] at hc ⊢
      rw [← hread.1]
      by_cases hn : name = member.1
      · rw [if_pos hn] at hc ⊢
        cases hc
        exact ⟨read.2, rfl, hread.2⟩
      · rw [if_neg hn] at hc ⊢
        exact ih hc

theorem names_read {members : List (String × Content)} {found : List (String × JsonValue)}
    (h : List.Forall₂ IsRead members found) : found.map Prod.fst = members.map Prod.fst := by
  induction h with
  | nil => rfl
  | cons hread _ ih => rw [List.map_cons, List.map_cons, ih, hread.1]

theorem tells_of_read {given : List (String × Content)} {found : List (String × JsonValue)}
    (h : List.Forall₂ IsRead (overlaid given) found) : Tells found given := by
  refine ⟨?_, ?_, fun name content hc => ?_⟩
  · rw [names_read h]
    exact nodup_names_overlaid given
  · rw [names_read h, names_overlaid]
  · rw [← lookup_overlaid] at hc
    exact lookup_read h hc

def payloadOf (members : List (String × Content)) : Entry.Payload :=
  members.map fun member => (.text member.1, member.2.json)

theorem assign_payloadOf (name : String) (content : Content) (members : List (String × Content)) :
    Entries.assign (.text name) content.json (payloadOf members) =
      payloadOf (setMember name content members) := by
  induction members with
  | nil => rfl
  | cons member rest ih =>
      have hcons (m : String × Content) (rest : List (String × Content)) :
          payloadOf (m :: rest) = (.text m.1, m.2.json) :: payloadOf rest := rfl
      by_cases h : member.1 = name
      · simp [setMember, hcons, Entries.assign, h]
      · simp [setMember, hcons, Entries.assign, h, ih]

theorem foldl_assign_payloadOf (entries : List (String × Value))
    (members : List (String × Content)) :
    (named entries).foldl (fun payload extra =>
      Entries.assign extra.1 (JsonValue.ofValue extra.2) payload) (payloadOf members) =
      payloadOf ((entries.map fun entry => (entry.1, Content.value entry.2)).foldl
        (fun members member => setMember member.1 member.2 members) members) := by
  induction entries generalizing members with
  | nil => rfl
  | cons entry entries ih =>
      rw [List.map_cons, List.foldl_cons, ← ih, ← assign_payloadOf]
      rfl

theorem members_payloadOf {members : List (String × Content)} (h : ∀ m ∈ members, m.2.IsKept) :
    ∃ written found, Entry.members (payloadOf members) = .ok written ∧
      List.Forall₂ (fun member found => member.1 = found.1 ∧ member.2.ReadsAs found.2)
        written found ∧ List.Forall₂ IsRead members found := by
  induction members with
  | nil => exact ⟨[], [], rfl, .nil, .nil⟩
  | cons member members ih =>
      obtain ⟨⟨j, item, hj, hread, htold⟩, hmembers⟩ := List.forall_mem_cons.1 h
      obtain ⟨written, found, hwritten, hreads, htolds⟩ := ih hmembers
      refine ⟨(member.1, j) :: written, (member.1, item) :: found, ?_,
        .cons ⟨rfl, hread⟩ hreads, .cons ⟨rfl, htold⟩ htolds⟩
      unfold Entry.members at hwritten ⊢
      change List.mapM _ ((.text member.1, member.2.json) :: payloadOf members) = _
      rw [List.mapM_cons, hwritten, hj]
      rfl

/-! ## The line of an entry -/

namespace Entry

/-- The names of an entry's own attributes, those that writing it may set, and `extra`. -/
def standardNames : List String := ownAttributes ++ ["message", "asctime", "extra"]

/-- What an entry is made of. The stack is there only if it says something. -/
structure Parts where
  level : Value
  logger : Value
  message : CodePoints
  failure : Option String
  stack : Option Value
  attributes : List (String × Value)
  nested : List (String × Value)

namespace Parts

def shown (parts : Parts) : List (String × Value) :=
  parts.attributes.filter fun extra =>
    extra.1 ∉ standardNames ∧ extra.1.toList.head? ≠ some '_'

def fixed (parts : Parts) : List (String × Content) :=
  [("level", .value parts.level), ("logger", .value parts.logger),
    ("message", .message parts.message)] ++
  (parts.failure.map fun report => ("exc_info", Content.value (.text report))).toList ++
  (parts.stack.map fun report => ("stack_info", Content.value report)).toList

/-- The members of a line, in the order in which they are given. -/
def given (parts : Parts) : List (String × Content) :=
  parts.fixed ++ (parts.shown ++ parts.nested).map fun extra => (extra.1, .value extra.2)

structure ArePlain (parts : Parts) : Prop where
  level : parts.level.IsPlain
  logger : parts.logger.IsPlain
  stack : ∀ report ∈ parts.stack, report.IsPlain
  shown : ∀ extra ∈ parts.shown, extra.2.IsPlain
  nested : ∀ entry ∈ parts.nested, entry.2.IsPlain

end Parts

/-- Whether an entry is made of these parts. Its message can be made, and its attributes and the
keys of its nested extras are names. -/
structure HasParts (entry : Entry) (parts : Parts) : Prop where
  level : entry.read "levelname" id (.text (Level.name entry.level)) = .ok parts.level
  logger : entry.read "name" id (.text entry.logger) = .ok parts.logger
  message : entry.messageText = .ok parts.message
  failure : entry.failureReport = .ok parts.failure
  stack : entry.stackReport = .ok parts.stack
  attributes : entry.extras = named parts.attributes
  nested : entry.nestedExtras = named parts.nested

variable {entry : Entry} {parts : Parts}

theorem isShown_iff (name : String) :
    isShown name = true ↔ name ∉ standardNames ∧ name.toList.head? ≠ some '_' := by
  simp [isShown, isTaken, standardNames, and_assoc]

theorem shownExtras_eq (h : entry.HasParts parts) :
    entry.shownExtras = .ok (named parts.shown) := by
  let visible (extra : Value × Value) : Bool := extra.1.nameText.toOption.any isShown
  have htest : ∀ extra ∈ named parts.attributes,
      isShown <$> extra.1.nameText = .ok (visible extra) := by
    intro extra he
    obtain ⟨_, -, rfl⟩ := List.mem_map.1 he
    rfl
  have hkept : (named parts.attributes).filter visible = named parts.shown := by
    rw [named, List.filter_map, Parts.shown, named]
    congr 1
    refine List.filter_congr fun extra _ => ?_
    rw [Bool.eq_iff_iff, decide_eq_true_iff]
    exact isShown_iff extra.1
  rw [shownExtras, h.attributes, Outcome.filterM_ok htest, hkept]

theorem Parts.overlaid_fixed (parts : Parts) : overlaid parts.fixed = parts.fixed := by
  cases hf : parts.failure <;> cases hs : parts.stack <;> simp only [fixed, hf, hs] <;> rfl

theorem payload_eq (h : entry.HasParts parts) :
    entry.payload = .ok (payloadOf (overlaid parts.given)) := by
  have hset : entry.payload =
      .ok ((named parts.shown ++ named parts.nested).foldl (fun payload extra =>
        Entries.assign extra.1 (JsonValue.ofValue extra.2) payload) (payloadOf parts.fixed)) := by
    unfold payload
    rw [h.level, h.logger, h.message, h.failure, h.stack, shownExtras_eq h, h.nested]
    cases hf : parts.failure <;> cases hs : parts.stack <;> simp only [Parts.fixed, hf, hs] <;> rfl
  have hnamed : named parts.shown ++ named parts.nested = named (parts.shown ++ parts.nested) :=
    List.map_append.symm
  rw [hset, hnamed, foldl_assign_payloadOf, Parts.given, overlaid_append, Parts.overlaid_fixed]

theorem Parts.isKept_of_mem_given (plain : parts.ArePlain) (message : parts.message.InRange)
    {member : String × Content} (h : member ∈ parts.given) : member.2.IsKept := by
  simp only [given, fixed, List.mem_append, List.mem_cons, List.not_mem_nil, or_false,
    Option.mem_toList, Option.map_eq_some_iff, List.mem_map] at h
  rcases h with (((rfl | rfl | rfl) | ⟨report, -, rfl⟩) | ⟨report, hr, rfl⟩) | ⟨extra, he, rfl⟩
  · exact Content.isKept_value plain.level
  · exact Content.isKept_value plain.logger
  · exact Content.isKept_message message
  · exact Content.isKept_value (.text report)
  · exact Content.isKept_value (plain.stack report hr)
  · exact Content.isKept_value (he.elim (plain.shown extra) (plain.nested extra))

/-- The line of an entry is one line, and a reader of JSON finds in it all that was given. -/
theorem jsonText_tells (parted : entry.HasParts parts) (plain : parts.ArePlain) :
    ∃ line found, entry.jsonText = .ok line ∧ (∀ c ∈ line.toList, IsPrintableAscii c) ∧
      JsonValue.ofText? line = some (.object found) ∧ Tells found parts.given := by
  have hkept : ∀ member ∈ overlaid parts.given, member.2.IsKept := fun member hm =>
    Parts.isKept_of_mem_given plain (inRange_messageText parted.message) (mem_overlaid hm)
  obtain ⟨written, found, hwritten, hreads, htold⟩ := members_payloadOf hkept
  have hread : (JsonValue.object written).ReadsAs (.object found) :=
    JsonValue.readsAs_object hreads
  refine ⟨(JsonValue.object written).render, found, ?_, ?_, hread.ofText, tells_of_read htold⟩
  · rw [jsonText, payload_eq parted]
    change (Entry.members _ >>= _) = _
    rw [hwritten]
    rfl
  · rw [JsonValue.render, String.toList_ofList]
    exact hread.printable

/-- An entry that gives some names twice, in its extras or nested among them. -/
def collidingEntry : Entry where
  logger := "store"
  level := 20
  message := .text "saved %s\n"
  arguments := [.text "\"Ñ\" \\ 😀\x07"]
  failure := some "Traceback:\n  in save\nRuntimeError: disk\tfull"
  stack := .text "Stack:\n  here"
  extras := named [("rows", .list [.int 3, .bool true]), ("_hidden", .blob []),
    ("level", .int (-7)), ("extra", .map (named [("rows", .null), ("message", .map (named [("é", .list [])]))]))]

def collidingParts : Parts where
  level := .text "INFO"
  logger := .text "store"
  message := .ofString "saved \"Ñ\" \\ 😀\x07\n"
  failure := some "Traceback:\n  in save\nRuntimeError: disk\tfull"
  stack := some (.text "Stack:\n  here")
  attributes := [("rows", .list [.int 3, .bool true]), ("_hidden", .blob []), ("level", .int (-7)),
    ("extra", .map (named [("rows", .null), ("message", .map (named [("é", .list [])]))]))]
  nested := [("rows", .null), ("message", .map (named [("é", .list [])]))]

theorem collidingEntry_parts : collidingEntry.HasParts collidingParts where
  level := rfl
  logger := rfl
  message := by
    change collidingEntry.messageText = .ok (.ofString "saved \"Ñ\" \\ 😀\x07\n")
    cbv
  failure := rfl
  stack := rfl
  attributes := rfl
  nested := rfl

theorem collidingParts_plain : collidingParts.ArePlain where
  level := .text "INFO"
  logger := .text "store"
  stack := by
    rintro _ ⟨⟩
    exact .text _
  shown := by
    have hshown : collidingParts.shown =
        [("rows", .list [.int 3, .bool true]), ("level", .int (-7))] := rfl
    rw [hshown]
    refine List.forall_mem_cons.2 ⟨.list ?_, List.forall_mem_singleton.2 (.int (-7))⟩
    exact List.forall_mem_cons.2 ⟨.int 3, List.forall_mem_singleton.2 (.bool true)⟩
  nested := by
    refine List.forall_mem_cons.2 ⟨.null, List.forall_mem_singleton.2 (.map ?_)⟩
    exact List.forall_mem_singleton.2 (.list (List.forall_mem_nil _))

theorem jsonText_tells_colliding : collidingEntry.HasParts collidingParts ∧
    collidingParts.ArePlain ∧ ∃ line found, collidingEntry.jsonText = .ok line ∧
      (∀ c ∈ line.toList, IsPrintableAscii c) ∧ JsonValue.ofText? line = some (.object found) ∧
      Tells found collidingParts.given :=
  ⟨collidingEntry_parts, collidingParts_plain,
    jsonText_tells collidingEntry_parts collidingParts_plain⟩

example : (collidingParts.given.map Prod.fst).eraseDups =
    ["level", "logger", "message", "exc_info", "stack_info", "rows"] := rfl

end Entry

end TableRecords
