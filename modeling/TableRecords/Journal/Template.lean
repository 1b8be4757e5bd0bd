import TableRecords.Number.Rounded
import TableRecords.Text.CodePoints
import TableRecords.Value.Integer

/-! # Message templates

A template is text with directives that a percent sign opens: an optional key in parentheses,
flags, a least width, a precision, and the letter of a conversion. Filling a template takes one
argument for each directive, from a list or from a mapping by key.
-/

namespace TableRecords

namespace Template

/-- A width or a precision: written out, or taken from the arguments. -/
inductive Extent where
  | fixed (n : Nat)
  | fromArguments
deriving DecidableEq, Repr

/-- A directive. Its ending is the conversion letter with its position, or what is wrong there. -/
structure Directive where
  key : Option String
  flags : List Char
  width : Option Extent
  precision : Option Extent
  ending : Except TemplateFault (Char × Nat)

inductive Piece where
  | plain (c : Char)
  | unclosedKey
  | directive (d : Directive)

/-- The characters up to the parenthesis that closes `depth` open ones, and those after it. -/
def closeKey? (depth : Nat) : List Char → Option (List Char × List Char)
  | [] => none
  | c :: rest =>
    if c == ')' && depth == 0 then some ([], rest)
    else
      let depth := if c == '(' then depth + 1 else if c == ')' then depth - 1 else depth
      (closeKey? depth rest).map fun (key, rest) => (c :: key, rest)

def readExtent (cs : List Char) : Option Extent × List Char :=
  match cs with
  | '*' :: rest => (some .fromArguments, rest)
  | _ =>
    let (digits, rest) := cs.span Char.isDigit
    if digits.isEmpty then (none, rest) else (some (.fixed (ofDecimalDigits digits)), rest)

def int32Max : Int := 2147483647

def exceeds (bound : Nat) : Option Extent → Bool
  | some (.fixed n) => bound < n
  | _ => false

def dropSize : List Char → List Char
  | 'h' :: rest => rest
  | 'l' :: rest => rest
  | 'L' :: rest => rest
  | rest => rest

def readBody (total : Nat) (key : Option String) (cs : List Char) : Directive × List Char :=
  let (flags, rest) := cs.span ['-', '+', ' ', '#', '0'].contains
  let (width, rest) := readExtent rest
  if exceeds int64Max.toNat width then (⟨key, flags, none, none, .error .widthTooLarge⟩, [])
  else
    let (precision, rest) := match rest with
      | '.' :: rest =>
        let (precision, rest) := readExtent rest
        (some (precision.getD (.fixed 0)), rest)
      | _ => (none, rest)
    if exceeds int32Max.toNat precision then
      (⟨key, flags, width, none, .error .precisionTooLarge⟩, [])
    else
      match dropSize rest with
      | [] => (⟨key, flags, width, precision, .error .unfinished⟩, [])
      | letter :: rest =>
        (⟨key, flags, width, precision, .ok (letter, total - rest.length - 1)⟩, rest)

def readPiece (total : Nat) (cs : List Char) : Piece × List Char :=
  match cs with
  | '%' :: rest => (.plain '%', rest)
  | '(' :: rest =>
    match closeKey? 0 rest with
    | none => (.unclosedKey, [])
    | some (key, rest) =>
      let (d, rest) := readBody total (some (String.ofList key)) rest
      (.directive d, rest)
  | _ =>
    let (d, rest) := readBody total none cs
    (.directive d, rest)

def pieces (total : Nat) : List Char → List Piece
  | [] => []
  | '%' :: cs =>
    let (piece, rest) := readPiece total cs
    piece :: pieces total (cs.drop (cs.length - rest.length))
  | c :: cs => .plain c :: pieces total cs
termination_by cs => cs.length
decreasing_by all_goals simp; try omega

/-- The arguments still to be used, and the mapping or container that keys are looked up in. -/
structure Supply where
  pending : List Value
  container : Option Value

namespace Supply

def ofList (arguments : List Value) : Supply := ⟨arguments, none⟩

/-- One argument, which keys are looked up in if it is a container. -/
def ofValue (v : Value) : Supply :=
  match v with
  | .map _ | .list _ | .blob _ => ⟨[v], some v⟩
  | _ => ⟨[v], none⟩

def next (supply : Supply) : Except Fault (Value × Supply) :=
  match supply.pending with
  | [] => .error (.template .tooFewArguments)
  | v :: rest => .ok (v, { supply with pending := rest })

def atKey (supply : Supply) (key : String) : Except Fault Supply :=
  match supply.container with
  | some (.map entries) =>
    match Entries.find? entries (.text key) with
    | some entry => .ok { supply with pending := [entry.2] }
    | none => .error (.missingKey (.text key))
  | some (.blob _) => .error (.template (.listIndex "byte"))
  | some _ => .error (.template (.listIndex "list"))
  | none => .error (.template .needsMap)

end Supply

/-- An extent as a number, negative ones included; the bound is that of the named machine word. -/
def resolveExtent (bound : Int) (word : String) (extent : Option Extent) (supply : Supply) :
    Except Fault (Option Int × Supply) :=
  match extent with
  | none => .ok (none, supply)
  | some (.fixed n) => .ok (some n, supply)
  | some .fromArguments => do
    let (v, supply) ← supply.next
    let n ← match v with
      | .int n => pure n
      | .bool b => pure (b.toNat : Int)
      | _ => throw (.template .widthNotInteger)
    if -bound ≤ n + 1 ∧ n ≤ bound then pure (some n, supply)
    else throw (.template (.argumentTooLarge word))

/-- A converted argument: sign and base mark stand before the padding zeros of numbers. -/
structure Converted where
  sign : List Char := []
  mark : List Char := []
  body : CodePoints
  isNumber : Bool := false

def integerArgument (letter : Char) (v : Value) : Except Fault Int :=
  match v with
  | .int n => .ok n
  | .bool b => .ok b.toNat
  | .real _ | .decimal _ =>
    if ['o', 'x', 'X'].contains letter then
      .error (.template (.needsInteger letter v.typeName))
    else v.toInteger
  | _ =>
    if ['o', 'x', 'X'].contains letter then
      .error (.template (.needsInteger letter v.typeName))
    else .error (.template (.needsNumber letter v.typeName))

def realArgument (v : Value) : Except Fault Binary64 :=
  match v with
  | .real x => .ok x
  | .bool b => .ok (.ofInt b.toNat)
  | .int n =>
    match Binary64.ofInt? n with
    | some x => .ok x
    | none => .error (.template .integerTooLarge)
  | .decimal d =>
    match d with
    | .nan _ true _ => .error (.template .signallingNaN)
    | _ => .ok d.toBinary64
  | _ => .error (.template (.needsReal v.typeName))

def characterArgument (v : Value) : Except Fault Nat :=
  let ofCode (n : Int) : Except Fault Nat :=
    if 0 ≤ n ∧ n < 0x110000 then .ok n.toNat else .error (.template .characterRange)
  match v with
  | .text s =>
    match s.toList with
    | [c] => .ok c.toNat
    | _ => .error (.template .needsCharacter)
  | .int n => ofCode n
  | .bool b => ofCode b.toNat
  | _ => .error (.template .needsCharacter)

def signChars (flags : List Char) (negative : Bool) : List Char :=
  if negative then ['-']
  else if flags.contains '+' then ['+']
  else if flags.contains ' ' then [' ']
  else []

def convertInteger (flags : List Char) (precision : Option Nat) (letter : Char) (n : Int) :
    Converted :=
  let base := if letter == 'o' then 8 else if letter == 'x' || letter == 'X' then 16 else 10
  let digits := Nat.toDigits base n.natAbs
  let digits := List.replicate (precision.getD 0 - digits.length) '0' ++ digits
  { sign := signChars flags (n < 0)
    mark := if base != 10 && flags.contains '#' then ['0', letter] else []
    body := .ofChars (if letter == 'X' then digits.map Char.toUpper else digits)
    isNumber := true }

def convertReal (flags : List Char) (precision : Option Nat) (letter : Char) (x : Binary64) :
    Converted :=
  let places := precision.getD 6
  let keep := flags.contains '#'
  let body := match x with
    | .nan => ['n', 'a', 'n']
    | .infinite _ => ['i', 'n', 'f']
    | .finite _ magnitude =>
      match letter.toLower with
      | 'f' => magnitude.fixedChars places keep
      | 'e' => magnitude.exponentChars places keep
      | _ => magnitude.generalChars places keep
  let negative := match x with
    | .nan => false
    | .infinite negative => negative
    | .finite negative _ => negative
  { sign := signChars flags negative
    body := .ofChars (if letter.isUpper then body.map Char.toUpper else body)
    isNumber := true }

def convertText (precision : Option Nat) (text : String) : Converted :=
  { body := .ofChars (match precision with
      | some n => text.toList.take n
      | none => text.toList) }

def convert (flags : List Char) (precision : Option Nat) (letter : Char) (position : Nat)
    (v : Value) : Except Fault Converted :=
  match letter with
  | 's' => .ok (convertText precision v.toText)
  | 'r' => .ok (convertText precision v.display)
  | 'a' => .ok (convertText precision (asciiOnly v.display))
  | 'd' | 'i' | 'u' => do
    let n ← integerArgument letter v
    let _ ← integerText n
    pure (convertInteger flags precision letter n)
  | 'o' | 'x' | 'X' => convertInteger flags precision letter <$> integerArgument letter v
  | 'e' | 'E' | 'f' | 'F' | 'g' | 'G' =>
    convertReal flags precision letter <$> realArgument v
  | 'c' => (fun n => { body := [n] }) <$> characterArgument v
  | _ => .error (.template (.unknownConversion letter position))

def pad (flags : List Char) (width : Nat) (converted : Converted) : CodePoints :=
  let front := CodePoints.ofChars (converted.sign ++ converted.mark)
  let missing := width - (front ++ converted.body).length
  let filler (c : Char) : CodePoints := List.replicate missing c.toNat
  if flags.contains '-' then front ++ converted.body ++ filler ' '
  else if converted.isNumber && flags.contains '0' then front ++ filler '0' ++ converted.body
  else filler ' ' ++ front ++ converted.body

def fillDirective (d : Directive) (supply : Supply) : Except Fault (CodePoints × Supply) := do
  let supply ← match d.key with
    | some key => supply.atKey key
    | none => pure supply
  let (width, supply) ← resolveExtent int64Max "ssize_t" d.width supply
  let (precision, supply) ← resolveExtent int32Max "int" d.precision supply
  let (letter, position) ← d.ending.mapError Fault.template
  let (v, supply) ← supply.next
  let width := width.getD 0
  let flags := if width < 0 then '-' :: d.flags else d.flags
  let converted ← convert flags (precision.map Int.toNat) letter position v
  pure (pad flags width.natAbs converted, supply)

/-- Pieces filled in, in order. All arguments must be used unless keys were looked up in them. -/
def fill : List Piece → Supply → Except Fault CodePoints
  | [], supply =>
    if supply.container.isNone && !supply.pending.isEmpty then
      .error (.template .tooManyArguments)
    else .ok []
  | .plain c :: rest, supply => do
    let filled ← fill rest supply
    pure (c.toNat :: filled)
  | .unclosedKey :: _, supply =>
    .error (.template (if supply.container.isSome then .unclosedKey else .needsMap))
  | .directive d :: rest, supply => do
    let (converted, supply) ← fillDirective d supply
    let filled ← fill rest supply
    pure (converted ++ filled)

end Template

def fillTemplate (template : String) (supply : Template.Supply) : Except Fault CodePoints :=
  let cs := template.toList
  Template.fill (Template.pieces cs.length cs) supply

end TableRecords
