import TableRecords.Problem

/-! # Faults

Every way in which an operation can fail, by its cause. The wording of a fault and the name of its
kind, under which logs and answers show it, are functions of the cause.
-/

namespace TableRecords

/-- The kinds of fault, from most to least specific where one includes another. -/
inductive FaultKind where
  | invalidIdentifier | invalidOperator | reservedColumn | recordDeleted | searchNotEnabled
  | transactionFailed | general | validation
  | value | type | key | index | missingAttribute | overflow | invalidOperation | runtime
  | exception
  | storeError | interface | database | data | operational | integrity | internal | programming
  | notSupported | storeWarning
  | abort
deriving DecidableEq, Repr

namespace FaultKind

def all : List FaultKind :=
  [invalidIdentifier, invalidOperator, reservedColumn, recordDeleted, searchNotEnabled,
    transactionFailed, general, validation, value, type, key, index, missingAttribute, overflow,
    invalidOperation, runtime, exception, storeError, interface, database, data, operational,
    integrity, internal, programming, notSupported, storeWarning, abort]

def name : FaultKind → String
  | invalidIdentifier => "InvalidIdentifier"
  | invalidOperator => "InvalidOperator"
  | reservedColumn => "ReservedColumn"
  | recordDeleted => "RecordDeleted"
  | searchNotEnabled => "SearchNotEnabled"
  | transactionFailed => "TransactionFailed"
  | general => "RowkitError"
  | validation => "ValidationError"
  | value => "ValueError"
  | type => "TypeError"
  | key => "KeyError"
  | index => "IndexError"
  | missingAttribute => "AttributeError"
  | overflow => "OverflowError"
  | invalidOperation => "InvalidOperation"
  | runtime => "RuntimeError"
  | exception => "Exception"
  | storeError => "Error"
  | interface => "InterfaceError"
  | database => "DatabaseError"
  | data => "DataError"
  | operational => "OperationalError"
  | integrity => "IntegrityError"
  | internal => "InternalError"
  | programming => "ProgrammingError"
  | notSupported => "NotSupportedError"
  | storeWarning => "Warning"
  | abort => "Abort"

def ofName? (name : String) : Option FaultKind := all.find? (·.name == name)

def isStoreError : FaultKind → Bool
  | storeError | interface | database | data | operational | integrity | internal | programming
  | notSupported => true
  | _ => false

def isOwn : FaultKind → Bool
  | invalidIdentifier | invalidOperator | reservedColumn | recordDeleted | searchNotEnabled
  | transactionFailed | general => true
  | _ => false

/-- Whether an operation may turn the fault into another: all but the order to abort. -/
def isOrdinary : FaultKind → Bool
  | abort => false
  | _ => true

/-- The names of the kinds that include this one, nearest first, down to the kind of everything. -/
def broader : FaultKind → List String
  | invalidIdentifier | invalidOperator | reservedColumn =>
    "RowkitError" :: "ValueError" :: ordinary
  | recordDeleted | searchNotEnabled | transactionFailed => "RowkitError" :: ordinary
  | validation => "ValueError" :: ordinary
  | key | index => "LookupError" :: ordinary
  | overflow => "ArithmeticError" :: ordinary
  | invalidOperation => "DecimalException" :: "ArithmeticError" :: ordinary
  | interface | database => "Error" :: ordinary
  | data | operational | integrity | internal | programming | notSupported =>
    "DatabaseError" :: "Error" :: ordinary
  | exception => ["BaseException", "object"]
  | abort => ["BaseException", "object"]
  | _ => ordinary
where
  ordinary : List String := ["Exception", "BaseException", "object"]

def lineage (kind : FaultKind) : List String := kind.name :: kind.broader

def qualifiedName (kind : FaultKind) : String :=
  if kind.isOwn then "rowkit.exceptions." ++ kind.name
  else if kind.isStoreError || kind == storeWarning then "sqlite3." ++ kind.name
  else if kind == invalidOperation then "decimal." ++ kind.name
  else kind.name

end FaultKind

/-- How many decimal digits an integer may have when it is read from text or written out. -/
def digitLimit : Nat := 4300

inductive TemplateFault where
  | tooFewArguments
  | tooManyArguments
  | needsMap
  | listIndex (container : String)
  | unclosedKey
  | unfinished
  | widthNotInteger
  | widthTooLarge
  | precisionTooLarge
  | argumentTooLarge (word : String)
  | signallingNaN
  | unknownConversion (letter : Char) (position : Nat)
  | needsNumber (letter : Char) (typeName : String)
  | needsInteger (letter : Char) (typeName : String)
  | needsReal (typeName : String)
  | integerTooLarge
  | needsCharacter
  | characterRange
deriving DecidableEq, Repr

namespace TemplateFault

def kind : TemplateFault → FaultKind
  | unclosedKey | unfinished | widthTooLarge | precisionTooLarge | unknownConversion ..
  | signallingNaN => .value
  | integerTooLarge | characterRange | argumentTooLarge _ => .overflow
  | _ => .type

/-- A character in a message: itself if it is ASCII and no control character but U+001F. -/
def shownLetter (c : Char) : String :=
  if 31 ≤ c.toNat ∧ c.toNat ≤ 126 then c.toString else "?"

def message : TemplateFault → String
  | tooFewArguments => "not enough arguments for format string"
  | tooManyArguments => "not all arguments converted during string formatting"
  | needsMap => "format requires a mapping"
  | listIndex container => container ++ " indices must be integers or slices, not str"
  | unclosedKey => "incomplete format key"
  | unfinished => "incomplete format"
  | widthNotInteger => "* wants int"
  | widthTooLarge => "width too big"
  | precisionTooLarge => "precision too big"
  | argumentTooLarge word => "Python int too large to convert to C " ++ word
  | signallingNaN => "cannot convert signaling NaN to float"
  | unknownConversion letter position =>
    "unsupported format character '" ++ shownLetter letter ++ "' (0x" ++
      String.ofList (hexDigits 1 letter.toNat) ++ ") at index " ++ toString position
  | needsNumber letter typeName =>
    "%" ++ letter.toString ++ " format: a real number is required, not " ++ typeName
  | needsInteger letter typeName =>
    "%" ++ letter.toString ++ " format: an integer is required, not " ++ typeName
  | needsReal typeName => "must be real number, not " ++ typeName
  | integerTooLarge => "int too large to convert to float"
  | needsCharacter => "%c requires int or char"
  | characterRange => "%c arg not in range(0x110000)"

end TemplateFault

inductive Fault where
  | invalidIdentifier (name : Value) (context : String)
  | invalidOperator (operator : Value)
  | keyDeclared (table : String)
  | shadowingColumn (column table : String)
  | computedColumn (column table reserved : String)
  | keyAssigned
  | attributeAssigned (name : String)
  | recordDeleted (action : String) (table id : Value)
  | searchNotEnabled (table : String)
  | insertLost (id : Value) (table : String)
  /-- A transaction rolled back because of another fault; a note replaces the standard wording. -/
  | transactionFailed (cause : Fault) (note : String)
  | rejected (problems : List Problem)
  | rowWithoutKey (table : Value)
  | noIndexColumns
  | noField (table : Value) (name : String)
  | noColumn (table name : Value)
  | missingKey (key : Value)
  | notAKey (typeName : String)
  | signallingKey
  | outOfRange (container : String)
  | withoutParts (typeName : String)
  | withoutItems (typeName : String)
  | noMember (typeName member : String)
  | notCallable (typeName : String)
  | notAType (typeName : String)
  | notAMapping (typeName : String)
  | notWritable (typeName member : String)
  | nameNotText (typeName : String)
  | optionNotText
  | bytesBeginning
  | notInteger (literal : Value)
  /-- A numeral with too many digits to be read, or to be written when their number is not told. -/
  | numeralTooLong (digits : Option Nat)
  | notIntegral (typeName : String)
  | integerOfNaN (decimal : Bool)
  | integerOfInfinity (decimal : Bool)
  | unordered (typeName : String)
  | undefinedComparison
  | quotientTooLarge
  | template (fault : TemplateFault)
  | keyWithoutText (typeName : String)
  | unknownLevel
  | entryAttribute (name : String)
  | fixedSchema
  | raised (kind : FaultKind) (text : String)
deriving Repr

namespace Fault

def kind : Fault → FaultKind
  | invalidIdentifier .. => .invalidIdentifier
  | invalidOperator .. => .invalidOperator
  | keyDeclared .. | shadowingColumn .. | computedColumn .. | keyAssigned | attributeAssigned .. =>
    .reservedColumn
  | recordDeleted .. => .recordDeleted
  | searchNotEnabled .. => .searchNotEnabled
  | insertLost .. => .general
  | transactionFailed .. => .transactionFailed
  | rejected .. => .validation
  | rowWithoutKey .. | noIndexColumns | notInteger .. | numeralTooLong .. | integerOfNaN ..
  | unknownLevel => .value
  | noField .. | noColumn .. | noMember .. | notWritable .. => .missingAttribute
  | missingKey .. | entryAttribute .. => .key
  | outOfRange .. => .index
  | withoutParts .. | withoutItems .. | notCallable .. | notAType .. | notAMapping ..
  | nameNotText .. | optionNotText | bytesBeginning | notAKey .. | signallingKey
  | notIntegral .. | unordered .. | keyWithoutText .. | fixedSchema => .type
  | undefinedComparison => .invalidOperation
  | integerOfInfinity .. | quotientTooLarge => .overflow
  | template fault => fault.kind
  | raised kind _ => kind

/-- A literal as a fault quotes it: two hundred characters at most. -/
def quoted (literal : Value) : String :=
  let shown := match literal with
    | .blob bytes => (Value.blob (bytes.take 200)).display
    | _ => literal.display
  String.ofList (shown.toList.take 200)

/-- The wording of a fault. The text of a look-up fault is its key as displayed; rejected settings
and options have no wording of their own. -/
def message : Fault → String
  | invalidIdentifier name context => "Invalid " ++ context ++ ": " ++ name.display
  | invalidOperator operator => "Invalid operator: " ++ operator.display
  | keyDeclared table => "'id' is created automatically on " ++ table
  | shadowingColumn column table =>
    "Column " ++ displayText column ++ " of " ++ table ++ " would shadow a Record attribute"
  | computedColumn column table reserved =>
    "Column " ++ displayText column ++ " of " ++ table ++ " uses the reserved " ++
      displayText reserved ++ " prefix"
  | keyAssigned => "'id' of a record cannot be changed"
  | attributeAssigned name => "Record." ++ name ++ " is not a field and cannot be assigned"
  | recordDeleted action table id =>
    "Cannot " ++ action ++ " " ++ table.toText ++ " #" ++ id.toText ++ ": record was deleted"
  | searchNotEnabled table => "Call searchable() on " ++ table ++ " before search()"
  | insertLost id table =>
    "Inserted row " ++ id.toText ++ " of " ++ table ++ " could not be read back"
  | transactionFailed cause note =>
    if note.isEmpty then "Transaction rolled back: " ++ cause.message else note
  | rejected _ => ""
  | rowWithoutKey table => "Row from " ++ table.toText ++ " has no 'id' column"
  | noIndexColumns => "At least one column is required for a search index"
  | noField table name =>
    "Record from " ++ table.display ++ " has no field " ++ displayText name
  | noColumn table name => table.toText ++ " has no column " ++ name.display
  | missingKey key => key.display
  | notAKey typeName => "unhashable type: '" ++ typeName ++ "'"
  | signallingKey => "Cannot hash a signaling NaN value"
  | outOfRange container =>
    (if container.isEmpty then "" else container ++ " ") ++ "index out of range"
  | withoutParts typeName => "'" ++ typeName ++ "' object is not subscriptable"
  | withoutItems typeName => "argument of type '" ++ typeName ++ "' is not iterable"
  | noMember typeName member => "'" ++ typeName ++ "' object has no attribute '" ++ member ++ "'"
  | notCallable typeName => "'" ++ typeName ++ "' object is not callable"
  | notAType typeName => "__class__ must be set to a class, not '" ++ typeName ++ "' object"
  | notAMapping typeName => "__dict__ must be set to a dictionary, not a '" ++ typeName ++ "'"
  | notWritable typeName member =>
    "attribute '" ++ member ++ "' of '" ++ typeName ++ "' objects is not writable"
  | nameNotText typeName => "attribute name must be string, not '" ++ typeName ++ "'"
  | optionNotText => "keywords must be strings"
  | bytesBeginning => "startswith first arg must be bytes or a tuple of bytes, not str"
  | notInteger literal => "invalid literal for int() with base 10: " ++ quoted literal
  | numeralTooLong digits =>
    "Exceeds the limit (" ++ toString digitLimit ++ " digits) for integer string conversion" ++
      ((digits.map fun n => ": value has " ++ toString n ++ " digits").getD "") ++
      "; use sys.set_int_max_str_digits() to increase the limit"
  | notIntegral typeName =>
    "int() argument must be a string, a bytes-like object or a real number, not '" ++ typeName ++
      "'"
  | integerOfNaN decimal =>
    if decimal then "cannot convert NaN to integer" else "cannot convert float NaN to integer"
  | integerOfInfinity decimal =>
    if decimal then "cannot convert Infinity to integer"
    else "cannot convert float infinity to integer"
  | unordered typeName =>
    "'>' not supported between instances of '" ++ typeName ++ "' and 'int'"
  | undefinedComparison => "[<class 'decimal.InvalidOperation'>]"
  | quotientTooLarge => "integer division result too large for a float"
  | template fault => fault.message
  | keyWithoutText typeName => "keys must be str, int, float, bool or None, not " ++ typeName
  | unknownLevel => "Unable to configure handler 'default'"
  | entryAttribute name =>
    displayText ("Attempt to overwrite " ++ displayText name ++ " in LogRecord")
  | fixedSchema => "'mappingproxy' object does not support item assignment"
  | raised kind text => if kind = .key then displayText text else text

def report (fault : Fault) : String :=
  let text := fault.message
  if text.isEmpty then fault.kind.qualifiedName else fault.kind.qualifiedName ++ ": " ++ text

def isStoreError (fault : Fault) : Bool := fault.kind.isStoreError

def isOrdinary (fault : Fault) : Bool := fault.kind.isOrdinary

end Fault

end TableRecords
