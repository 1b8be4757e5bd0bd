import TableRecords.Value.Basic

/-! # Problems with settings and options

Checking a group of named values reports every problem, each with the place it was found at and
its kind.
-/

namespace TableRecords

/-- One step of the way to a value: a name, or a number standing for a key. -/
inductive LocationStep where
  | name (s : String)
  | number (n : Int)
deriving DecidableEq, Repr

def int64Min : Int := -9223372036854775808

def int64Max : Int := 9223372036854775807

def fitsInt64 (n : Int) : Bool := int64Min ≤ n && n ≤ int64Max

/-- A key as a step: text by its name, integers of 64 bits as numbers, all else as displayed. -/
def LocationStep.ofKey : Value → LocationStep
  | .text s => .name s
  | .bool b => .number b.toNat
  | .int n => if fitsInt64 n then .number n else .name (toString n)
  | v => .name v.display

inductive ProblemKind where
  | intType | intParsing | intParsingSize | intFromFloat | finiteNumber | tooSmall | tooLarge
  | boolType | boolParsing
  | stringType | stringUnicode
  | floatType | floatParsing
  | mapType | groupType | unknownName | keyType | notListed
deriving DecidableEq, Repr

def ProblemKind.code : ProblemKind → String
  | intType => "int_type"
  | intParsing => "int_parsing"
  | intParsingSize => "int_parsing_size"
  | intFromFloat => "int_from_float"
  | finiteNumber => "finite_number"
  | tooSmall => "greater_than_equal"
  | tooLarge => "less_than_equal"
  | boolType => "bool_type"
  | boolParsing => "bool_parsing"
  | stringType => "string_type"
  | stringUnicode => "string_unicode"
  | floatType => "float_type"
  | floatParsing => "float_parsing"
  | mapType => "dict_type"
  | groupType => "model_type"
  | unknownName => "extra_forbidden"
  | keyType => "invalid_key"
  | notListed => "literal_error"

structure Problem where
  location : List LocationStep
  kind : ProblemKind
deriving DecidableEq, Repr

end TableRecords
