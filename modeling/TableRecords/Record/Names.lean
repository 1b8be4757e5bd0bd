import TableRecords.Value.Key

/-! # Names of attributes

The names under which a record's own state and operations are reached. A column of such a name
could not be reached as an attribute.
-/

namespace TableRecords

def recordModule : String := "rowkit.domain.record"

def recordDocumentation : String :=
  "\n".intercalate [
    "",
    "    One row of a model's table.",
    "",
    "    Records are produced by `Model` queries and inserts; they hold a copy of",
    "    the row's fields and a handle to the database they came from. Editing a",
    "    field changes only this copy until `save()` is called.",
    "",
    "    Example:",
    "        ```python",
    "        user = users.insert(\x7b\"name\": \"Alice\", \"age\": 30\x7d)",
    "        user.age = 31",
    "        user.save()",
    "",
    "        user[\"name\"]        # \"Alice\"",
    "        user.to_dict()      # \x7b\"id\": 1, \"name\": \"Alice\", \"age\": 31\x7d",
    "        user.delete()",
    "        ```",
    "    "
  ]

def innerNames : List String := ["_db", "_table", "_fields", "_annotations", "_deleted"]

def memberNames : List String :=
  ["INTERNAL", "RESERVED", "annotations", "delete", "get", "id", "is_deleted", "keys",
    "persisted_fields", "reload", "save", "shadows_attribute", "table", "to_dict", "_ensure_alive"]

def objectNames : List String :=
  ["__annotations__", "__class__", "__contains__", "__delattr__", "__dict__", "__dir__", "__doc__",
    "__eq__", "__format__", "__ge__", "__getattr__", "__getattribute__", "__getitem__",
    "__getstate__", "__gt__", "__hash__", "__init__", "__init_subclass__", "__iter__", "__le__",
    "__lt__", "__module__", "__ne__", "__new__", "__reduce__", "__reduce_ex__", "__repr__",
    "__setattr__", "__setitem__", "__sizeof__", "__str__", "__subclasshook__", "__weakref__"]

def typeNames : List String :=
  ["mro", "__base__", "__bases__", "__basicsize__", "__call__", "__dictoffset__", "__flags__",
    "__instancecheck__", "__itemsize__", "__mro__", "__name__", "__or__", "__prepare__",
    "__qualname__", "__ror__", "__subclasscheck__", "__subclasses__", "__text_signature__",
    "__weakrefoffset__"]

def isMember (name : String) : Bool := memberNames.contains name || objectNames.contains name

/-- Whether a column of that name would be hidden by an attribute, be it one of the type. -/
def shadowsAttribute (name : String) : Bool :=
  innerNames.contains name || isMember name || typeNames.contains name

def attributeName : Value → Except Fault String
  | .text name => .ok name
  | v => .error (.nameNotText v.typeName)

/-- Whether a column would be hidden by an attribute. Its name is looked up as a key first. -/
def wouldShadow (name : Value) : Except Fault Bool := do
  name.checkKey
  shadowsAttribute <$> attributeName name

end TableRecords
