/-! # Levels of log entries

A level is an integer; the usual ones have names.
-/

namespace TableRecords

namespace Level

def debug : Int := 10

def info : Int := 20

def warning : Int := 30

def names : List (Int × String) :=
  [(50, "CRITICAL"), (40, "ERROR"), (30, "WARNING"), (20, "INFO"), (10, "DEBUG"), (0, "NOTSET")]

def otherNames : List (Int × String) := [(50, "FATAL"), (30, "WARN")]

def name (level : Int) : String := (names.lookup level).getD ("Level " ++ toString level)

def ofName? (name : String) : Option Int :=
  ((names ++ otherNames).find? fun entry => entry.2 == name).map (·.1)

end Level

end TableRecords
