import IRDiagnostics.Json.Number

/-!
This module contains the rules by which JSON values are read as data. A structure is read from an
object or from the array of its fields, a choice from the name of the alternative or from an object
with that name as its only key.
-/

namespace IRDiagnostics

namespace Json

def toBool? : Json → Option Bool
  | .bool value => some value
  | _ => none

def toText? : Json → Option String
  | .string text => text
  | _ => none

def toNumber? : Json → Option Number
  | .number literal => some literal
  | _ => none

def toUInt32? (json : Json) : Option UInt32 := json.toNumber?.bind (·.toUInt32?)

def toUInt64? (json : Json) : Option UInt64 := json.toNumber?.bind (·.toUInt64?)

def toInt64? (json : Json) : Option Int64 := json.toNumber?.bind (·.toInt64?)

def toBinary64? (json : Json) : Option Binary64 := json.toNumber?.bind (·.toBinary64?)

def toList? (decode : Json → Option α) : Json → Option (List α)
  | .array items => items.mapM decode
  | _ => none

/--
What may be missing is also missing if it is `null`.
-/
def toOption? (decode : Json → Option α) : Json → Option (Option α)
  | .null => some none
  | json => (decode json).map some

/--
The values of a key in an object.
-/
def valuesOf (members : List (Text × Json)) (key : String) : List Json :=
  (members.filter (·.1 = some key)).map (·.2)

/--
The value of a key, which may be missing but not repeated.
-/
def valueOf? (members : List (Text × Json)) (key : String) : Option (Option Json) :=
  match valuesOf members key with
  | [] => some none
  | [value] => some (some value)
  | _ => none

/--
The fields of a structure in their order, `none` for those that are missing. Members with other keys
are ignored, but their keys have to be texts. An array has the fields from the first on and nothing
else.
-/
def fields? (names : List String) : Json → Option (List (Option Json))
  | .object members =>
    if members.all (·.1.isSome) then names.mapM (valueOf? members) else none
  | .array items =>
    if items.length ≤ names.length then
      some (items.map some ++ List.replicate (names.length - items.length) none)
    else
      none
  | _ => none

/--
The alternative of a choice by its name, with what belongs to it.
-/
def alternative? : Json → Option (String × Option Json)
  | .string (some name) => some (name, none)
  | .object [(some name, payload)] => some (name, some payload)
  | _ => none

/--
The name of an alternative to which nothing belongs. Written as an object, it has the value `null`.
-/
def plainAlternative? (json : Json) : Option String :=
  match json.alternative? with
  | some (name, none) => some name
  | some (name, some .null) => some name
  | _ => none

end Json

end IRDiagnostics
