/-!
# The text of values for a log

A record is written with its name and its fields, each with name and value;
an optional value is `None` or `Some(…)`; a list stands in square brackets.
-/

namespace PacketServer.Text

/-- A record with its fields, as `Name { field: value, … }`. -/
def record (name : String) (fields : List (String × String)) : String :=
  if fields.isEmpty then name
  else
    name ++ " \x7b " ++
      ", ".intercalate (fields.map fun field => field.1 ++ ": " ++ field.2) ++ " \x7d"

/-- A record whose fields are not shown. -/
def closedRecord (name : String) : String := name ++ " \x7b .. \x7d"

/-- An optional value. -/
def optional : Option String → String
  | none => "None"
  | some value => "Some(" ++ value ++ ")"

/-- A list in square brackets. -/
def bracketed (items : List String) : String := "[" ++ ", ".intercalate items ++ "]"

/-- A truth value. -/
def truth (b : Bool) : String := if b then "true" else "false"

end PacketServer.Text
