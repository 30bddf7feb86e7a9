/-!
# Records as text

A record is written as its name followed by its labelled fields in braces, a
tagged value as its tag followed by its content in parentheses.
-/

namespace ScriptHost.Text

/-- A record with its labelled fields, such as `Point \x7b x: 1, y: 2 \x7d`. -/
def recordText (name : String) (fields : List (String × String)) : String :=
  let written := fields.map fun field => field.1 ++ ": " ++ field.2
  name ++ " \x7b " ++ ", ".intercalate written ++ " \x7d"

/-- A tagged value, such as `Some(1)`. -/
def taggedText (tag content : String) : String :=
  tag ++ "(" ++ content ++ ")"

/-- An optional value: `None`, or the content tagged `Some`. -/
def optionText : Option String → String
  | none => "None"
  | some content => taggedText "Some" content

/-- A list in square brackets with its items separated by commas. -/
def listText (items : List String) : String :=
  "[" ++ ", ".intercalate items ++ "]"

end ScriptHost.Text
