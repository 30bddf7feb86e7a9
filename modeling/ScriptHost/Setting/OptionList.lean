import ScriptHost.Text.Pieces

/-!
# Comma-separated options

The value of an option is a text of tokens separated by commas.  Empty tokens
are dropped, and of equal tokens the first one is kept.
-/

namespace ScriptHost

/-- The value of an option. -/
structure OptionList where
  /-- The text as given, if any was. -/
  raw : Option String
  /-- The distinct tokens in the order they first appear. -/
  values : List String
  deriving DecidableEq, Repr, Inhabited

namespace OptionList

/-- The distinct non-empty tokens of a text. -/
def tokens (text : String) : List String :=
  ((Text.pieces ',' text).filter (· ≠ "")).eraseDups

/-- Reads the value of an option that may not have been given. -/
def ofText : Option String → OptionList
  | none => ⟨none, []⟩
  | some text => ⟨some text, tokens text⟩

/-- Whether a token is one of the values. -/
def contains (options : OptionList) (token : String) : Bool :=
  options.values.contains token

/-- Whether there are no values. -/
def isEmpty (options : OptionList) : Bool :=
  options.values.isEmpty

/-- The values joined by commas. -/
def text (options : OptionList) : String :=
  ",".intercalate options.values

end OptionList

end ScriptHost
