import ScriptHost.Text.Extending
import ScriptHost.Text.Hex
import ScriptHost.Text.Hidden

/-!
# Quoted characters and texts

Messages and renderings show characters and texts in quotes.  The common
control characters, the backslash and the quote itself get a short escape;
every other character that would be invisible, or would be drawn onto its
neighbour, is written by its code point.
-/

namespace ScriptHost.Text

/-- Whether a code point lies in one of the ranges. -/
def inRanges (ranges : List (Nat × Nat)) (code : Nat) : Bool :=
  ranges.any fun range => range.1 ≤ code && code ≤ range.2

/-- Whether a character stands for itself between quotes. -/
def isShownAsIs (c : Char) : Bool :=
  !inRanges hiddenRanges c.toNat && !inRanges extendingRanges c.toNat

/-- A character written by its code point. -/
def codePointEscape (c : Char) : String :=
  "\\u\x7b" ++ hex c.toNat ++ "\x7d"

/-- One character as it stands between the given quotes. -/
def escaped (quote c : Char) : String :=
  if c = '\x00' then "\\0"
  else if c = '\t' then "\\t"
  else if c = '\r' then "\\r"
  else if c = '\n' then "\\n"
  else if c = '\\' then "\\\\"
  else if c = quote then String.ofList ['\\', c]
  else if isShownAsIs c then String.singleton c
  else codePointEscape c

/-- A character in single quotes. -/
def quotedChar (c : Char) : String :=
  "'" ++ escaped '\x27' c ++ "'"

/-- A text in double quotes. -/
def quoted (text : String) : String :=
  "\"" ++ String.join (text.toList.map (escaped '\x22')) ++ "\""

end ScriptHost.Text
