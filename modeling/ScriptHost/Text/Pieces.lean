/-!
# Texts made of separated pieces

A text is cut at every occurrence of a separator character.  The pieces are
the maximal runs without the separator, empty ones included, so a text with
`n` separators always has `n + 1` pieces.
-/

namespace ScriptHost.Text

/-- The runs between the separators, in order. -/
def pieceChars (separator : Char) : List Char → List (List Char)
  | [] => [[]]
  | c :: rest =>
    if c = separator then [] :: pieceChars separator rest
    else
      match pieceChars separator rest with
      | [] => [[c]]
      | piece :: pieces => (c :: piece) :: pieces

/-- The pieces of a text cut at every separator. -/
def pieces (separator : Char) (text : String) : List String :=
  (pieceChars separator text.toList).map String.ofList

theorem pieceChars_ne_nil (separator : Char) (cs : List Char) :
    pieceChars separator cs ≠ [] := by
  cases cs with
  | nil => simp [pieceChars]
  | cons c rest =>
    by_cases hc : c = separator
    · simp [pieceChars, hc]
    · cases hrest : pieceChars separator rest <;> simp [pieceChars, hc, hrest]

end ScriptHost.Text
