import ScriptHost.HostType.Basic

/-!
# Searching with a list of pending types

Whether a type is assignable to another one can be found out with a list of
types that are still to be looked at.  Each turn takes the type at the end of
the list.  If it looks like the wanted type the search is over; otherwise its
base and its interfaces go to the end of the list.  Nothing is marked as seen,
so a type that several chains lead to is looked at once for each of them.
-/

namespace ScriptHost

/-- A search that is under way or over. -/
inductive Search where
  /-- The types still to be looked at, the next one at the end. -/
  | pending (types : List HostType)
  | ended (found : Bool)

namespace Search

/-- One turn of a search for a type that looks like the wanted one. -/
def turn (wanted : HostType) : Search → Search
  | ended found => ended found
  | pending types =>
    match types.getLast? with
    | none => ended false
    | some current =>
      if current.looksLike wanted then ended true
      else pending (types.dropLast ++ current.supertypes)

/-- A search after a number of turns. -/
def after (wanted : HostType) : Nat → Search → Search
  | 0, search => search
  | turns + 1, search => after wanted turns (turn wanted search)

end Search

end ScriptHost
