import ScriptHost.Structure.Layout

/-!
# Published layouts

The published layouts of a synthesizer are kept under their names, in
ascending order of the names' UTF-8 bytes.  Publishing never replaces a layout
that is there already.
-/

namespace ScriptHost

/-- Whether a text stands before another one in the order of UTF-8 bytes. -/
def bytewiseBefore (left right : String) : Bool :=
  left.toUTF8.toList < right.toUTF8.toList

/-- The published layouts with the names they are kept under. -/
structure Published where
  /-- Names and layouts, in ascending order of the names. -/
  entries : List (String × Layout)
  deriving DecidableEq, Repr

namespace Published

/-- Nothing is published. -/
def empty : Published := ⟨[]⟩

/-- The layout kept under a name. -/
def find? (published : Published) (name : String) : Option Layout :=
  published.entries.lookup name

/-- Puts an entry before the first one with a later name. -/
def place (name : String) (layout : Layout) :
    List (String × Layout) → List (String × Layout)
  | [] => [(name, layout)]
  | entry :: rest =>
    if bytewiseBefore name entry.1 then (name, layout) :: entry :: rest
    else entry :: place name layout rest

/-- Keeps a layout under a name unless the name is in use. -/
def publish (published : Published) (name : String) (layout : Layout) :
    Published :=
  match published.find? name with
  | some _ => published
  | none => ⟨place name layout published.entries⟩

/-- The number of published layouts. -/
def size (published : Published) : Nat :=
  published.entries.length

/-- The published layouts in the order of their names. -/
def toList (published : Published) : List Layout :=
  published.entries.map (·.2)

end Published

end ScriptHost
