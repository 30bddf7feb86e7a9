import ScriptHost.Text.Stem

/-!
# Field modes and structure names

A shape can be laid out in two modes.  Each mode has its own name stem, and
the stem followed by a descriptor is the canonical name of the layout.  The
mode and the descriptor can be read back from a canonical name.
-/

namespace ScriptHost

/-- The package that structure layouts belong to. -/
def structuresPackage : String := "strata.structures"

/-- How the primitive fields of a structure are stored. -/
inductive FieldMode where
  /-- Primitive fields have a bare word beside their object slot. -/
  | dual
  /-- Every field has an object slot only. -/
  | single
  deriving DecidableEq, Repr, Inhabited

namespace FieldMode

/-- The text that canonical names of the mode begin with. -/
def stem : FieldMode → String
  | dual => "strata.structures.Dual$"
  | single => "strata.structures.Single$"

/-- The mode's name in settings and messages. -/
def text : FieldMode → String
  | dual => "dual"
  | single => "single"

/-- The mode as layout renderings show it. -/
def detail : FieldMode → String
  | dual => "DualField"
  | single => "SingleField"

/-- The mode with a given name. -/
def ofText? : String → Option FieldMode
  | "dual" => some dual
  | "single" => some single
  | _ => none

/-- The name of the layout of a descriptor in this mode. -/
def canonicalName (mode : FieldMode) (descriptor : String) : String :=
  mode.stem ++ descriptor

/-- The mode and descriptor of a structure name. -/
def route (name : String) : Option (FieldMode × String) :=
  match Text.afterStem? dual.stem name with
  | some descriptor => some (dual, descriptor)
  | none => (Text.afterStem? single.stem name).map fun descriptor =>
      (single, descriptor)

end FieldMode

/-- Whether a name begins with the stem of the dual mode. -/
def isDualName (name : String) : Bool :=
  Text.hasStem FieldMode.dual.stem name

/-- Whether a name begins with the stem of the single mode. -/
def isSingleName (name : String) : Bool :=
  Text.hasStem FieldMode.single.stem name

/-- Whether a name begins with the stem of either mode. -/
def isStructureName (name : String) : Bool :=
  isDualName name || isSingleName name

end ScriptHost
