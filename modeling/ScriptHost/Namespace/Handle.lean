import ScriptHost.Text.Quoted
import ScriptHost.Text.Record

/-!
# Namespace handles

A module system hands out a handle for each declared namespace.  Anyone can
make up a handle, so a handle alone proves nothing.
-/

namespace ScriptHost

/-- The identity and the name of a namespace. -/
structure Handle where
  /-- The number the namespace was declared under. -/
  id : UInt32
  /-- The name it was declared by. -/
  name : String
  deriving DecidableEq, Repr, Inhabited

namespace Handle

/-- A handle in messages: name and number. -/
def text (handle : Handle) : String :=
  handle.name ++ "#" ++ toString handle.id.toNat

def detail (handle : Handle) : String :=
  Text.recordText "NamespaceHandle"
    [("id", toString handle.id.toNat), ("name", Text.quoted handle.name)]

end Handle

/-- The namespace that structure layouts are declared in. -/
def structuresNamespace : String := "strata.structures"

/-- The namespace of the script runtime itself. -/
def runtimeNamespace : String := "strata.runtime"

/-- The runtime package with the interfaces layouts implement. -/
def scriptsPackage : String := "strata.scripts"

/-- The runtime package with the accessors of bare words. -/
def runtimePackage : String := "strata.runtime"

end ScriptHost
