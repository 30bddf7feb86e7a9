import ScriptHost.Fault

/-!
# Descriptors on their own

A descriptor can be read without generating a layout.  There is no name to
report a fault under then, so it is reported under the descriptor itself.
-/

namespace ScriptHost.Shape

/-- The shape of a descriptor of at most `limit` fields. -/
def ofDescriptor (limit : Nat) (descriptor : String) : Except Fault Shape :=
  match read limit descriptor with
  | .ok shape => .ok shape
  | .error fault => .error (.layoutGeneration descriptor (.shape fault))

end ScriptHost.Shape
