import ScriptHost.Action

/-!
# Namespaces and read grants

A module registry declares namespaces and grants one namespace read access to
a package of another.  A declaration or a grant is never taken back.  The
grants that reading is decided by are kept apart from the log, which lists them
in the order they were first made.
-/

namespace ScriptHost

/-- The permission to read a package of another namespace. -/
structure ReadGrant where
  /-- The number of the namespace that may read. -/
  reader : UInt32
  /-- The number of the namespace the package belongs to. -/
  owner : UInt32
  package : String
  deriving DecidableEq, Repr

/-- The declared namespaces and the grants between them. -/
structure ModuleRegistry where
  nextId : UInt32
  /-- The handles of the declared namespaces, in order of declaration. -/
  namespaces : List Handle
  /-- The set of grants that reading is decided by. -/
  inForce : List ReadGrant
  /-- The log of grants, in the order they were first made. -/
  grants : List ReadGrant
  deriving DecidableEq, Repr

namespace ModuleRegistry

/-- The handle of the runtime's own namespace, declared from the start. -/
def runtimeHandle : Handle := ⟨1, runtimeNamespace⟩

/-- A registry that knows the runtime's namespace only. -/
def new : ModuleRegistry := ⟨2, [runtimeHandle], [], []⟩

/-- The handle of a declared namespace. -/
def find? (registry : ModuleRegistry) (name : String) : Option Handle :=
  registry.namespaces.find? (·.name == name)

/-- Whether a handle agrees with a declared namespace in name and number. -/
def isDeclared (registry : ModuleRegistry) (handle : Handle) : Bool :=
  (registry.find? handle.name).any (·.id == handle.id)

/-- Declares a namespace under the next number, unless its name is taken. -/
def declare (name : String) : Action ModuleRegistry Handle := fun registry =>
  match registry.find? name with
  | some _ =>
    ⟨.error (.namespaceFault (.alreadyDeclared name)), registry, []⟩
  | none =>
    let handle : Handle := ⟨registry.nextId, name⟩
    ⟨.ok handle,
      { registry with
        nextId := registry.nextId + 1
        namespaces := registry.namespaces ++ [handle] },
      [.namespaceDeclared handle]⟩

/-- Lets `reader` read a package of `owner`.  Both must be handles of declared
namespaces; a grant that is in force already is not logged again. -/
def grant (reader owner : Handle) (package : String) :
    Action ModuleRegistry Unit := fun registry =>
  if !registry.isDeclared reader then
    ⟨.error (.namespaceFault (.undeclared reader)), registry, []⟩
  else if !registry.isDeclared owner then
    ⟨.error (.namespaceFault (.undeclared owner)), registry, []⟩
  else
    let made : ReadGrant := ⟨reader.id, owner.id, package⟩
    if made ∈ registry.inForce then ⟨.ok (), registry, []⟩
    else
      ⟨.ok (),
        { registry with
          inForce := made :: registry.inForce
          grants := registry.grants ++ [made] },
        [.readGranted reader owner package]⟩

/-- Whether `reader` may read a package of `owner`.  Handles are told apart by
number alone here, and every namespace may read its own packages. -/
def canRead (registry : ModuleRegistry) (reader owner : Handle)
    (package : String) : Bool :=
  reader.id == owner.id || (⟨reader.id, owner.id, package⟩ ∈ registry.inForce)

end ModuleRegistry

end ScriptHost
