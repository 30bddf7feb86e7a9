import ScriptHost.Action
import ScriptHost.HostType.WellKnown
import ScriptHost.Setting.Config

/-!
# The registry of host types

A registry gives each type it enters the next number.  Two indexes lead to a
type, one from its number and one from its name to its number.  A name is
entered once; a number that is given again, once all have been used, leads to
the later type only.  Supertypes must be types of the same registry, and final
types are no base types.  Proxy types are generated by the registry itself, and
only they carry the flag of generated proxies.
-/

namespace ScriptHost

/-- The host types defined so far. -/
structure TypeRegistry where
  /-- The number that tells this registry from others. -/
  serial : Nat
  environment : HostEnvironment
  /-- The entries of the index of numbers, the latest last: of two types with
  one number the later one counts. -/
  types : List HostType
  /-- The index of names. -/
  names : List (String × TypeId)
  nextId : UInt32
  /-- The number in the name of the next generated proxy. -/
  nextProxy : UInt32

namespace TypeRegistry

/-- How many types were ever entered. -/
def size (registry : TypeRegistry) : Nat :=
  registry.types.length

def find? (registry : TypeRegistry) (id : TypeId) : Option HostType :=
  registry.types.reverse.find? (·.id == id)

def findNamed? (registry : TypeRegistry) (name : String) : Option HostType :=
  (registry.names.lookup name).bind registry.find?

/-- Whether a type is the one kept here under its number. -/
def owns (registry : TypeRegistry) (t : HostType) : Bool :=
  (registry.find? t.id).any (·.isSame t)

/-- Whether a type is a proxy generated by this registry. -/
def isProxyType (registry : TypeRegistry) (t : HostType) : Bool :=
  t.flags.includes .generatedProxy && registry.owns t

/-- The types that are kept, by number. -/
def listed (registry : TypeRegistry) : List HostType :=
  (registry.types.filter registry.owns).mergeSort fun t u =>
    decide (t.id.value ≤ u.id.value)

/-- The type of a name that has to be there. -/
def require (registry : TypeRegistry) (name message : String) :
    Except Fault HostType :=
  match registry.findNamed? name with
  | some t => .ok t
  | none => .error (.malformed message "types" 0)

/-- The root type. -/
def objectType (registry : TypeRegistry) : Except Fault HostType :=
  registry.require WellKnown.objectName "Object type is missing"

/-! ## Entering types -/

/-- Enters a type under the next number, unless its name is taken. -/
def insert (name : String) (base : Option HostType)
    (interfaces : List HostType) (flags : TypeFlags) :
    Action TypeRegistry HostType := fun registry =>
  match registry.names.lookup name with
  | some _ => ⟨.error (.typeInsert (.nameTaken name)), registry, []⟩
  | none =>
    let added : HostType :=
      ⟨registry.serial, ⟨registry.nextId⟩, name, base, interfaces, flags⟩
    ⟨.ok added,
      { registry with
        types := registry.types ++ [added]
        names := registry.names ++ [(name, added.id)]
        nextId := registry.nextId + 1 },
      []⟩

def empty (serial : Nat) (environment : HostEnvironment) : TypeRegistry :=
  ⟨serial, environment, [], [], 1, 0⟩

/-- Enters types of the given names that derive alike. -/
def insertAll (names : List String) (base : HostType)
    (interfaces : List HostType) (flags : TypeFlags) :
    Action TypeRegistry Unit :=
  names.forM fun name => do
    let _ ← insert name base interfaces flags

/-- Enters the types that every host has, and the bean-style helpers where the
host has them. -/
def setUp (environment : HostEnvironment) : Action TypeRegistry Unit := do
  let object ← insert WellKnown.objectName none [] .none
  let _ ← insert WellKnown.className object [] .final
  let _ ← insert WellKnown.classLoaderName object [] .none
  let _ ← insert WellKnown.proxyName object [] .none
  let member ← insert WellKnown.memberName none [] .interface
  insertAll WellKnown.memberKindNames object [member] .final
  let _ ← insert WellKnown.methodHandleName object [] .none
  let _ ← insert WellKnown.handleLookupName object [] .final
  if environment.beanHelpers then
    insertAll WellKnown.beanNames object [] .none

/-- A registry as it is after setting up. -/
def new (serial : Nat) (environment : HostEnvironment) : TypeRegistry :=
  (setUp environment (empty serial environment)).state

/-! ## Definitions -/

/-- The base type of a definition, which is the root type if none is asked
for. -/
def baseFor (registry : TypeRegistry) (name : String) :
    Option HostType → Except Fault HostType
  | none => registry.objectType
  | some base =>
    if !registry.owns base then .error (.typeNotFound base.name)
    else if base.flags.includes .final then
      .error (.typeInsert (.finalBase name base.name))
    else .ok base

/-- The fault of a type that is to be implemented. -/
def interfaceFault? (registry : TypeRegistry) (t : HostType) : Option Fault :=
  if registry.owns t then none else some (.typeNotFound t.name)

/-- The fault of a type that a generated proxy is to implement. -/
def proxiedFault? (registry : TypeRegistry) (t : HostType) : Option Fault :=
  if !registry.owns t then some (.typeNotFound t.name)
  else if !t.isInterface then some (.typeInsert (.notInterface t.name))
  else none

/-- The base type of a definition that may be made, or its first fault, the
name left aside: that of the base, then those of the interfaces in order. -/
def definitionBase (registry : TypeRegistry) (name : String)
    (base : Option HostType) (interfaces : List HostType) :
    Except Fault HostType :=
  match registry.baseFor name base with
  | .error fault => .error fault
  | .ok base =>
    match interfaces.findSome? registry.interfaceFault? with
    | some fault => .error fault
    | none => .ok base

/-- Defines a type.  The flag of generated proxies is taken away. -/
def define (name : String) (base : Option HostType)
    (interfaces : List HostType) (flags : TypeFlags) :
    Action TypeRegistry HostType := fun registry =>
  match registry.definitionBase name base interfaces with
  | .error fault => ⟨.error fault, registry, []⟩
  | .ok base =>
    insert name base interfaces (flags.without .generatedProxy) registry

/-- The base type of a proxy that may be generated, or the first fault: those
of the interfaces in order, then that of a registry without a proxy base. -/
def proxyBase (registry : TypeRegistry) (interfaces : List HostType) :
    Except Fault HostType :=
  match interfaces.findSome? registry.proxiedFault? with
  | some fault => .error fault
  | none => registry.require WellKnown.proxyName "Proxy base type is missing"

/-- The name of the next generated proxy. -/
def proxyTypeName (registry : TypeRegistry) : String :=
  WellKnown.proxyStem ++ "$Proxy" ++ toString registry.nextProxy.toNat

/-- Generates a proxy type for interfaces.  Its running number is used up
even if a type of that name exists already. -/
def defineProxy (interfaces : List HostType) : Action TypeRegistry HostType :=
  fun registry =>
    match registry.proxyBase interfaces with
    | .error fault => ⟨.error fault, registry, []⟩
    | .ok base =>
      let name := registry.proxyTypeName
      let numbered := { registry with nextProxy := registry.nextProxy + 1 }
      Action.andThen
        (insert name base interfaces (.union .generatedProxy .final))
        (fun added => Action.andThen (Action.note (.proxyGenerated name added.id))
          (fun _ => Action.done added))
        numbered

def detail (registry : TypeRegistry) : String :=
  Text.recordText "HostTypeRegistry"
    [("types", toString registry.listed.length),
      ("environment", registry.environment.detail)]

end TypeRegistry

end ScriptHost
