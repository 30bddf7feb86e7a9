import ScriptHost.HostType.Registry

/-!
# Sensitive host types

A type is sensitive if it derives from a class meta-object or a bean-style
helper, or if its own name lies in a reserved namespace.  A type that derives
from the proxy base is judged as a proxy instead: a proxy its registry
generated is checked for static access only, any other one always.

A classifier keeps the classifications of its registry's own types.  Types of
other registries are classified against the same anchors, but never kept,
because their numbers may collide.
-/

namespace ScriptHost

/-- The families of sensitive types. -/
inductive SensitiveClass where
  /-- Derives from the class meta-object or a class loader. -/
  | metaObject
  /-- Derives from a bean-style helper. -/
  | beanReflection
  /-- Has a name in a reserved namespace. -/
  | reflectiveNamespace
  deriving DecidableEq, Repr

def SensitiveClass.text : SensitiveClass → String
  | metaObject => "meta-object"
  | beanReflection => "bean-reflection"
  | reflectiveNamespace => "reflective-namespace"

/-- How access to a type is treated. -/
inductive Category where
  /-- Never checked. -/
  | ordinary
  /-- A generated proxy, checked for static access only. -/
  | genuineProxy
  /-- A hand-made proxy, always checked. -/
  | forgedProxy
  /-- A sensitive type, always checked. -/
  | sensitive (family : SensitiveClass)
  deriving DecidableEq, Repr

namespace Category

def text : Category → String
  | ordinary => "ordinary"
  | genuineProxy => "genuine-proxy"
  | forgedProxy => "forged-proxy"
  | sensitive family => family.text

def ofText? : String → Option Category
  | "ordinary" => some ordinary
  | "genuine-proxy" => some genuineProxy
  | "forged-proxy" => some forgedProxy
  | "meta-object" => some (sensitive .metaObject)
  | "bean-reflection" => some (sensitive .beanReflection)
  | "reflective-namespace" => some (sensitive .reflectiveNamespace)
  | _ => none

/-- Whether access to a type of this category has to be checked. -/
def requiresCheck (category : Category) (isStatic : Bool) : Bool :=
  match category with
  | ordinary => false
  | genuineProxy => isStatic
  | forgedProxy | sensitive _ => true

end Category

/-- What is known about one type. -/
structure Classification where
  family : Option SensitiveClass
  category : Category
  deriving DecidableEq, Repr

/-- The types that sensitivity is measured against. -/
structure Anchors where
  classType : HostType
  classLoader : HostType
  proxy : HostType
  beans : List HostType

namespace Anchors

/-- An anchor that every host has. -/
def required (registry : TypeRegistry) (name : String) :
    Except Fault HostType :=
  registry.require name ("Well-known type " ++ name ++ " is missing")

/-- The anchors of a registry at this moment; the bean-style helpers may be
missing. -/
def ofRegistry (registry : TypeRegistry) : Except Fault Anchors := do
  let classType ← required registry WellKnown.className
  let classLoader ← required registry WellKnown.classLoaderName
  let proxy ← required registry WellKnown.proxyName
  return ⟨classType, classLoader, proxy,
    WellKnown.beanNames.filterMap registry.findNamed?⟩

/-- The sensitive family of a type, if any; the first family that fits. -/
def familyOf (anchors : Anchors) (t : HostType) : Option SensitiveClass :=
  if t.isAssignableTo anchors.classType ||
      t.isAssignableTo anchors.classLoader then
    some .metaObject
  else if anchors.beans.any t.isAssignableTo then
    some .beanReflection
  else if Text.hasStem WellKnown.reflectStem t.name ||
      Text.hasStem WellKnown.invokeStem t.name then
    some .reflectiveNamespace
  else none

/-- Classifies a type from scratch. -/
def classify (anchors : Anchors) (registry : TypeRegistry) (t : HostType) :
    Classification :=
  let family := anchors.familyOf t
  let category :=
    if t.isAssignableTo anchors.proxy then
      if registry.isProxyType t then .genuineProxy else .forgedProxy
    else
      match family with
      | some family => .sensitive family
      | none => .ordinary
  ⟨family, category⟩

end Anchors

/-- The anchors of a registry and the classifications kept so far. -/
structure Classifier where
  /-- What sensitivity is measured against. -/
  anchors : Anchors
  /-- The kept classifications, or nothing if none are to be kept. -/
  kept : Option (List (TypeId × Classification))

namespace Classifier

/-- A classifier of a registry that does or does not keep classifications. -/
def new (registry : TypeRegistry) (keeps : Bool) : Except Fault Classifier := do
  let anchors ← Anchors.ofRegistry registry
  return ⟨anchors, if keeps then some [] else none⟩

def keptCount (self : Classifier) : Nat :=
  match self.kept with
  | some kept => kept.length
  | none => 0

/-- The classification of a type, and the classifier that may now keep it.
`registry` is the classifier's registry as it is at this moment. -/
def lookup (registry : TypeRegistry) (t : HostType) (self : Classifier) :
    Classification × Classifier :=
  match self.kept with
  | none => (self.anchors.classify registry t, self)
  | some kept =>
    if !registry.owns t then (self.anchors.classify registry t, self)
    else
      match kept.lookup t.id with
      | some known => (known, self)
      | none =>
        let fresh := self.anchors.classify registry t
        (fresh, { self with kept := some (kept ++ [(t.id, fresh)]) })

def familyOf (registry : TypeRegistry) (t : HostType) (self : Classifier) :
    Option SensitiveClass × Classifier :=
  let answer := self.lookup registry t
  (answer.1.family, answer.2)

def isSensitive (registry : TypeRegistry) (t : HostType) (self : Classifier) :
    Bool × Classifier :=
  let answer := self.lookup registry t
  (answer.1.family.isSome, answer.2)

def categoryOf (registry : TypeRegistry) (t : HostType) (self : Classifier) :
    Category × Classifier :=
  let answer := self.lookup registry t
  (answer.1.category, answer.2)

def requiresCheck (registry : TypeRegistry) (t : HostType) (isStatic : Bool)
    (self : Classifier) : Bool × Classifier :=
  let answer := self.lookup registry t
  (answer.1.category.requiresCheck isStatic, answer.2)

def guardDetail (self : Classifier) : String :=
  Text.recordText "DispatchGuard" [("cached", toString self.keptCount)]

end Classifier

end ScriptHost
