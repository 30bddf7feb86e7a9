import ScriptHost.HostType.Registry

/-!
# Well-known types

Setting up a registry enters the same types for every registry of a host: they
are determined by the serial number of the registry.  Nothing stands in the way,
since their names are different.
-/

namespace ScriptHost.WellKnown

def make (owner : Nat) (id : UInt32) (name : String) (base : Option HostType)
    (interfaces : List HostType) (flags : TypeFlags) : HostType :=
  ⟨owner, ⟨id⟩, name, base, interfaces, flags⟩

def object (owner : Nat) : HostType :=
  make owner 1 objectName none [] .none

def classType (owner : Nat) : HostType :=
  make owner 2 className (object owner) [] .final

def classLoader (owner : Nat) : HostType :=
  make owner 3 classLoaderName (object owner) [] .none

def proxy (owner : Nat) : HostType :=
  make owner 4 proxyName (object owner) [] .none

def member (owner : Nat) : HostType :=
  make owner 5 memberName none [] .interface

def memberOf (owner : Nat) (id : UInt32) (name : String) : HostType :=
  make owner id name (object owner) [member owner] .final

def always (owner : Nat) : List HostType :=
  [object owner, classType owner, classLoader owner, proxy owner,
    member owner,
    memberOf owner 6 "host.lang.reflect.Method",
    memberOf owner 7 "host.lang.reflect.Field",
    memberOf owner 8 "host.lang.reflect.Constructor",
    make owner 9 methodHandleName (object owner) [] .none,
    make owner 10 handleLookupName (object owner) [] .final]

def beans (owner : Nat) : List HostType :=
  [make owner 11 "host.beans.Statement" (object owner) [] .none,
    make owner 12 "host.beans.XMLEncoder" (object owner) [] .none,
    make owner 13 "host.beans.XMLDecoder" (object owner) [] .none]

def types (owner : Nat) (environment : HostEnvironment) : List HostType :=
  always owner ++ if environment.beanHelpers then beans owner else []

section

variable (owner : Nat)

theorem object_mem_always : object owner ∈ always owner := by simp [always]

theorem classType_mem_always : classType owner ∈ always owner := by
  simp [always]

theorem classLoader_mem_always : classLoader owner ∈ always owner := by
  simp [always]

theorem proxy_mem_always : proxy owner ∈ always owner := by simp [always]

theorem member_mem_always : member owner ∈ always owner := by simp [always]

end

end ScriptHost.WellKnown

namespace ScriptHost.TypeRegistry

/-- Setting up succeeds and enters the well-known types, each by its number and
by its name. -/
theorem setUp_apply (serial : Nat) (environment : HostEnvironment) :
    setUp environment (empty serial environment) =
      ⟨.ok (),
        ⟨serial, environment, WellKnown.types serial environment,
          (WellKnown.types serial environment).map fun t => (t.name, t.id),
          UInt32.ofNat ((WellKnown.types serial environment).length + 1), 0⟩,
        []⟩ := by
  obtain ⟨beanHelpers⟩ := environment
  -- Every insertion asks whether its name is among the earlier ones, so the
  -- names are written out here.
  cases beanHelpers <;>
    simp [setUp, insertAll, insert, bind, pure, Action.andThen, Action.done,
      empty, List.lookup_cons, List.lookup_nil, WellKnown.objectName, WellKnown.className,
      WellKnown.classLoaderName, WellKnown.proxyName, WellKnown.memberName,
      WellKnown.memberKindNames, WellKnown.methodHandleName,
      WellKnown.handleLookupName, WellKnown.beanNames, WellKnown.types,
      WellKnown.always, WellKnown.beans, WellKnown.make, WellKnown.object,
      WellKnown.classType, WellKnown.classLoader, WellKnown.proxy,
      WellKnown.member, WellKnown.memberOf]

theorem new_eq (serial : Nat) (environment : HostEnvironment) :
    new serial environment =
      ⟨serial, environment, WellKnown.types serial environment,
        (WellKnown.types serial environment).map fun t => (t.name, t.id),
        UInt32.ofNat ((WellKnown.types serial environment).length + 1), 0⟩ :=
  congrArg Outcome.state (setUp_apply serial environment)

end ScriptHost.TypeRegistry
