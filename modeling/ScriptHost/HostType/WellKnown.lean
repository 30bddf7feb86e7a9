/-!
# Well-known names

Some host types are part of every host: the root object type and the
introspection types scripts must be kept from, and on a full host the bean-style
helpers.  They go by their names.
-/

namespace ScriptHost.WellKnown

def objectName : String := "host.lang.Object"

def className : String := "host.lang.Class"

def classLoaderName : String := "host.lang.ClassLoader"

def proxyName : String := "host.lang.reflect.Proxy"

/-- The interface of reflected members. -/
def memberName : String := "host.lang.reflect.Member"

/-- The sorts of reflected members. -/
def memberKindNames : List String :=
  ["host.lang.reflect.Method", "host.lang.reflect.Field",
    "host.lang.reflect.Constructor"]

def methodHandleName : String := "host.lang.invoke.MethodHandle"

def handleLookupName : String := "host.lang.invoke.MethodHandles$Lookup"

def beanNames : List String :=
  ["host.beans.Statement", "host.beans.XMLEncoder", "host.beans.XMLDecoder"]

/-- What the names of reflective types begin with. -/
def reflectStem : String := "host.lang.reflect."

/-- What the names of invocation types begin with. -/
def invokeStem : String := "host.lang.invoke."

/-- What the names of generated proxies begin with. -/
def proxyStem : String := "host.proxy."

end ScriptHost.WellKnown
