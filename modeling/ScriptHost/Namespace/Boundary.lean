import ScriptHost.Namespace.Host

/-!
# The trust boundary of generated layouts

Generated layouts live in a namespace of their own.  It may read two packages
of the runtime, and the runtime may read the layouts; nothing else is granted.
Setting the boundary up checks after each grant that it took effect and stops
at the first fault.
-/

namespace ScriptHost

/-- The namespace of generated layouts and what it may read. -/
structure Boundary where
  home : Handle
  runtime : Handle
  /-- The runtime packages the layouts may read. -/
  readable : List String
  runtimeReads : Bool
  /-- The names defined in the layouts' namespace, oldest first. -/
  defined : List String
  deriving DecidableEq, Repr

namespace Boundary

variable {σ : Type}

/-- Makes a grant and requires that it took effect. -/
def bridge (host : ModuleHost σ) (reader owner : Handle) (package : String)
    (fault : NamespaceFault) : Action σ Unit := do
  host.grant reader owner package
  let readable ← Action.query (host.canRead reader owner package)
  Action.require readable (.namespaceFault fault)

/-- Declares the layouts' namespace and makes the three grants it needs. -/
def establish (host : ModuleHost σ) : Action σ Boundary := do
  let runtime ← Action.query host.runtime
  let home ← host.declare structuresNamespace
  bridge host home runtime scriptsPackage
    (.ineffectiveGrant scriptsPackage home)
  bridge host home runtime runtimePackage
    (.ineffectiveGrant runtimePackage home)
  bridge host runtime home structuresPackage (.blindRuntime home)
  return {
    home := home
    runtime := runtime
    readable := [scriptsPackage, runtimePackage]
    runtimeReads := true
    defined := [] }

/-- Whether layouts may read a package of the runtime. -/
def canAddress (boundary : Boundary) (package : String) : Bool :=
  boundary.readable.contains package

/-- The boundary after one more definition. -/
def define (boundary : Boundary) (name : String) : Boundary :=
  { boundary with defined := boundary.defined ++ [name] }

def definitionCount (boundary : Boundary) : Nat :=
  boundary.defined.length

def detail (boundary : Boundary) : String :=
  Text.recordText "TrustBoundary"
    [("namespace", boundary.home.detail),
      ("runtime", boundary.runtime.detail),
      ("definitions", toString boundary.definitionCount)]

end Boundary

end ScriptHost
