import ScriptHost.Namespace.Registry
import ScriptHost.Recorded

/-!
# Module systems

The trust setup talks to a module system through four calls and knows nothing
else about it.  A module system is described by what each call does to its
state; a registry is one, and a front can be put before any of them: one that
records the calls, or one that interferes with some of them.
-/

namespace ScriptHost

/-- What a module system does on each of its four calls. -/
structure ModuleHost (σ : Type) where
  runtime : σ → Handle × σ
  declare : String → Action σ Handle
  /-- Lets the first namespace read a package of the second. -/
  grant : Handle → Handle → String → Action σ Unit
  /-- Whether the first namespace may read a package of the second. -/
  canRead : Handle → Handle → String → σ → Bool × σ

/-- One call on a module system. -/
inductive HostCall where
  | runtime
  | declare (name : String)
  | grant (reader owner : Handle) (package : String)
  | canRead (reader owner : Handle) (package : String)
  deriving DecidableEq, Repr

def HostCall.text : HostCall → String
  | runtime => "runtime"
  | declare name => "declare " ++ name
  | grant reader owner package =>
    "grant " ++ reader.text ++ " " ++ owner.text ++ " " ++ package
  | canRead reader owner package =>
    "can_read " ++ reader.text ++ " " ++ owner.text ++ " " ++ package

/-- Ways to interfere with the calls on a module system. -/
structure Interference where
  /-- A false handle for the runtime. -/
  runtime : Option Handle
  /-- The words every declaration is refused with. -/
  refuseDeclare : Option String
  /-- A handle given for every declaration, without declaring anything. -/
  declareAs : Option Handle
  /-- Packages whose grants are refused. -/
  refused : List String
  /-- Packages whose grants are accepted but not made. -/
  dropped : List String
  /-- Packages that are always reported as unreadable. -/
  blinded : List String
  /-- Packages that are otherwise reported as readable. -/
  trusted : List String
  deriving DecidableEq, Repr

def Interference.none : Interference :=
  ⟨.none, .none, .none, [], [], [], []⟩

namespace ModuleHost

variable {σ : Type}

/-- A module registry as a module system. -/
def ofRegistry : ModuleHost ModuleRegistry where
  runtime registry := (ModuleRegistry.runtimeHandle, registry)
  declare := ModuleRegistry.declare
  grant := ModuleRegistry.grant
  canRead reader owner package registry :=
    (registry.canRead reader owner package, registry)

/-- The same module system behind a front that records each call. -/
def recording (host : ModuleHost σ) : ModuleHost (Recorded HostCall σ) where
  runtime := Recorded.query .runtime host.runtime
  declare name := Recorded.action (.declare name) (host.declare name)
  grant reader owner package :=
    Recorded.action (.grant reader owner package)
      (host.grant reader owner package)
  canRead reader owner package :=
    Recorded.query (.canRead reader owner package)
      (host.canRead reader owner package)

/-- The same module system behind a front that interferes with its calls. -/
def interfered (how : Interference) (host : ModuleHost σ) : ModuleHost σ where
  runtime state :=
    match how.runtime with
    | some handle => (handle, state)
    | none => host.runtime state
  declare name :=
    match how.refuseDeclare, how.declareAs with
    | some words, _ => Action.fail (.namespaceFault (.refused words))
    | none, some handle => Action.done handle
    | none, none => host.declare name
  grant reader owner package :=
    if package ∈ how.refused then
      Action.fail (.namespaceFault (.refused ("refused " ++ package)))
    else if package ∈ how.dropped then Action.done ()
    else host.grant reader owner package
  canRead reader owner package state :=
    if package ∈ how.blinded then (false, state)
    else if package ∈ how.trusted then (true, state)
    else host.canRead reader owner package state

end ModuleHost

end ScriptHost
