import ScriptHost.Setting.Config
import ScriptHost.Structure.Published

/-!
# The layout synthesizer

A synthesizer turns requests for a descriptor and a mode into layouts.  A
layout is generated when its canonical name is first asked for and is served
from the published ones ever after.  A request that fails changes nothing.
Names that are no structure names are left to fallback sources.
-/

namespace ScriptHost

/-- A source of layouts for other names. -/
abbrev LayoutSource : Type := String → Option Layout

/-- A layout synthesizer. -/
structure Synthesizer where
  /-- The number that tells its layouts from those of others. -/
  origin : Nat
  boundary : Boundary
  config : LayoutConfig
  published : Published
  /-- The sources for names that are no structure names, in order. -/
  fallbacks : List LayoutSource
  generated : Nat

namespace Synthesizer

variable {σ : Type}

/-- Adds a fallback source, which is asked after those added before. -/
def withFallback (self : Synthesizer) (source : LayoutSource) : Synthesizer :=
  { self with fallbacks := self.fallbacks ++ [source] }

/-- Sets up a synthesizer behind a new trust boundary and adds fallback sources
to it in order. -/
def new (origin : Nat) (host : ModuleHost σ) (config : LayoutConfig)
    (fallbacks : List LayoutSource) : Action σ Synthesizer := do
  let boundary ← Boundary.establish host
  Action.note
    (.synthesizerReady boundary.home config.defaultMode config.maxFields)
  return fallbacks.foldl withFallback ⟨origin, boundary, config, .empty, [], 0⟩

/-- The synthesizer after a new layout is published. -/
def publish (self : Synthesizer) (name : String) (layout : Layout) :
    Synthesizer :=
  { self with
    boundary := self.boundary.define name
    published := self.published.publish name layout
    generated := self.generated + 1 }

/-- The layout of a canonical name, generated if it is not published yet, and
whether it was generated now. -/
def resolve (mode : FieldMode) (name descriptor : String) :
    Action Synthesizer (Layout × Bool) := fun self =>
  match self.published.find? name with
  | some layout => ⟨.ok (layout, false), self, [.layoutReused name]⟩
  | none =>
    match Layout.generate ⟨self.origin, self.generated⟩ mode
        self.config.maxFields name descriptor self.boundary with
    | .error fault => ⟨.error fault, self, []⟩
    | .ok layout =>
      ⟨.ok (layout, true), self.publish name layout,
        [.layoutGenerated name layout.fieldCount layout.wordCount]⟩

/-- The layout of a descriptor in a mode. -/
def getLayout (descriptor : String) (mode : FieldMode) :
    Action Synthesizer Layout := do
  let (layout, _) ← resolve mode (mode.canonicalName descriptor) descriptor
  return layout

/-- The layout of a descriptor in the configured mode. -/
def getDefaultLayout (descriptor : String) : Action Synthesizer Layout :=
  fun self => getLayout descriptor self.config.defaultMode self

/-- The layout of a name.  A structure name is resolved by its mode and
descriptor; any other name is left to the first source that knows it. -/
def findLayout (name : String) : Action Synthesizer Layout :=
  match FieldMode.route name with
  | some (mode, descriptor) => do
    let (layout, _) ← resolve mode name descriptor
    return layout
  | none => fun self =>
    match self.fallbacks.findSome? (· name) with
    | some layout => ⟨.ok layout, self, []⟩
    | none => ⟨.error (.layoutNotFound name), self, []⟩

/-- Resolves requests in order and counts the layouts generated on the way. -/
def prewarm : List (String × FieldMode) → Action Synthesizer Nat
  | [] => return 0
  | (descriptor, mode) :: rest => do
    let (_, fresh) ← resolve mode (mode.canonicalName descriptor) descriptor
    let count ← prewarm rest
    return (if fresh then count + 1 else count)

/-- Whether a name is published. -/
def contains (self : Synthesizer) (name : String) : Bool :=
  (self.published.find? name).isSome

/-- The number of published layouts. -/
def size (self : Synthesizer) : Nat :=
  self.published.size

/-- The published layouts in the order of their names. -/
def layouts (self : Synthesizer) : List Layout :=
  self.published.toList

def detail (self : Synthesizer) : String :=
  Text.recordText "LayoutSynthesizer"
    [("namespace", self.boundary.home.detail),
      ("layouts", toString self.size),
      ("fallbacks", toString self.fallbacks.length)]

end Synthesizer

end ScriptHost
