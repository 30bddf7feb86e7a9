import ScriptHost.HostType.Basic
import ScriptHost.Namespace.Handle
import ScriptHost.Structure.Mode

/-!
# Journal

Operations report what they did as events.  An event has a level and a
wording; the journal of an operation lists its events in order.
-/

namespace ScriptHost

/-- How noteworthy an event is. -/
inductive Level where
  /-- Routine traffic. -/
  | trace
  /-- Something was created or changed. -/
  | debug
  /-- Something was denied. -/
  | warn
  deriving DecidableEq, Repr

def Level.text : Level → String
  | trace => "TRACE"
  | debug => "DEBUG"
  | warn => "WARN"

/-- Something an operation did. -/
inductive Event where
  | namespaceDeclared (handle : Handle)
  /-- A grant was made that had not been made before. -/
  | readGranted (reader owner : Handle) (package : String)
  /-- A synthesizer was set up. -/
  | synthesizerReady (home : Handle) (mode : FieldMode) (maxFields : Nat)
  | layoutReused (name : String)
  | layoutGenerated (name : String) (fields unboxed : Nat)
  | proxyGenerated (name : String) (id : TypeId)
  | linkDenied (request policy : String)
  | accessDenied (isStatic : Bool) (target policy : String)
  | policyInstalled (context policy : String)
  | policyCleared (context policy : String)
  | linked (linker request : String)
  deriving DecidableEq, Repr

namespace Event

def level : Event → Level
  | layoutReused _ | linked _ _ => .trace
  | linkDenied _ _ | accessDenied _ _ _ => .warn
  | _ => .debug

def text : Event → String
  | namespaceDeclared handle => "declared namespace " ++ handle.text
  | readGranted reader owner package =>
    "granted " ++ reader.text ++ " read access to " ++ owner.text ++ ":" ++
      package
  | synthesizerReady home mode maxFields =>
    "layout synthesizer ready in " ++ home.text ++ " (default mode " ++
      mode.text ++ s!", max {maxFields} fields)"
  | layoutReused name => "layout cache hit for " ++ name
  | layoutGenerated name fields unboxed =>
    "generated layout " ++ name ++ s!" ({fields} fields, {unboxed} unboxed)"
  | proxyGenerated name id =>
    "generated proxy type " ++ name ++ " (" ++ id.text ++ ")"
  | linkDenied request policy =>
    "denied " ++ request ++ " under policy " ++ policy
  | accessDenied isStatic target policy =>
    "denied " ++ (if isStatic then "static " else "") ++ "access to " ++
      target ++ " under policy " ++ policy
  | policyInstalled context policy =>
    "context " ++ context ++ ": installing policy " ++ policy
  | policyCleared context policy =>
    "context " ++ context ++ ": cleared policy " ++ policy
  | linked linker request => linker ++ " linked " ++ request

/-- An event as one line: its level and its wording. -/
def line (event : Event) : String :=
  event.level.text ++ " " ++ event.text

end Event

end ScriptHost
