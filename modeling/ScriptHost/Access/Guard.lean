import ScriptHost.Access.Policy
import ScriptHost.Access.Sensitivity

/-!
# The dispatch guard

The guard stands before every dynamic operation.  Linking is refused whatever
the target as soon as a policy is installed.  Access to a type is refused if a
policy is installed and the type has to be checked.
-/

namespace ScriptHost

/-- What a dynamic operation does. -/
inductive Operation where
  | getProperty
  | setProperty
  | getMethod
  | call
  | new
  deriving DecidableEq, Repr

namespace Operation

/-- The operation as requests show it. -/
def text : Operation → String
  | getProperty => "getProp"
  | setProperty => "setProp"
  | getMethod => "getMethod"
  | call => "call"
  | new => "new"

/-- The operation as invocations show it. -/
def detail : Operation → String
  | getProperty => "GetProperty"
  | setProperty => "SetProperty"
  | getMethod => "GetMethod"
  | call => "Call"
  | new => "New"

/-- The operation that requests show in a given way. -/
def ofText? : String → Option Operation
  | "getProp" => some getProperty
  | "setProp" => some setProperty
  | "getMethod" => some getMethod
  | "call" => some call
  | "new" => some new
  | _ => none

end Operation

/-- A request to link one dynamic operation. -/
structure LinkRequest where
  target : HostType
  operation : Operation
  member : Option String
  /-- Whether the type itself is meant rather than an object of it. -/
  isStatic : Bool

namespace LinkRequest

def text (request : LinkRequest) : String :=
  let member :=
    match request.member with
    | some name => ":" ++ name
    | none => ""
  request.operation.text ++ member ++ " on " ++
    (if request.isStatic then "static " else "") ++ request.target.name

def detail (request : LinkRequest) : String :=
  Text.taggedText "LinkRequest" request.text

end LinkRequest

/-- The outcome of the link gate. -/
inductive LinkDecision where
  | defer
  | deny (reason : DenialReason)
  deriving DecidableEq, Repr

namespace Guard

variable {σ : Type}

/-- The decision of the link gate: any policy refuses any request. -/
def decide (policy : Option Policy) (_request : LinkRequest) : LinkDecision :=
  match policy with
  | some _ => .deny .linkWithPolicy
  | none => .defer

/-- Applies the link gate to a request. -/
def tryLink (policy : Option Policy) (request : LinkRequest) :
    Action σ Unit := fun state =>
  match policy, decide policy request with
  | some policy, .deny reason =>
    ⟨.error (.dispatchDenied request.target.name reason), state,
      [.linkDenied request.text policy.name]⟩
  | _, _ => ⟨.ok (), state, []⟩

def canLinkType (registry : TypeRegistry) (t : HostType)
    (classifier : Classifier) : Bool × Classifier :=
  classifier.isSensitive registry t

/-- The check of access to a type.  Without a policy the classifier is not
asked. -/
def checkAccess (registry : TypeRegistry) (policy : Option Policy)
    (t : HostType) (isStatic : Bool) : Action Classifier Unit :=
  fun classifier =>
    match policy with
    | none => ⟨.ok (), classifier, []⟩
    | some policy =>
      let answer := classifier.requiresCheck registry t isStatic
      if answer.1 then
        ⟨.error (.dispatchDenied t.name .reflectiveAccess), answer.2,
          [.accessDenied isStatic t.name policy.name]⟩
      else ⟨.ok (), answer.2, []⟩

end Guard

end ScriptHost
