import ScriptHost.Action

/-!
# Security policies and execution contexts

A policy decides which types scripts may name.  An execution context has at
most one policy; a context with a policy is restricted.
-/

namespace ScriptHost

/-- A named security policy. -/
structure Policy where
  name : String
  allows : String → Bool

namespace Policy

/-- The policy that allows nothing. -/
def denyAll : Policy := ⟨"deny-all", fun _ => false⟩

/-- The policy that allows exactly the listed types. -/
def allowList (name : String) (types : List String) : Policy :=
  ⟨name, fun type => types.contains type⟩

/-- The policy that allows the types whose names begin with a stem. -/
def allowStem (name stem : String) : Policy :=
  ⟨name, fun type => Text.hasStem stem type⟩

/-- A policy with its name; what it allows is not shown. -/
def detail (policy : Policy) : String :=
  "SecurityPolicy \x7b name: " ++ Text.quoted policy.name ++ ", .. \x7d"

end Policy

/-- A realm in which scripts run. -/
structure Context where
  name : String
  policy : Option Policy

namespace Context

def isRestricted (context : Context) : Bool :=
  context.policy.isSome

/-- Installs a policy and gives the one it replaces. -/
def setPolicy (policy : Policy) : Action Context (Option Policy) :=
  fun context =>
    ⟨.ok context.policy, { context with policy := some policy },
      [.policyInstalled context.name policy.name]⟩

/-- Removes the policy and gives the one that was installed. -/
def clearPolicy : Action Context (Option Policy) := fun context =>
  let events :=
    match context.policy with
    | some policy => [.policyCleared context.name policy.name]
    | none => []
  ⟨.ok context.policy, { context with policy := none }, events⟩

def detail (context : Context) : String :=
  Text.recordText "ExecutionContext"
    [("name", Text.quoted context.name),
      ("policy",
        Text.optionText (context.policy.map fun policy =>
          Text.quoted policy.name))]

end Context

end ScriptHost
