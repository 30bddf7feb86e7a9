import ScriptHost.Linking.Pipeline

/-!
# Linkers given by rules

A rule describes a simple linker: which operations and members it resolves, or
the fault it always ends in.  Such a linker has no state of its own.
-/

namespace ScriptHost

/-- A linker given by what it resolves. -/
structure LinkRule where
  name : String
  priority : Int32
  /-- The members it resolves; all if nothing is said. -/
  members : Option (List String)
  onlyInterfaces : Bool
  /-- The operations it resolves; all if nothing is said. -/
  operations : Option (List Operation)
  /-- The fault it ends in, if it always fails. -/
  fault : Option Fault
  deriving DecidableEq, Repr

namespace LinkRule

/-- Whether the rule resolves a request. -/
def covers (rule : LinkRule) (request : LinkRequest) : Bool :=
  match request.member with
  | none => false
  | some member =>
    (rule.operations.all fun operations =>
      operations.contains request.operation) &&
      rule.members.all fun members => members.contains member

/-- The answer of the rule to a request. -/
def answer (rule : LinkRule) (request : LinkRequest) :
    Except Fault (Option Invocation) :=
  match rule.fault with
  | some fault => .error fault
  | none =>
    .ok (if rule.covers request then
      some (.ofRequest rule.name request)
    else none)

/-- The linker of a rule. -/
def linker (rule : LinkRule) : Linker Unit where
  name := rule.name
  priority := rule.priority
  accepts t _ := (!rule.onlyInterfaces || t.isInterface, ())
  link request _ _ := ⟨rule.answer request, (), []⟩

end LinkRule

end ScriptHost
