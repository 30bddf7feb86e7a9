import ScriptHost.Access.Guard
import ScriptHost.Recorded

/-!
# The linker pipeline

Linkers resolve requests into invocations.  A pipeline asks the guard first,
and then its linkers, those of higher priority before those of lower and equal
ones in the order they were registered.  The first linker that gives an
invocation or a fault decides.
-/

namespace ScriptHost

/-- A resolved request. -/
structure Invocation where
  /-- The name of the linker that resolved it. -/
  linker : String
  target : TypeId
  operation : Operation
  member : Option String
  isStatic : Bool
  deriving DecidableEq, Repr

namespace Invocation

/-- The invocation of a request by a linker. -/
def ofRequest (linker : String) (request : LinkRequest) : Invocation :=
  ⟨linker, request.target.id, request.operation, request.member,
    request.isStatic⟩

/-- Whether the invocation may be used again for a receiver of a type. -/
def isValidFor (invocation : Invocation) (receiver : HostType) : Bool :=
  receiver.id == invocation.target

def detail (invocation : Invocation) : String :=
  Text.recordText "GuardedInvocation"
    [("linker", Text.quoted invocation.linker),
      ("target", invocation.target.detail),
      ("operation", invocation.operation.detail),
      ("name", Text.optionText (invocation.member.map Text.quoted)),
      ("is_static", toString invocation.isStatic)]

end Invocation

/-- A linker, by what it does to a state of its own. -/
structure Linker (σ : Type) where
  name : String
  priority : Int32
  accepts : HostType → σ → Bool × σ
  link : LinkRequest → Option Policy → Action σ (Option Invocation)

/-- One consultation of a linker. -/
inductive Consultation where
  | accepts (linker : String)
  | link (linker : String)
  deriving DecidableEq, Repr

namespace Linker

variable {σ : Type}

/-- The named priorities of linkers, highest first. -/
def namedPriorities : List Int32 := [1000, 500, 0, -500, -1000]

def defaultPriority : Int32 := 0

/-- The same linker with a record of when it was consulted. -/
def recording (linker : Linker σ) : Linker (Recorded Consultation σ) where
  name := linker.name
  priority := linker.priority
  accepts t := Recorded.query (.accepts linker.name) (linker.accepts t)
  link request policy :=
    Recorded.action (.link linker.name) (linker.link request policy)

end Linker

/-- Linkers in the order they are asked. -/
structure Pipeline (σ : Type) where
  /-- The linkers, those of higher priority first. -/
  linkers : List (Linker σ)

namespace Pipeline

variable {σ : Type}

def empty : Pipeline σ := ⟨[]⟩

/-- The pipeline with one more linker, after all that are not below it. -/
def register (pipeline : Pipeline σ) (linker : Linker σ) : Pipeline σ :=
  ⟨(pipeline.linkers ++ [linker]).mergeSort fun earlier later =>
    later.priority ≤ earlier.priority⟩

/-- The names of the linkers in the order they are asked. -/
def names (pipeline : Pipeline σ) : List String :=
  pipeline.linkers.map (·.name)

/-- Asks linkers one after the other until one decides. -/
def resolve (policy : Option Policy) (request : LinkRequest) :
    List (Linker σ) → Action σ Invocation
  | [] => Action.fail (.unlinkable request.text)
  | linker :: rest => do
    if ← Action.query (linker.accepts request.target) then
      match ← linker.link request policy with
      | some invocation =>
        Action.note (.linked linker.name request.text)
        return invocation
      | none => resolve policy request rest
    else resolve policy request rest

/-- Resolves a request, unless the guard refuses it. -/
def link (pipeline : Pipeline σ) (policy : Option Policy)
    (request : LinkRequest) : Action σ Invocation := do
  Guard.tryLink policy request
  resolve policy request pipeline.linkers

def detail (pipeline : Pipeline σ) (classifier : Classifier) : String :=
  Text.recordText "LinkerPipeline"
    [("guard", classifier.guardDetail),
      ("linkers", Text.listText (pipeline.names.map Text.quoted))]

end Pipeline

end ScriptHost
