import ScriptHost.Field.Shape
import ScriptHost.Namespace.Handle

/-!
# Faults

Everything that can go wrong, by cause, with the wording of each cause.  Only
a denied dispatch counts as a matter of security.
-/

namespace ScriptHost

/-- Why a layout could not be generated. -/
inductive GenerationFault where
  | shape (fault : ShapeFault)
  /-- The runtime may not read the layouts' package. -/
  | unreadableLayouts
  /-- The layouts' namespace may not read a package it needs. -/
  | unreadablePackage (package : String) (reader : Handle)
  /-- Somebody else reported it in words of their own. -/
  | other (text : String)
  deriving DecidableEq, Repr

def GenerationFault.message : GenerationFault → String
  | shape fault => fault.message
  | unreadableLayouts => "runtime cannot read generated layouts"
  | unreadablePackage package reader =>
    package ++ " is not readable from " ++ reader.text
  | other text => text

/-- Why a module system or the trust setup refused something. -/
inductive NamespaceFault where
  | alreadyDeclared (name : String)
  | undeclared (handle : Handle)
  /-- A grant was accepted but reading is still denied. -/
  | ineffectiveGrant (package : String) (reader : Handle)
  /-- The runtime cannot read the layouts it has to read. -/
  | blindRuntime (owner : Handle)
  /-- A foreign module system refused in its own words. -/
  | refused (text : String)
  deriving DecidableEq, Repr

def NamespaceFault.message : NamespaceFault → String
  | alreadyDeclared name => "namespace " ++ name ++ " is already declared"
  | undeclared handle => "namespace " ++ handle.text ++ " is not declared"
  | ineffectiveGrant package reader =>
    "grant of " ++ package ++ " to " ++ reader.text ++ " did not take effect"
  | blindRuntime owner =>
    "runtime cannot read " ++ structuresNamespace ++ " in " ++ owner.text
  | refused text => text

/-- Why a host type could not be defined. -/
inductive TypeFault where
  | nameTaken (name : String)
  | finalBase (name base : String)
  /-- A proxy was asked to implement something that is no interface. -/
  | notInterface (name : String)
  deriving DecidableEq, Repr

def TypeFault.message : TypeFault → String
  | nameTaken name => name
  | finalBase name base => name ++ " cannot derive from final type " ++ base
  | notInterface name => name ++ " is not an interface"

/-- Why the guard refused a request. -/
inductive DenialReason where
  /-- A policy is installed, so nothing may be linked. -/
  | linkWithPolicy
  /-- A policy is installed and the target is sensitive. -/
  | reflectiveAccess
  deriving DecidableEq, Repr, Inhabited

def DenialReason.message : DenialReason → String
  | linkWithPolicy =>
    "dynamic linking is disabled while a security policy is installed"
  | reflectiveAccess =>
    "reflective access is not permitted while a security policy is installed"

/-- What can go wrong. -/
inductive Fault where
  | layoutGeneration (name : String) (cause : GenerationFault)
  /-- A name is no structure name and no fallback knows it. -/
  | layoutNotFound (name : String)
  | fieldOutOfRange (index count : Nat)
  | dispatchDenied (target : String) (reason : DenialReason)
  | unlinkable (request : String)
  | typeInsert (cause : TypeFault)
  /-- A host type belongs to another registry. -/
  | typeNotFound (name : String)
  | invalidOption (flag : String)
  | namespaceFault (cause : NamespaceFault)
  | lock
  /-- Some state is not as it has to be; with the place that noticed it. -/
  | malformed (message file : String) (line : Nat)
  deriving DecidableEq, Repr

namespace Fault

def message : Fault → String
  | layoutGeneration name cause =>
    "Failed to generate layout " ++ name ++ " - " ++ cause.message
  | layoutNotFound name => "Layout not found - " ++ name
  | fieldOutOfRange index count =>
    s!"Field index {index} out of range for layout with {count} fields"
  | dispatchDenied target reason =>
    "Dispatch denied for " ++ target ++ " - " ++ reason.message
  | unlinkable request => "No linker could resolve " ++ request
  | typeInsert cause => "Failed to insert new host type - " ++ cause.message
  | typeNotFound name => "Host type not found - " ++ name
  | invalidOption flag => "Invalid option - " ++ flag
  | namespaceFault cause => cause.message
  | lock => "Failed to lock target"
  | malformed message file line => s!"Malformed - {file}:{line}: {message}"

/-- Whether a fault must reach scripts as a matter of security. -/
def isSecurity : Fault → Bool
  | dispatchDenied _ _ => true
  | _ => false

end Fault

end ScriptHost
