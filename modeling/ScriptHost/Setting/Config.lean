import ScriptHost.Fault
import ScriptHost.Setting.OptionList
import ScriptHost.Structure.Mode
import ScriptHost.Text.Blank

/-!
# Configuration

The settings of layout synthesis and of guarded dispatch.  Settings start from
their defaults; flags of an option text change them one after the other.
-/

namespace ScriptHost

/-- Which optional types a host offers. -/
structure HostEnvironment where
  beanHelpers : Bool
  deriving DecidableEq, Repr

namespace HostEnvironment

def full : HostEnvironment := ⟨true⟩

def compact : HostEnvironment := ⟨false⟩

def detail (environment : HostEnvironment) : String :=
  Text.recordText "HostEnvironment"
    [("bean_helpers", toString environment.beanHelpers)]

end HostEnvironment

/-- The settings of layout synthesis. -/
structure LayoutConfig where
  defaultMode : FieldMode
  maxFields : Nat
  deriving DecidableEq, Repr

/-- Dual fields, and the default limit of a descriptor. -/
def LayoutConfig.default : LayoutConfig := ⟨.dual, Shape.defaultLimit⟩

/-- The settings of guarded dispatch. -/
structure DispatchConfig where
  beanHelpers : Bool
  classificationCache : Bool
  deriving DecidableEq, Repr

namespace DispatchConfig

/-- Bean helpers, and kept classifications. -/
def default : DispatchConfig := ⟨true, true⟩

/-- The host the settings describe. -/
def environment (config : DispatchConfig) : HostEnvironment :=
  ⟨config.beanHelpers⟩

end DispatchConfig

/-- All settings. -/
structure Config where
  layouts : LayoutConfig
  dispatch : DispatchConfig
  deriving DecidableEq, Repr

/-- A flag of an option text. -/
inductive Flag where
  /-- A blank token, which changes nothing. -/
  | blank
  | fields (mode : FieldMode)
  | noBeanHelpers
  | noClassificationCache
  | maxFields (limit : Nat)
  deriving DecidableEq, Repr

/-- The number written by one or more ASCII digits. -/
def readDigits : List Char → Option Nat
  | [] => none
  | digits =>
    if digits.all Char.isDigit then
      some (digits.foldl (fun n c => 10 * n + (c.toNat - '0'.toNat)) 0)
    else none

/-- The number of 64 bits written by digits after at most one plus sign. -/
def readCount (text : String) : Option Nat :=
  let digits :=
    match text.toList with
    | '+' :: rest => rest
    | all => all
  (readDigits digits).filter (· < UInt64.size)

/-- The flag a trimmed token stands for. -/
def Flag.ofText? (text : String) : Option Flag :=
  if text = "" then some blank
  else if text = "dual-fields" then some (fields .dual)
  else if text = "single-fields" then some (fields .single)
  else if text = "no-bean-helpers" then some noBeanHelpers
  else if text = "no-classification-cache" then some noClassificationCache
  else
    ((Text.afterStem? "max-fields=" text).bind readCount).map maxFields

namespace Config

def default : Config := ⟨.default, .default⟩

/-- Dual fields on a full host. -/
def strict : Config :=
  ⟨⟨.dual, Shape.defaultLimit⟩, ⟨true, true⟩⟩

/-- Single fields on a compact host. -/
def permissive : Config :=
  ⟨⟨.single, Shape.defaultLimit⟩, ⟨false, true⟩⟩

def apply (config : Config) : Flag → Config
  | .blank => config
  | .fields mode =>
    { config with layouts := { config.layouts with defaultMode := mode } }
  | .noBeanHelpers =>
    { config with dispatch := { config.dispatch with beanHelpers := false } }
  | .noClassificationCache =>
    { config with
      dispatch := { config.dispatch with classificationCache := false } }
  | .maxFields limit =>
    { config with layouts := { config.layouts with maxFields := limit } }

/-- The settings after one token, white space around it left aside. -/
def applyToken (config : Config) (token : String) : Except Fault Config :=
  let flag := Text.trim token
  match Flag.ofText? flag with
  | some known => .ok (config.apply known)
  | none => .error (.invalidOption flag)

/-- The default settings after all tokens of an option, in order. -/
def ofOptions (options : OptionList) : Except Fault Config :=
  options.values.foldlM applyToken default

end Config

end ScriptHost
