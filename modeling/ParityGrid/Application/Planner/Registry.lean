import ParityGrid.Application.Planner.Documents
import ParityGrid.Application.Planner.Ports

/-!
# The closed pipeline node registry

Every node kind has one definition: its role, the fields of its configuration,
its typed ports, and how it runs.
-/

namespace ParityGrid.Application

open ParityGrid.Foundation
open ParityGrid.Domain

def maxNodeRegistryDefinitions : Nat := 128

def maxNodeConfigurationFields : Nat := 64

def maxNodeConfigurationFieldLength : Nat := 64

/-- Raised for an invalid definition. -/
def nodeRegistryError (message : String) : PythonError :=
  .raised (text "NodeRegistryError") true (text message)

/-- Raised for a kind outside the registry. -/
def unknownNodeKindError : PythonError :=
  .raised (text "UnknownNodeKindError") true
    (text "pipeline node kind is not registered")

/-- Raised for a configuration version that the registry does not define. -/
def unsupportedNodeConfigurationVersionError : PythonError :=
  .raised (text "UnsupportedNodeConfigurationVersionError") true
    (text "pipeline node configuration version is unsupported")

/-- Raised for a configuration that violates its schema. -/
def invalidNodeConfigurationError (message : String) : PythonError :=
  .raised (text "InvalidNodeConfigurationError") true (text message)

/-! ## Metadata -/

inductive NodeRole where
  | source
  | transform
  | reconciliation
  | repairPlan
  | approval
  | repairEffect
  | verification
  | export
deriving DecidableEq

inductive ConnectorRequirement where
  | none
  | source
  | target
deriving DecidableEq

inductive RetryBehavior where
  | never
  | connector
deriving DecidableEq

inductive PlannerRunnerKind where
  | sequential
  | threaded
  | asyncio
  | process
deriving DecidableEq

def PlannerRunnerKind.value : PlannerRunnerKind → String
  | .sequential => "sequential"
  | .threaded => "threaded"
  | .asyncio => "asyncio"
  | .process => "process"

/-! ## Configurations -/

inductive NodeConfigurationValueKind where
  | boolean
  | integer
  | text
deriving DecidableEq

/-- `_matches_value_kind`. -/
def matchesValueKind : JsonValue → NodeConfigurationValueKind → Bool
  | .scalar (.bool _), .boolean => true
  | .scalar (.int _), .integer => true
  | .string _, .text => true
  | _, _ => false

/-- `_CONFIGURATION_FIELD_PATTERN`. -/
def configurationFieldPattern : SegmentPattern where
  first := isLower
  later := isLowerOrDigit
  body := isLowerOrDigit
  separator := fun c => c == point '_'

/-- The checks of `NodeConfigurationField.__post_init__`. -/
def validateConfigurationField (name : Text) : Except PythonError Unit := do
  require (1 ≤ name.length && name.length ≤ maxNodeConfigurationFieldLength)
    (nodeRegistryError
      "node configuration field name is outside the size limit")
  require (name.all isAscii && configurationFieldPattern.fullmatch name)
    (nodeRegistryError
      "node configuration field name must use canonical snake case")

/-- One field of a node configuration. -/
structure NodeConfigurationField where
  name : Text
  valueKind : NodeConfigurationValueKind
  required : Bool
  valid : validateConfigurationField name = .ok ()
deriving DecidableEq

/-- The checks of `NodeConfigurationSchema.__post_init__`. -/
def validateConfigurationSchema (version : Nat)
    (fields : List NodeConfigurationField) : Except PythonError Unit := do
  require (1 ≤ version && version ≤ 2147483647)
    (nodeRegistryError
      "node configuration schema version is outside the supported range")
  require (fields.length ≤ maxNodeConfigurationFields)
    (nodeRegistryError "node configuration schema exceeds the field limit")
  require (decide (fields.map (·.name)).Nodup)
    (nodeRegistryError "node configuration field names must be unique")

/-- The fields of one version, in order of name. -/
structure NodeConfigurationSchema where
  version : Nat
  fields : List NodeConfigurationField
  valid : validateConfigurationSchema version fields = .ok ()
  ordered : sortedBy (fun field => field.name) fields = fields
deriving DecidableEq

/-- `NodeConfigurationSchema.validate`. -/
def NodeConfigurationSchema.validate [PythonRuntime]
    (schema : NodeConfigurationSchema) (document : ConfigurationDocument) :
    Except PythonError Unit := do
  let mapping := document.items
  let names := mapping.map Prod.fst
  require (!schema.fields.any fun field =>
      field.required && !names.contains field.name)
    (invalidNodeConfigurationError
      "node configuration is missing required fields")
  require (names.all fun name => schema.fields.any (·.name == name))
    (invalidNodeConfigurationError
      "node configuration contains unknown fields")
  require (mapping.all fun entry => schema.fields.all fun field =>
      field.name != entry.1 || matchesValueKind entry.2 field.valueKind)
    (invalidNodeConfigurationError
      "node configuration contains an invalid field value")

/-! ## Definitions -/

/-- The checks of `NodeDefinition.__post_init__`. -/
def validateNodeDefinition (role : NodeRole)
    (supportedRunners : List PlannerRunnerKind)
    (requiresIdempotency : Bool) : Except PythonError Unit := do
  require (supportedRunners != [])
    (nodeRegistryError
      "node definition requires at least one supported runner")
  require (decide supportedRunners.Nodup)
    (nodeRegistryError "node definition supported runners must be unique")
  require (role != .repairEffect || requiresIdempotency)
    (nodeRegistryError "repair effect nodes must require idempotency")

/-- What the planner knows of one node kind. -/
structure NodeDefinition where
  kind : NodeKind
  role : NodeRole
  configurationSchema : NodeConfigurationSchema
  portSchema : NodePortSchema
  connectorRequirement : ConnectorRequirement
  supportedRunners : List PlannerRunnerKind
  retryBehavior : RetryBehavior
  requiresIdempotency : Bool
  valid :
    validateNodeDefinition role supportedRunners requiresIdempotency = .ok ()
  ordered : sortedBy (fun runner => text runner.value) supportedRunners =
    supportedRunners
deriving DecidableEq

/-- The checks of `NodeRegistry.__post_init__`. -/
def validateRegistry (definitions : List NodeDefinition) :
    Except PythonError Unit := do
  require (definitions != [])
    (nodeRegistryError "node registry requires at least one definition")
  require (definitions.length ≤ maxNodeRegistryDefinitions)
    (nodeRegistryError "node registry exceeds the definition limit")
  require (decide (definitions.map (·.kind)).Nodup)
    (nodeRegistryError "node registry kinds must be unique")

/-- Unique node definitions, in order of kind. -/
structure NodeRegistry where
  definitions : List NodeDefinition
  valid : validateRegistry definitions = .ok ()
  ordered : sortedBy (fun definition => definition.kind.value) definitions =
    definitions

namespace NodeRegistry

/-- `NodeRegistry.get`. -/
def get (registry : NodeRegistry) (kind : NodeKind) : Option NodeDefinition :=
  registry.definitions.find? fun definition => definition.kind == kind

/-- `NodeRegistry.require`. -/
def require (registry : NodeRegistry) (kind : NodeKind)
    (configurationVersion : Nat) : Except PythonError NodeDefinition :=
  match registry.get kind with
  | none => .error unknownNodeKindError
  | some definition =>
      if configurationVersion = definition.configurationSchema.version then
        .ok definition
      else .error unsupportedNodeConfigurationVersionError

theorem mem_of_require {registry : NodeRegistry} {kind : NodeKind}
    {version : Nat} {definition : NodeDefinition}
    (found : registry.require kind version = .ok definition) :
    definition ∈ registry.definitions := by
  simp only [require] at found
  split at found
  next => cases found
  next known =>
    split at found
    · cases found
      exact List.mem_of_find?_eq_some known
    · cases found

end NodeRegistry

end ParityGrid.Application
