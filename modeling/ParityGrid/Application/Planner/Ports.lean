import ParityGrid.Domain.Pipeline
import ParityGrid.Foundation.Sorting

/-!
# Typed port contracts

A node declares named inputs, each with the payload types it accepts and the
number of connections it allows, and named outputs, each with one payload type.
-/

namespace ParityGrid.Application

open ParityGrid.Foundation
open ParityGrid.Domain

def maxNodeInputPorts : Nat := 32

def maxNodeOutputPorts : Nat := 32

def maxInputAcceptedTypes : Nat := 16

def maxInputConnections : Nat := 256

/-- Raised for an invalid port declaration. -/
def portContractError (message : String) : PythonError :=
  .raised (text "PortContractError") true (text message)

/-- Raised for an edge that violates a registered port contract. -/
def invalidPortConnectionError (message : String) : PythonError :=
  .raised (text "InvalidPortConnectionError") true (text message)

/-- The payload types exchanged between built-in nodes. -/
inductive PortValueType where
  | rawRecords
  | normalizedRecords
  | validatedRecords
  | partitionedRecords
  | reconciliation
  | repairPlan
  | approvedRepairPlan
  | repairResult
  | verification
deriving DecidableEq

def PortValueType.value : PortValueType → String
  | .rawRecords => "records.raw"
  | .normalizedRecords => "records.normalized"
  | .validatedRecords => "records.validated"
  | .partitionedRecords => "records.partitioned"
  | .reconciliation => "reconciliation.result"
  | .repairPlan => "repair.plan"
  | .approvedRepairPlan => "repair.plan.approved"
  | .repairResult => "repair.result"
  | .verification => "verification.result"

/-! ## Inputs -/

/-- The checks of `InputPortDefinition.__post_init__`. -/
def validateInputPort (accepted : List PortValueType) (maximum : Nat) :
    Except PythonError Unit := do
  require (accepted != [])
    (portContractError "input port requires at least one accepted type")
  require (accepted.length ≤ maxInputAcceptedTypes)
    (portContractError "input port exceeds the accepted type limit")
  require (decide accepted.Nodup)
    (portContractError "input port accepted types must be unique")
  require (1 ≤ maximum && maximum ≤ maxInputConnections)
    (portContractError
      "input port maximum connections is outside the limit")

/-- One named input; its types are kept in order. -/
structure InputPortDefinition where
  name : PortName
  acceptedTypes : List PortValueType
  required : Bool
  maximumConnections : Nat
  valid : validateInputPort acceptedTypes maximumConnections = .ok ()
  ordered :
    sortedBy (fun type => text type.value) acceptedTypes = acceptedTypes
deriving DecidableEq

/-- `InputPortDefinition.accepts`. -/
def InputPortDefinition.accepts (port : InputPortDefinition)
    (valueType : PortValueType) : Bool :=
  port.acceptedTypes.contains valueType

/-! ## Outputs -/

/-- One named output and its payload type. -/
structure OutputPortDefinition where
  name : PortName
  valueType : PortValueType
deriving DecidableEq

/-! ## Schemas -/

/-- The checks of `NodePortSchema.__post_init__`. -/
def validatePortSchema (inputs : List InputPortDefinition)
    (outputs : List OutputPortDefinition) : Except PythonError Unit := do
  require (inputs.length ≤ maxNodeInputPorts)
    (portContractError "node exceeds the input port limit")
  require (outputs.length ≤ maxNodeOutputPorts)
    (portContractError "node exceeds the output port limit")
  require (decide (inputs.map (·.name)).Nodup)
    (portContractError "node input port names must be unique")
  require (decide (outputs.map (·.name)).Nodup)
    (portContractError "node output port names must be unique")

/-- The typed inputs and outputs of one node definition, in order of name. -/
structure NodePortSchema where
  inputs : List InputPortDefinition
  outputs : List OutputPortDefinition
  valid : validatePortSchema inputs outputs = .ok ()
  inputsOrdered : sortedBy (fun port => port.name.value) inputs = inputs
  outputsOrdered : sortedBy (fun port => port.name.value) outputs = outputs
deriving DecidableEq

namespace NodePortSchema

/-- `NodePortSchema.input`. -/
def input (schema : NodePortSchema) (name : PortName) :
    Option InputPortDefinition :=
  schema.inputs.find? fun port => port.name == name

/-- `NodePortSchema.output`. -/
def output (schema : NodePortSchema) (name : PortName) :
    Option OutputPortDefinition :=
  schema.outputs.find? fun port => port.name == name

theorem mem_of_input {schema : NodePortSchema} {name : PortName}
    {port : InputPortDefinition} (found : schema.input name = some port) :
    port ∈ schema.inputs ∧ port.name = name :=
  ⟨List.mem_of_find?_eq_some found, by
    simpa using List.find?_some found⟩

theorem mem_of_output {schema : NodePortSchema} {name : PortName}
    {port : OutputPortDefinition} (found : schema.output name = some port) :
    port ∈ schema.outputs ∧ port.name = name :=
  ⟨List.mem_of_find?_eq_some found, by
    simpa using List.find?_some found⟩

end NodePortSchema

/-- `ports_are_compatible`. -/
def portsAreCompatible (source : OutputPortDefinition)
    (target : InputPortDefinition) : Bool :=
  target.accepts source.valueType

end ParityGrid.Application
