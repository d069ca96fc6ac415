import ParityGrid.Application.Ports.Configuration
import ParityGrid.Domain.Pipeline

/-!
# Pipeline documents

A pipeline document is a bounded list of nodes, a list of edges between their
ports, a resource policy and a visual layout.  Each list is kept in order of its
identities.
-/

namespace ParityGrid.Application

open ParityGrid.Foundation
open ParityGrid.Domain

def maxPipelineNodes : Nat := 256

def maxPipelineEdges : Nat := 4096

def maxPipelineLayoutCoordinate : Int := 1000000

def maxPipelineConfigurationVersion : Nat := 2147483647

/-- Raised for a document that violates the structural contract. -/
def invalidPipelineDocumentError (message : String) : PythonError :=
  .raised (text "InvalidPipelineDocumentError") true (text message)

/-- `_require_supported_version`. -/
def requireSupportedVersion (value : Int) (supported : Int)
    (subject : String) : Except PythonError Unit :=
  require (value == supported)
    (.raised (text "UnsupportedPipelineDocumentVersionError") true
      (text subject ++ text " is unsupported"))

section Documents

variable [PythonRuntime]

/-! ## Nodes and layout -/

/-- The version check of `PipelineNodeSpecification.__post_init__`. -/
def validateConfigurationVersion (version : Nat) : Except PythonError Unit :=
  require (1 ≤ version && version ≤ maxPipelineConfigurationVersion)
    (invalidPipelineDocumentError
      "pipeline node configuration version is outside the supported range")

/-- One node identity and its configuration. -/
structure PipelineNodeSpecification where
  nodeId : NodeId
  kind : NodeKind
  configurationVersion : Nat
  configuration : ConfigurationDocument
  connectorId : Option ConnectorId
  valid : validateConfigurationVersion configurationVersion = .ok ()
deriving DecidableEq

/-- `_validate_layout_coordinate`. -/
def validateLayoutCoordinate (value : Int) (axis : String) :
    Except PythonError Unit :=
  require (-maxPipelineLayoutCoordinate ≤ value &&
      value ≤ maxPipelineLayoutCoordinate)
    (invalidPipelineDocumentError ("pipeline layout " ++ axis ++
      " coordinate is outside the supported range"))

/-- The visual position of one node. -/
structure PipelineNodeLayout where
  nodeId : NodeId
  x : Int
  y : Int
  validX : validateLayoutCoordinate x "x" = .ok ()
  validY : validateLayoutCoordinate y "y" = .ok ()
deriving DecidableEq

/-! ## Documents -/

/-- `_edge_key`. -/
def edgeKey (edge : PipelineEdge) : List Text :=
  [edge.sourceNodeId.value, edge.sourcePort.value, edge.targetNodeId.value,
    edge.targetPort.value]

/-- The checks of `PipelineDocument.__post_init__`. -/
def validatePipelineDocument (nodes : List PipelineNodeSpecification)
    (edges : List PipelineEdge) (layout : List PipelineNodeLayout)
    (schemaVersion canonicalFormatVersion : Int) :
    Except PythonError Unit := do
  requireSupportedVersion schemaVersion 1 "pipeline document schema version"
  requireSupportedVersion canonicalFormatVersion 1
    "pipeline canonical format version"
  require (nodes != []) (invalidPipelineDocumentError
    "pipeline document requires at least one node")
  require (nodes.length ≤ maxPipelineNodes) (invalidPipelineDocumentError
    "pipeline document exceeds the node limit")
  require (edges.length ≤ maxPipelineEdges) (invalidPipelineDocumentError
    "pipeline document exceeds the edge limit")
  let nodeIds : List NodeId := nodes.map (·.nodeId)
  require (decide nodeIds.Nodup) (invalidPipelineDocumentError
    "pipeline node identities must be unique")
  require (decide (edges.map edgeKey).Nodup) (invalidPipelineDocumentError
    "pipeline edges must be unique")
  require (edges.all fun edge => nodeIds.contains edge.sourceNodeId &&
      nodeIds.contains edge.targetNodeId)
    (invalidPipelineDocumentError
      "pipeline edge references an unknown node")
  let layoutIds : List NodeId := layout.map (·.nodeId)
  require (decide layoutIds.Nodup) (invalidPipelineDocumentError
    "pipeline layout node identities must be unique")
  require (layoutIds.all nodeIds.contains) (invalidPipelineDocumentError
    "pipeline layout references an unknown node")

/-- A bounded pipeline specification and its layout, in canonical order. -/
structure PipelineDocument where
  nodes : List PipelineNodeSpecification
  edges : List PipelineEdge
  resourcePolicy : ConfigurationDocument
  layout : List PipelineNodeLayout
  schemaVersion : Int
  canonicalFormatVersion : Int
  valid : validatePipelineDocument nodes edges layout schemaVersion
    canonicalFormatVersion = .ok ()
  nodesOrdered : sortedBy (fun node => node.nodeId.value) nodes = nodes
  edgesOrdered : sortedBy edgeKey edges = edges
  layoutOrdered :
    sortedBy (fun position => position.nodeId.value) layout = layout
deriving DecidableEq

namespace PipelineDocument

/-- The identities of the nodes, in order. -/
def nodeIds (document : PipelineDocument) : List NodeId :=
  document.nodes.map (·.nodeId)

/-- The graph of the document: one pair for each edge. -/
def links (document : PipelineDocument) : List (NodeId × NodeId) :=
  document.edges.map fun edge => (edge.sourceNodeId, edge.targetNodeId)

variable (document : PipelineDocument)

theorem nodes_ne_nil : document.nodes ≠ [] := by
  have valid := document.valid
  simp only [validatePipelineDocument, check_bind_eq_ok, require_eq_ok,
    bne_iff_ne] at valid
  exact valid.2.2.1

theorem nodes_length : document.nodes.length ≤ maxPipelineNodes := by
  have valid := document.valid
  simp only [validatePipelineDocument, check_bind_eq_ok, require_eq_ok,
    decide_eq_true_eq] at valid
  exact valid.2.2.2.1

theorem nodeIds_nodup : document.nodeIds.Nodup := by
  have valid := document.valid
  simp only [validatePipelineDocument, check_bind_eq_ok, require_eq_ok,
    decide_eq_true_eq] at valid
  exact valid.2.2.2.2.2.1

theorem edges_nodup : document.edges.Nodup := by
  have valid := document.valid
  simp only [validatePipelineDocument, check_bind_eq_ok, require_eq_ok,
    decide_eq_true_eq] at valid
  exact valid.2.2.2.2.2.2.1.of_map _

/-- Every edge joins two nodes of the document. -/
theorem edge_known {edge : PipelineEdge} (member : edge ∈ document.edges) :
    edge.sourceNodeId ∈ document.nodeIds ∧
      edge.targetNodeId ∈ document.nodeIds := by
  have valid := document.valid
  simp only [validatePipelineDocument, check_bind_eq_ok, require_eq_ok,
    List.all_eq_true, Bool.and_eq_true, List.contains_iff_mem] at valid
  exact valid.2.2.2.2.2.2.2.1 edge member

end PipelineDocument

end Documents

end ParityGrid.Application
