import ParityGrid.Application.Ports.RunStatistics
import ParityGrid.Domain.Canonical.Adapters
import ParityGrid.Foundation.JsonUnicode

/-!
# The execution-evidence fingerprint

A finalized run stores one digest of its logical evidence: the captured plan,
the pipeline and its seed, the terminal metrics of every node and the terminal
state of every partition.  Run and work identities, times, revisions and the
attempt history stay outside the digest, so two runs of one plan agree whenever
their logical results do.
-/

namespace ParityGrid.Application

open ParityGrid.Foundation
open ParityGrid.Domain

/-- What finalization raises. -/
inductive FinalizationError where
  | invalidRequest (message : String)
  | notReady (message : String)
  | conflict (message : String)
  | clock (message : String)
  | protocol (message : String)
  | valueError (message : String)
deriving DecidableEq

/-- An opaque logical-plan digest. -/
structure PlanFingerprint where
  value : Text
  valid : isSha256Text value
deriving DecidableEq

theorem PlanFingerprint.ext {left right : PlanFingerprint}
    (equal : left.value = right.value) :
    left = right := by
  cases left
  cases right
  cases equal
  rfl

/-- `to_bytes`. -/
def PlanFingerprint.toBytes (fingerprint : PlanFingerprint) : Bytes :=
  encodeAscii fingerprint.value

/-! ## Leaves and orders -/

/-- A number that may be missing. -/
def optionalInt : Option Int → JsonValue
  | none => .null
  | some value => .int value

/-- The sort key of a node row. -/
def nodeOrder (nodeId : NodeId) : Text :=
  nodeId.value

/-- The sort key of a work row: a pair of texts. -/
def partitionOrder (partition : NodeId × PartitionKey) : Text ×ₗ Text :=
  toLex (partition.1.value, partition.2.value)

theorem RunNodeStatus.value_injective :
    Function.Injective RunNodeStatus.value := by
  intro left right equal
  cases left <;> cases right <;> first | rfl | exact absurd equal (by decide)

theorem optionalInt_distinguishes : Distinguishes optionalInt := by
  intro left right equal
  cases left <;> cases right <;> simp [optionalInt] at equal ⊢
  exact equal

theorem nodeOrder_injective : Function.Injective nodeOrder := by
  intro left right equal
  exact Identifier.ext equal

theorem partitionOrder_injective : Function.Injective partitionOrder := by
  rintro ⟨leftNode, leftKey⟩ ⟨rightNode, rightKey⟩ equal
  have pair := toLex.injective equal
  simp only [Prod.mk.injEq] at pair
  exact Prod.ext (Identifier.ext pair.1) (StableText.ext pair.2)

/-- Sequences agree under one reading exactly when they do under another. -/
theorem map_eq_map_iff_of_agree {α β γ : Type} {left right : List α}
    {f f' : α → β} {g g' : α → γ}
    (agree : ∀ a ∈ left, ∀ b ∈ right, f a = f' b ↔ g a = g' b) :
    left.map f = right.map f' ↔ left.map g = right.map g' := by
  induction left generalizing right with
  | nil => simp only [List.map_nil, eq_comm (a := []), List.map_eq_nil_iff]
  | cons a rest ih =>
      cases right with
      | nil => simp only [List.map_nil, List.map_cons, reduceCtorEq]
      | cons b others =>
          have tails := ih fun c inRest d inOthers =>
            agree c (List.mem_cons_of_mem _ inRest)
              d (List.mem_cons_of_mem _ inOthers)
          simp only [List.map_cons, List.cons.injEq, tails,
            agree a List.mem_cons_self b List.mem_cons_self]

section Evidence

variable [PythonRuntime]

/-- One transactionally read terminal finalization frontier. -/
structure FinalizationEvidence where
  run : RunRecord
  nextEventSequence : Int
  eventCounterRowVersion : Int
  nodes : List RunNodeRecord
  work : List WorkItemRecord
  attempts : List WorkAttemptRecord
  checkpointVersions : List (WorkItemId × Int)

def maxFinalizationNodes : Nat := 256

def maxConsistencySequence : Int := 2147483647

/-- `FinalizationEvidence.__post_init__`. -/
def FinalizationEvidence.validate (evidence : FinalizationEvidence) :
    Except FinalizationError Unit := do
  require
    (1 ≤ evidence.eventCounterRowVersion &&
      evidence.eventCounterRowVersion ≤ maxConsistencySequence)
    (.valueError "finalization counter row version is outside the range")
  require (!evidence.nodes.isEmpty)
    (.valueError "finalization evidence requires run nodes")
  require (evidence.nodes.length ≤ maxFinalizationNodes)
    (.valueError "finalization evidence exceeds the node limit")

/-! ## The terminal boundary -/

/-- `_TERMINAL_WORK_STATES`. -/
def isTerminalWork : Domain.WorkItemState → Bool
  | .succeeded => true
  | .quarantined => true
  | .failed => true
  | .cancelled => true
  | _ => false

/-- `_require_work_terminal`. -/
def requireWorkTerminal (evidence : FinalizationEvidence) :
    Except FinalizationError Unit :=
  evidence.work.forM fun work =>
    require (isTerminalWork work.state)
      (.notReady "finalization boundary still has non-terminal work")

/-- `_require_nodes_terminal`. -/
def requireNodesTerminal (evidence : FinalizationEvidence) :
    Except FinalizationError Unit :=
  evidence.nodes.forM fun node =>
    require (node.status != .pending && node.status != .running)
      (.notReady "finalization boundary still has a non-terminal node")

/-- `dict(evidence.checkpoint_versions).get(work.work_item_id)`. -/
def FinalizationEvidence.checkpointVersion (evidence : FinalizationEvidence)
    (work : WorkItemRecord) : Option Int :=
  (dictOf evidence.checkpointVersions).lookup work.workItemId

/-- What `_require_checkpoint_frontier` asks of one work item. -/
def requireCheckpoint (evidence : FinalizationEvidence)
    (work : WorkItemRecord) : Except FinalizationError Unit :=
  match evidence.checkpointVersion work with
  | none =>
      .error (.conflict "checkpoint frontier is missing durable evidence")
  | some version => do
      require (version == work.expectedCheckpointVersion)
        (.conflict "checkpoint frontier diverges from work evidence")
      require (!(work.state == .succeeded && version < 1))
        (.conflict "successful work is missing its checkpoint")

/-- `_require_checkpoint_frontier`. -/
def requireCheckpointFrontier (evidence : FinalizationEvidence) :
    Except FinalizationError Unit :=
  evidence.work.forM (requireCheckpoint evidence)

/-- `_require_aggregate_consistency`. -/
def requireAggregateConsistency (evidence : FinalizationEvidence) :
    Except FinalizationError Unit :=
  (validateSource evidence.run evidence.nodes evidence.work
    evidence.attempts).mapError fun
    | .invalid _ => .conflict "node aggregates diverge from durable work"
    | .valueError _ => .protocol "finalization analytics input is invalid"

/-! ## The evidence document -/

/-- The document of one node. -/
def nodeDocument (node : RunNodeRecord) : JsonValue :=
  .object
    [(text "bytes_read", .int node.bytesRead),
      (text "bytes_written", .int node.bytesWritten),
      (text "node_id", .string node.nodeId.value),
      (text "records_quarantined", .int node.recordsQuarantined),
      (text "records_read", .int node.recordsRead),
      (text "records_written", .int node.recordsWritten),
      (text "status", .string (text node.status.value)),
      (text "work_cancelled", .int node.workCancelled),
      (text "work_failed", .int node.workFailed),
      (text "work_quarantined", .int node.workQuarantined),
      (text "work_succeeded", .int node.workSucceeded),
      (text "work_total", .int node.workTotal)]

/-- The document of one work item, which names its partition alone. -/
def workDocument (evidence : FinalizationEvidence) (work : WorkItemRecord) :
    JsonValue :=
  .object
    [(text "checkpoint_version", optionalInt (evidence.checkpointVersion work)),
      (text "node_id", .string work.nodeId.value),
      (text "partition_key", .string work.partitionKey.value),
      (text "state", .string (text work.state.value))]

/-- `_SUMMARY_LOGICAL_FIELDS` of a summary. -/
def summaryDocument (summary : RunStatisticsSummary) : JsonValue :=
  .object
    [(text "bytes_read", .int summary.bytesRead),
      (text "bytes_written", .int summary.bytesWritten),
      (text "node_count", .int summary.nodeCount),
      (text "records_quarantined", .int summary.recordsQuarantined),
      (text "records_read", .int summary.recordsRead),
      (text "records_written", .int summary.recordsWritten),
      (text "work_cancelled", .int summary.workCancelled),
      (text "work_failed", .int summary.workFailed),
      (text "work_quarantined", .int summary.workQuarantined),
      (text "work_succeeded", .int summary.workSucceeded),
      (text "work_total", .int summary.workTotal)]

def runDocument (run : RunRecord) : JsonValue :=
  .object
    [(text "pipeline_id", .string run.pipelineId.value),
      (text "pipeline_version", .int run.pipelineVersion.number),
      (text "scenario_seed", optionalInt run.scenarioSeed)]

/-- `_evidence_document`. -/
def evidenceDocument (planFingerprint : PlanFingerprint)
    (evidence : FinalizationEvidence) (summary : RunStatisticsSummary) :
    JsonValue :=
  .object
    [(text "finalization_version", .int 2),
      (text "nodes", .array
        ((sortedBy (fun node => nodeOrder node.nodeId) evidence.nodes).map
          nodeDocument)),
      (text "plan_fingerprint", .string planFingerprint.value),
      (text "run", runDocument evidence.run),
      (text "summary", summaryDocument summary),
      (text "work", .array
        ((sortedBy
            (fun work => partitionOrder (work.nodeId, work.partitionKey))
            evidence.work).map
          (workDocument evidence)))]

/-- `FINALIZATION_FINGERPRINT_DOMAIN`. -/
def finalizationFingerprintDomain : Bytes :=
  encodeAscii (text "paritygrid:run-finalization:v2\x00")

/-- The bytes that are digested. -/
def finalPreimage (planFingerprint : PlanFingerprint)
    (evidence : FinalizationEvidence) (summary : RunStatisticsSummary) :
    Except PythonError Bytes := do
  let encoded ← jsonEncode (evidenceDocument planFingerprint evidence summary)
  let framedPlan ← frame planFingerprint.toBytes
  let framedDocument ← frame encoded
  .ok (finalizationFingerprintDomain ++ framedPlan ++ framedDocument)

/-- `_final_fingerprint`. -/
def finalFingerprint (planFingerprint : PlanFingerprint)
    (evidence : FinalizationEvidence) (summary : RunStatisticsSummary) :
    Except PythonError StateFingerprint := do
  let preimage ← finalPreimage planFingerprint evidence summary
  .ok (StateFingerprint.ofDigest (sha256 preimage))

/-! ## Logical evidence -/

/-- What a finalized run says of one node. -/
structure NodeEvidence where
  status : RunNodeStatus
  workTotal : Int
  workPending : Int
  workRunning : Int
  workSucceeded : Int
  workQuarantined : Int
  workFailed : Int
  workCancelled : Int
  recordsRead : Int
  recordsWritten : Int
  recordsQuarantined : Int
  bytesRead : Int
  bytesWritten : Int

def RunNodeRecord.evidence (node : RunNodeRecord) : NodeId × NodeEvidence :=
  (node.nodeId,
    { status := node.status
      workTotal := node.workTotal
      workPending := node.workPending
      workRunning := node.workRunning
      workSucceeded := node.workSucceeded
      workQuarantined := node.workQuarantined
      workFailed := node.workFailed
      workCancelled := node.workCancelled
      recordsRead := node.recordsRead
      recordsWritten := node.recordsWritten
      recordsQuarantined := node.recordsQuarantined
      bytesRead := node.bytesRead
      bytesWritten := node.bytesWritten })

/-- What a finalized run says of one partition. -/
structure PartitionEvidence where
  state : Domain.WorkItemState
  checkpointVersion : Option Int

namespace FinalizationEvidence

/-- The evidence of one work item, under its partition. -/
def partitionEvidence (evidence : FinalizationEvidence)
    (work : WorkItemRecord) : (NodeId × PartitionKey) × PartitionEvidence :=
  ((work.nodeId, work.partitionKey),
    { state := work.state
      checkpointVersion := evidence.checkpointVersion work })

/-- The evidence of every node, by its identity. -/
def nodeTable (evidence : FinalizationEvidence) : List (NodeId × NodeEvidence) :=
  evidence.nodes.map RunNodeRecord.evidence

/-- The evidence of every partition, by its node and key. -/
def partitionTable (evidence : FinalizationEvidence) :
    List ((NodeId × PartitionKey) × PartitionEvidence) :=
  evidence.work.map evidence.partitionEvidence

end FinalizationEvidence

/-- Two evidences say the same of the pipeline, every node and every partition. -/
structure SameEvidence (left right : FinalizationEvidence) : Prop where
  pipelineId : left.run.pipelineId = right.run.pipelineId
  pipelineVersion : left.run.pipelineVersion = right.run.pipelineVersion
  scenarioSeed : left.run.scenarioSeed = right.run.scenarioSeed
  nodes : ∀ nodeId,
    left.nodeTable.lookup nodeId = right.nodeTable.lookup nodeId
  partitions : ∀ partition,
    left.partitionTable.lookup partition =
      right.partitionTable.lookup partition

/--
Evidence that passes every check before its fingerprint is computed.  The table
of work items keeps one row for each partition of a run.
-/
structure Finalizable (evidence : FinalizationEvidence) : Prop where
  validated : evidence.validate = .ok ()
  workTerminal : requireWorkTerminal evidence = .ok ()
  checkpoints : requireCheckpointFrontier evidence = .ok ()
  nodesTerminal : requireNodesTerminal evidence = .ok ()
  aggregates : requireAggregateConsistency evidence = .ok ()
  partitionsDistinct :
    (evidence.work.map fun work => (work.nodeId, work.partitionKey)).Nodup

/-- The logical metrics of a summary are the sums of the node columns. -/
structure SumsColumns (evidence : FinalizationEvidence)
    (summary : RunStatisticsSummary) : Prop where
  nodeCount : summary.nodeCount = evidence.nodes.length
  workTotal : summary.workTotal =
    (evidence.nodes.map fun node => node.workTotal).sum
  workSucceeded : summary.workSucceeded =
    (evidence.nodes.map fun node => node.workSucceeded).sum
  workQuarantined : summary.workQuarantined =
    (evidence.nodes.map fun node => node.workQuarantined).sum
  workFailed : summary.workFailed =
    (evidence.nodes.map fun node => node.workFailed).sum
  workCancelled : summary.workCancelled =
    (evidence.nodes.map fun node => node.workCancelled).sum
  recordsRead : summary.recordsRead =
    (evidence.nodes.map fun node => node.recordsRead).sum
  recordsWritten : summary.recordsWritten =
    (evidence.nodes.map fun node => node.recordsWritten).sum
  recordsQuarantined : summary.recordsQuarantined =
    (evidence.nodes.map fun node => node.recordsQuarantined).sum
  bytesRead : summary.bytesRead =
    (evidence.nodes.map fun node => node.bytesRead).sum
  bytesWritten : summary.bytesWritten =
    (evidence.nodes.map fun node => node.bytesWritten).sum

/-! ## What finalizable evidence is like -/

theorem validateSource_nodes {run : RunRecord} {nodes : List RunNodeRecord}
    {work : List WorkItemRecord} {attempts : List WorkAttemptRecord}
    (valid : validateSource run nodes work attempts = .ok ()) :
    (nodes.map fun node => node.nodeId).Nodup ∧
      ∀ node ∈ nodes,
        node.aggregate = derivedAggregate node.nodeId work attempts := by
  simp only [validateSource, validateRelationships, requireUnique, bind_eq_ok,
    require_eq_ok, decide_eq_true_eq] at valid
  obtain ⟨_, _, _, _, _, _, _, distinct, _, _, _, _, _, _, _, _, _, _, _, _, _,
    _, _, _, _, _, aggregates⟩ := valid
  refine ⟨distinct, ?_⟩
  intro node member
  have aggregate := forM_eq_ok.mp aggregates node member
  simp only [requireAggregate, bind_eq_ok, require_eq_ok, beq_iff_eq]
    at aggregate
  obtain ⟨_, _, equal⟩ := aggregate
  exact equal

section Facts

variable {evidence : FinalizationEvidence}

theorem Finalizable.source (final : Finalizable evidence) :
    validateSource evidence.run evidence.nodes evidence.work
      evidence.attempts = .ok () := by
  have aggregates := final.aggregates
  simp only [requireAggregateConsistency] at aggregates
  cases source : validateSource evidence.run evidence.nodes evidence.work
      evidence.attempts with
  | ok value => rfl
  | error error =>
      rw [source] at aggregates
      cases aggregates

/-- Terminal work is neither waiting nor running. -/
theorem Finalizable.quiet (final : Finalizable evidence) {node : RunNodeRecord}
    (member : node ∈ evidence.nodes) :
    node.workPending = 0 ∧ node.workRunning = 0 := by
  have aggregate := (validateSource_nodes final.source).2 node member
  have none_in : ∀ state, isTerminalWork state = false →
      countState state
        (evidence.work.filter fun item => item.nodeId == node.nodeId) = 0 := by
    intro state live
    simp only [countState, Int.natCast_eq_zero, List.countP_eq_zero]
    intro work inChildren same
    have terminal := forM_eq_ok.mp final.workTerminal work
      (List.mem_of_mem_filter inChildren)
    rw [require_eq_ok, eq_of_beq same, live] at terminal
    cases terminal
  have pending := congrArg NodeAggregate.pending aggregate
  have running := congrArg NodeAggregate.running aggregate
  simp only [RunNodeRecord.aggregate, derivedAggregate] at pending running
  rw [none_in .pending rfl, none_in .retryWait rfl] at pending
  rw [none_in .running rfl] at running
  exact ⟨pending, running⟩

theorem Finalizable.nodeTable_nodup (final : Finalizable evidence) :
    (evidence.nodeTable.map Prod.fst).Nodup := by
  have distinct := (validateSource_nodes final.source).1
  simpa [FinalizationEvidence.nodeTable, RunNodeRecord.evidence,
    Function.comp_def] using distinct

theorem Finalizable.partitionTable_nodup (final : Finalizable evidence) :
    (evidence.partitionTable.map Prod.fst).Nodup := by
  have distinct := final.partitionsDistinct
  simpa [FinalizationEvidence.partitionTable,
    FinalizationEvidence.partitionEvidence, Function.comp_def] using distinct

end Facts

/-! ## Documents and tables -/

omit [PythonRuntime] in
/--
Rows written in the order of their keys make equal arrays exactly when the rows
are equal as tables.
-/
theorem sortedDocuments_agree {α ι κ ν : Type} [DecidableEq ι] [BEq ι]
    [LawfulBEq ι] [LinearOrder κ] {order : ι → κ} (injective : Function.Injective order)
    {left right : List α} {leftEntry rightEntry : α → ι × ν}
    {leftDocument rightDocument : α → JsonValue}
    (leftDistinct : ((left.map leftEntry).map Prod.fst).Nodup)
    (rightDistinct : ((right.map rightEntry).map Prod.fst).Nodup)
    (agree : ∀ a ∈ left, ∀ b ∈ right,
      (leftDocument a).sortKeys = (rightDocument b).sortKeys ↔
        leftEntry a = rightEntry b) :
    (JsonValue.array ((sortedBy (fun a => order (leftEntry a).1) left).map
        leftDocument)).sortKeys =
      (JsonValue.array ((sortedBy (fun a => order (rightEntry a).1) right).map
        rightDocument)).sortKeys ↔
      ∀ key, (left.map leftEntry).lookup key =
        (right.map rightEntry).lookup key := by
  rw [← sortedBy_fst_eq_iff injective leftDistinct rightDistinct,
    sortedBy_map, sortedBy_map, JsonValue.sortKeys_array,
    JsonValue.sortKeys_array, JsonValue.array.injEq, List.map_map,
    List.map_map]
  apply map_eq_map_iff_of_agree
  intro a inLeft b inRight
  exact agree a (mem_sortedBy.mp inLeft) b (mem_sortedBy.mp inRight)

omit [PythonRuntime] in
/-- The document of a node without live work is its evidence. -/
theorem nodeDocument_agree {left right : RunNodeRecord}
    (leftQuiet : left.workPending = 0 ∧ left.workRunning = 0)
    (rightQuiet : right.workPending = 0 ∧ right.workRunning = 0) :
    (nodeDocument left).sortKeys = (nodeDocument right).sortKeys ↔
      left.evidence = right.evidence := by
  constructor
  · intro equal
    have bytesRead := JsonValue.field_congr equal (text "bytes_read")
    have bytesWritten := JsonValue.field_congr equal (text "bytes_written")
    have nodeId := JsonValue.field_congr equal (text "node_id")
    have quarantined :=
      JsonValue.field_congr equal (text "records_quarantined")
    have read := JsonValue.field_congr equal (text "records_read")
    have written := JsonValue.field_congr equal (text "records_written")
    have status := JsonValue.field_congr equal (text "status")
    have cancelled := JsonValue.field_congr equal (text "work_cancelled")
    have failed := JsonValue.field_congr equal (text "work_failed")
    have setAside := JsonValue.field_congr equal (text "work_quarantined")
    have succeeded := JsonValue.field_congr equal (text "work_succeeded")
    have total := JsonValue.field_congr equal (text "work_total")
    simp [nodeDocument, JsonValue.field, List.lookup]
      at bytesRead bytesWritten nodeId quarantined read written status
    simp [nodeDocument, JsonValue.field, List.lookup]
      at cancelled failed setAside succeeded total
    simp only [RunNodeRecord.evidence, Prod.mk.injEq, NodeEvidence.mk.injEq]
    exact ⟨Identifier.ext nodeId,
      RunNodeStatus.value_injective (text_injective status), total,
      leftQuiet.1.trans rightQuiet.1.symm, leftQuiet.2.trans rightQuiet.2.symm,
      succeeded, setAside, failed, cancelled, read, written, quarantined,
      bytesRead, bytesWritten⟩
  · intro equal
    simp only [RunNodeRecord.evidence, Prod.mk.injEq, NodeEvidence.mk.injEq]
      at equal
    obtain ⟨nodeId, status, total, _, _, succeeded, setAside, failed,
      cancelled, read, written, quarantined, bytesRead, bytesWritten⟩ := equal
    simp only [nodeDocument, nodeId, status, total, succeeded, setAside,
      failed, cancelled, read, written, quarantined, bytesRead, bytesWritten]

theorem workDocument_agree {left right : FinalizationEvidence}
    {work other : WorkItemRecord} :
    (workDocument left work).sortKeys = (workDocument right other).sortKeys ↔
      left.partitionEvidence work = right.partitionEvidence other := by
  constructor
  · intro equal
    have version := JsonValue.field_congr equal (text "checkpoint_version")
    have nodeId := JsonValue.field_congr equal (text "node_id")
    have partitionKey := JsonValue.field_congr equal (text "partition_key")
    have state := JsonValue.field_congr equal (text "state")
    simp [workDocument, JsonValue.field, List.lookup]
      at version nodeId partitionKey state
    simp only [FinalizationEvidence.partitionEvidence, Prod.mk.injEq,
      PartitionEvidence.mk.injEq]
    exact ⟨⟨Identifier.ext nodeId, StableText.ext partitionKey⟩,
      Domain.WorkItemState.value_injective (text_injective state),
      optionalInt_distinguishes _ _ version⟩
  · intro equal
    simp only [FinalizationEvidence.partitionEvidence, Prod.mk.injEq,
      PartitionEvidence.mk.injEq] at equal
    obtain ⟨⟨nodeId, partitionKey⟩, state, version⟩ := equal
    simp only [workDocument, nodeId, partitionKey, state, version]

theorem runDocument_agree {left right : RunRecord} :
    (runDocument left).sortKeys = (runDocument right).sortKeys ↔
      left.pipelineId = right.pipelineId ∧
        left.pipelineVersion = right.pipelineVersion ∧
        left.scenarioSeed = right.scenarioSeed := by
  constructor
  · intro equal
    have pipelineId := JsonValue.field_congr equal (text "pipeline_id")
    have version := JsonValue.field_congr equal (text "pipeline_version")
    have seed := JsonValue.field_congr equal (text "scenario_seed")
    simp [runDocument, JsonValue.field, List.lookup] at pipelineId version seed
    exact ⟨Identifier.ext pipelineId,
      congrArg PipelineVersion.mk (PositiveSequence.ext version),
      optionalInt_distinguishes _ _ seed⟩
  · rintro ⟨pipelineId, version, seed⟩
    simp only [runDocument, pipelineId, version, seed]

section Agreement

variable {left right : FinalizationEvidence}
variable {leftSummary rightSummary : RunStatisticsSummary}

theorem nodes_agree (leftFinal : Finalizable left)
    (rightFinal : Finalizable right) :
    (JsonValue.array
        ((sortedBy (fun node => nodeOrder node.nodeId) left.nodes).map
          nodeDocument)).sortKeys =
      (JsonValue.array
        ((sortedBy (fun node => nodeOrder node.nodeId) right.nodes).map
          nodeDocument)).sortKeys ↔
      ∀ nodeId, left.nodeTable.lookup nodeId = right.nodeTable.lookup nodeId :=
  sortedDocuments_agree nodeOrder_injective leftFinal.nodeTable_nodup
    rightFinal.nodeTable_nodup fun _ inLeft _ inRight =>
      nodeDocument_agree (leftFinal.quiet inLeft) (rightFinal.quiet inRight)

theorem partitions_agree (leftFinal : Finalizable left)
    (rightFinal : Finalizable right) :
    (JsonValue.array
        ((sortedBy
            (fun work => partitionOrder (work.nodeId, work.partitionKey))
            left.work).map (workDocument left))).sortKeys =
      (JsonValue.array
        ((sortedBy
            (fun work => partitionOrder (work.nodeId, work.partitionKey))
            right.work).map (workDocument right))).sortKeys ↔
      ∀ partition, left.partitionTable.lookup partition =
        right.partitionTable.lookup partition :=
  sortedDocuments_agree partitionOrder_injective
    leftFinal.partitionTable_nodup rightFinal.partitionTable_nodup
    fun _ _ _ _ => workDocument_agree

/-- Node tables that agree everywhere hold the same rows. -/
theorem nodeTable_perm (leftFinal : Finalizable left)
    (rightFinal : Finalizable right)
    (nodes : ∀ nodeId,
      left.nodeTable.lookup nodeId = right.nodeTable.lookup nodeId) :
    left.nodeTable.Perm right.nodeTable := by
  have equal := (sortedBy_fst_eq_iff nodeOrder_injective
    leftFinal.nodeTable_nodup rightFinal.nodeTable_nodup).mpr nodes
  have through := (sortedBy_perm (fun item => nodeOrder item.1)
    left.nodeTable).symm
  rw [equal] at through
  exact through.trans (sortedBy_perm _ right.nodeTable)

/-- A column that the node evidence records has one sum. -/
theorem column_sum {column : RunNodeRecord → Int}
    (recorded : NodeId × NodeEvidence → Int)
    (records : ∀ node, recorded node.evidence = column node)
    (perm : left.nodeTable.Perm right.nodeTable) :
    (left.nodes.map column).sum = (right.nodes.map column).sum := by
  have sums := (perm.map recorded).sum_eq
  simpa only [FinalizationEvidence.nodeTable, List.map_map, Function.comp_def,
    records] using sums

/-- The summary says nothing that the node evidence does not. -/
theorem summaryDocument_congr (leftSums : SumsColumns left leftSummary)
    (rightSums : SumsColumns right rightSummary)
    (perm : left.nodeTable.Perm right.nodeTable) :
    summaryDocument leftSummary = summaryDocument rightSummary := by
  have nodeCount : leftSummary.nodeCount = rightSummary.nodeCount := by
    have lengths := perm.length_eq
    simp only [FinalizationEvidence.nodeTable, List.length_map] at lengths
    rw [leftSums.nodeCount, rightSums.nodeCount, lengths]
  have workTotal : leftSummary.workTotal = rightSummary.workTotal := by
    rw [leftSums.workTotal, rightSums.workTotal]
    exact column_sum (fun row => row.2.workTotal) (fun _ => rfl) perm
  have succeeded : leftSummary.workSucceeded = rightSummary.workSucceeded := by
    rw [leftSums.workSucceeded, rightSums.workSucceeded]
    exact column_sum (fun row => row.2.workSucceeded) (fun _ => rfl) perm
  have setAside :
      leftSummary.workQuarantined = rightSummary.workQuarantined := by
    rw [leftSums.workQuarantined, rightSums.workQuarantined]
    exact column_sum (fun row => row.2.workQuarantined) (fun _ => rfl) perm
  have failed : leftSummary.workFailed = rightSummary.workFailed := by
    rw [leftSums.workFailed, rightSums.workFailed]
    exact column_sum (fun row => row.2.workFailed) (fun _ => rfl) perm
  have cancelled : leftSummary.workCancelled = rightSummary.workCancelled := by
    rw [leftSums.workCancelled, rightSums.workCancelled]
    exact column_sum (fun row => row.2.workCancelled) (fun _ => rfl) perm
  have read : leftSummary.recordsRead = rightSummary.recordsRead := by
    rw [leftSums.recordsRead, rightSums.recordsRead]
    exact column_sum (fun row => row.2.recordsRead) (fun _ => rfl) perm
  have written :
      leftSummary.recordsWritten = rightSummary.recordsWritten := by
    rw [leftSums.recordsWritten, rightSums.recordsWritten]
    exact column_sum (fun row => row.2.recordsWritten) (fun _ => rfl) perm
  have quarantined :
      leftSummary.recordsQuarantined = rightSummary.recordsQuarantined := by
    rw [leftSums.recordsQuarantined, rightSums.recordsQuarantined]
    exact column_sum (fun row => row.2.recordsQuarantined) (fun _ => rfl) perm
  have bytesRead : leftSummary.bytesRead = rightSummary.bytesRead := by
    rw [leftSums.bytesRead, rightSums.bytesRead]
    exact column_sum (fun row => row.2.bytesRead) (fun _ => rfl) perm
  have bytesWritten : leftSummary.bytesWritten = rightSummary.bytesWritten := by
    rw [leftSums.bytesWritten, rightSums.bytesWritten]
    exact column_sum (fun row => row.2.bytesWritten) (fun _ => rfl) perm
  simp only [summaryDocument, nodeCount, workTotal, succeeded, setAside,
    failed, cancelled, read, written, quarantined, bytesRead, bytesWritten]

/-- The evidence document determines the logical evidence and nothing more. -/
theorem evidenceDocument_agree {leftPlan rightPlan : PlanFingerprint}
    (leftFinal : Finalizable left) (rightFinal : Finalizable right)
    (leftSums : SumsColumns left leftSummary)
    (rightSums : SumsColumns right rightSummary) :
    (evidenceDocument leftPlan left leftSummary).sortKeys =
        (evidenceDocument rightPlan right rightSummary).sortKeys ↔
      leftPlan = rightPlan ∧ SameEvidence left right := by
  constructor
  · intro equal
    have nodes := JsonValue.field_congr equal (text "nodes")
    have plan := JsonValue.field_congr equal (text "plan_fingerprint")
    have run := JsonValue.field_congr equal (text "run")
    have work := JsonValue.field_congr equal (text "work")
    simp only [evidenceDocument, JsonValue.field, List.lookup, text_beq,
      String.reduceBEq, Option.map_some, Option.some.injEq]
      at nodes plan run work
    simp only [JsonValue.sortKeys_string, JsonValue.string.injEq] at plan
    obtain ⟨pipelineId, version, seed⟩ := runDocument_agree.mp run
    exact ⟨PlanFingerprint.ext plan,
      { pipelineId := pipelineId
        pipelineVersion := version
        scenarioSeed := seed
        nodes := (nodes_agree leftFinal rightFinal).mp nodes
        partitions := (partitions_agree leftFinal rightFinal).mp work }⟩
  · rintro ⟨rfl, same⟩
    have nodes := (nodes_agree leftFinal rightFinal).mpr same.nodes
    have work := (partitions_agree leftFinal rightFinal).mpr same.partitions
    have run := runDocument_agree.mpr
      ⟨same.pipelineId, same.pipelineVersion, same.scenarioSeed⟩
    have summary := summaryDocument_congr leftSums rightSums
      (nodeTable_perm leftFinal rightFinal same.nodes)
    apply JsonValue.sortKeys_object_congr
    simp only [JsonValue.sortFields, nodes, work, run, summary]

theorem finalPreimage_eq_ok {plan : PlanFingerprint}
    {evidence : FinalizationEvidence} {summary : RunStatisticsSummary}
    {preimage : Bytes} :
    finalPreimage plan evidence summary = .ok preimage ↔
      ∃ encoded framedPlan framedDocument,
        jsonEncode (evidenceDocument plan evidence summary) = .ok encoded ∧
        frame plan.toBytes = .ok framedPlan ∧
        frame encoded = .ok framedDocument ∧
        preimage =
          finalizationFingerprintDomain ++ framedPlan ++ framedDocument := by
  simp only [finalPreimage, bind_eq_ok, Except.ok.injEq]
  constructor
  · rintro ⟨encoded, encodes, framedPlan, plans, framedDocument, frames, rfl⟩
    exact ⟨encoded, framedPlan, framedDocument, encodes, plans, frames, rfl⟩
  · rintro ⟨encoded, framedPlan, framedDocument, encodes, plans, frames, rfl⟩
    exact ⟨encoded, encodes, framedPlan, plans, framedDocument, frames, rfl⟩

/--
Where SHA-256 and the encoder are injective on what the two fingerprints
digest, equal fingerprints mean the same plan and the same logical evidence.
-/
theorem finalFingerprint_identifies {leftPlan rightPlan : PlanFingerprint}
    {leftPreimage rightPreimage : Bytes}
    {leftPrint rightPrint : StateFingerprint}
    (leftFinal : Finalizable left) (rightFinal : Finalizable right)
    (leftSums : SumsColumns left leftSummary)
    (rightSums : SumsColumns right rightSummary)
    (leftDigested : finalPreimage leftPlan left leftSummary =
      .ok leftPreimage)
    (rightDigested : finalPreimage rightPlan right rightSummary =
      .ok rightPreimage)
    (digests : DistinctDigests [leftPreimage, rightPreimage])
    (encodings : DistinctEncodings
      [evidenceDocument leftPlan left leftSummary,
        evidenceDocument rightPlan right rightSummary])
    (leftReturns : finalFingerprint leftPlan left leftSummary =
      .ok leftPrint)
    (rightReturns : finalFingerprint rightPlan right rightSummary =
      .ok rightPrint) :
    leftPrint = rightPrint ↔
      leftPlan = rightPlan ∧ SameEvidence left right := by
  simp only [finalFingerprint, leftDigested, rightDigested, ok_bind,
    Except.ok.injEq] at leftReturns rightReturns
  obtain ⟨leftEncoded, leftFramed, leftBody, leftEncodes, leftFrames,
    leftBodies, leftForm⟩ := finalPreimage_eq_ok.mp leftDigested
  obtain ⟨rightEncoded, rightFramed, rightBody, rightEncodes, rightFrames,
    rightBodies, rightForm⟩ := finalPreimage_eq_ok.mp rightDigested
  rw [← evidenceDocument_agree leftFinal rightFinal leftSums rightSums]
  constructor
  · intro equal
    rw [← leftReturns, ← rightReturns] at equal
    have preimages : leftPreimage = rightPreimage :=
      digests _ (by simp) _ (by simp)
        (StateFingerprint.ofDigest_injective equal)
    rw [leftForm, rightForm, List.append_assoc, List.append_assoc]
      at preimages
    have framed := List.append_cancel_left preimages
    obtain ⟨_, bodies⟩ := frame_append leftFrames rightFrames framed
    subst bodies
    cases frame_inj leftBodies rightBodies
    exact encodings _ (by simp) _ (by simp) leftEncoded leftEncodes
      rightEncodes
  · intro documents
    have plans : leftPlan = rightPlan :=
      ((evidenceDocument_agree leftFinal rightFinal leftSums rightSums).mp
        documents).1
    have encoded := jsonEncode_congr documents
    rw [leftEncodes, rightEncodes] at encoded
    cases encoded
    subst plans
    rw [leftFrames] at rightFrames
    rw [leftBodies] at rightBodies
    cases rightFrames
    cases rightBodies
    rw [← leftReturns, ← rightReturns, leftForm, rightForm]

end Agreement

end Evidence

/-! ## Two runs of one plan -/

section Samples

attribute [local instance] asciiRuntime

def samplePlanFingerprint : PlanFingerprint :=
  ⟨List.replicate 64 (point 'a'), by decide +kernel⟩

/-- A first run, threaded, and a second one, sequential and later. -/
def sampleRunIds : RunId × RunId :=
  (⟨text "run_first", sampleRun_valid⟩, ⟨text "run_second", by decide +kernel⟩)

def sampleNodeIds : NodeId × NodeId :=
  (⟨text "nod_extract", sampleNode_valid⟩, ⟨text "nod_load", by decide +kernel⟩)

def samplePartition : PartitionKey :=
  ⟨text "page-1", samplePage_valid⟩

def finalizedRun (runId : RunId) (runnerKind : Text) (startedAt : Instant) :
    RunRecord where
  runId := runId
  pipelineId := ⟨text "pip_inventory", samplePipeline_valid⟩
  pipelineVersion := ⟨⟨3, thirdNumber_valid⟩⟩
  runnerKind := runnerKind
  runnerConfiguration := ⟨[], validateDocumentObject_nil⟩
  state := .running
  rowVersion := 4
  scenarioSeed := some 7
  createdAt := startedAt
  startedAt := some startedAt
  finishedAt := none
  cancellationRequestedAt := none
  recoveryStartedAt := none
  recoveredAt := none
  executionEvidenceFingerprint := none
  executionEvidenceFingerprintVersion := none

/-- A node whose one work item succeeded, after some retries. -/
def finalizedNode (runId : RunId) (nodeId : NodeId) (retries : Int)
    (duration : Duration) : RunNodeRecord where
  runId := runId
  nodeId := nodeId
  status := .succeeded
  rowVersion := 5 + retries
  workTotal := 1
  workPending := 0
  workRunning := 0
  workSucceeded := 1
  workQuarantined := 0
  workFailed := 0
  workCancelled := 0
  recordsRead := 10
  recordsWritten := 9
  recordsQuarantined := 1
  bytesRead := 640
  bytesWritten := 600
  retryCount := retries
  duration := duration
  startedAt := none
  finishedAt := none

def finalizedWork (workItemId : WorkItemId) (runId : RunId) (nodeId : NodeId)
    (completed : Int) (createdAt : Instant) : WorkItemRecord where
  workItemId := workItemId
  runId := runId
  nodeId := nodeId
  partitionKey := samplePartition
  state := .succeeded
  rowVersion := 2 + completed
  completedAttemptCount := completed
  expectedCheckpointVersion := 1
  inputReference := none
  retryAvailableAt := none
  leaseOwner := none
  leaseExpiresAt := none
  activeAttemptNumber := none
  activeAttemptStartedAt := none
  activeRunnerKind := none
  activeWorkerIdentity := none
  createdAt := createdAt
  updatedAt := createdAt

def finalizedAttempt (workItemId : WorkItemId) (number : AttemptNumber)
    (outcome : AttemptOutcome) (duration : Duration) : WorkAttemptRecord where
  workItemId := workItemId
  attemptNumber := number
  startedAt := 0
  finishedAt := duration.microseconds
  runnerKind := text "threaded"
  workerIdentity := text "worker-1"
  outcome := outcome
  failureClassification := none
  redactedDetail := none
  resultReference := none
  recordsProcessed := 9
  bytesProcessed := 600
  duration := duration

def sampleWorkIds : WorkItemId × WorkItemId :=
  (⟨text "wrk_one", sampleWork_valid⟩, ⟨text "wrk_two", by decide +kernel⟩)

def sampleDurations : Duration × Duration × Duration :=
  (⟨5, by decide +kernel⟩, ⟨7, by decide +kernel⟩, ⟨12, by decide +kernel⟩)

def sampleNumbers : AttemptNumber × AttemptNumber :=
  (⟨⟨1, firstNumber_valid⟩⟩, ⟨⟨2, by decide +kernel⟩⟩)

/-- Both items of the first run succeed at once. -/
def firstEvidence : FinalizationEvidence where
  run := finalizedRun sampleRunIds.1 (text "threaded") 1000
  nextEventSequence := 9
  eventCounterRowVersion := 9
  nodes :=
    [finalizedNode sampleRunIds.1 sampleNodeIds.1 0 sampleDurations.1,
      finalizedNode sampleRunIds.1 sampleNodeIds.2 0 sampleDurations.1]
  work :=
    [finalizedWork sampleWorkIds.1 sampleRunIds.1 sampleNodeIds.1 1 1000,
      finalizedWork sampleWorkIds.2 sampleRunIds.1 sampleNodeIds.2 1 1000]
  attempts :=
    [finalizedAttempt sampleWorkIds.1 sampleNumbers.1 .succeeded sampleDurations.1,
      finalizedAttempt sampleWorkIds.2 sampleNumbers.1 .succeeded
        sampleDurations.1]
  checkpointVersions := [(sampleWorkIds.1, 1), (sampleWorkIds.2, 1)]

/-- The second run names its items the other way around and retries once. -/
def secondEvidence : FinalizationEvidence where
  run := finalizedRun sampleRunIds.2 (text "sequential") 5000
  nextEventSequence := 14
  eventCounterRowVersion := 14
  nodes :=
    [finalizedNode sampleRunIds.2 sampleNodeIds.2 0 sampleDurations.1,
      finalizedNode sampleRunIds.2 sampleNodeIds.1 1 sampleDurations.2.2]
  work :=
    [finalizedWork sampleWorkIds.1 sampleRunIds.2 sampleNodeIds.2 1 6000,
      finalizedWork sampleWorkIds.2 sampleRunIds.2 sampleNodeIds.1 2 6000]
  attempts :=
    [finalizedAttempt sampleWorkIds.1 sampleNumbers.1 .succeeded sampleDurations.1,
      finalizedAttempt sampleWorkIds.2 sampleNumbers.1 .retryScheduled
        sampleDurations.1,
      finalizedAttempt sampleWorkIds.2 sampleNumbers.2 .succeeded
        sampleDurations.2.1]
  checkpointVersions := [(sampleWorkIds.1, 1), (sampleWorkIds.2, 1)]

def sampleSummary (runId : RunId) (attemptCount retryCount duration : Int) :
    RunStatisticsSummary where
  runId := runId
  runVersion := 4
  state := .running
  nodeCount := 2
  workTotal := 2
  workPending := 0
  workRunning := 0
  workSucceeded := 2
  workQuarantined := 0
  workFailed := 0
  workCancelled := 0
  attemptCount := attemptCount
  retryCount := retryCount
  recordsRead := 20
  recordsWritten := 18
  recordsQuarantined := 2
  bytesRead := 1280
  bytesWritten := 1200
  durationMicroseconds := duration
  attemptLatencyP50Microseconds := some 5
  attemptLatencyP95Microseconds := some 7
  attemptLatencyP99Microseconds := some 7
  startedAt := none
  finishedAt := none

theorem sampleEvidence_finalizable {evidence : FinalizationEvidence}
    (either : evidence = firstEvidence ∨ evidence = secondEvidence) :
    Finalizable evidence := by
  rcases either with rfl | rfl <;> exact
    { validated := toOption_eq_some.mp (by decide)
      workTerminal := toOption_eq_some.mp (by decide)
      checkpoints := toOption_eq_some.mp (by decide)
      nodesTerminal := toOption_eq_some.mp (by decide)
      aggregates := toOption_eq_some.mp (by decide)
      partitionsDistinct := by decide }

theorem sampleSummary_sums (runId : RunId) (attempts retries duration : Int)
    {evidence : FinalizationEvidence}
    (either : evidence = firstEvidence ∨ evidence = secondEvidence) :
    SumsColumns evidence (sampleSummary runId attempts retries duration) := by
  rcases either with rfl | rfl <;> constructor <;> rfl

/-- Looking up ignores the order of two rows with different keys. -/
theorem lookup_swap {κ β : Type} [BEq κ] [LawfulBEq κ] {a b : κ × β}
    (apart : a.1 ≠ b.1) (key : κ) : [a, b].lookup key = [b, a].lookup key := by
  obtain ⟨first, x⟩ := a
  obtain ⟨second, y⟩ := b
  by_cases isFirst : key = first
  · subst isFirst
    have other : (key == second) = false := by simpa using apart
    simp [List.lookup, other]
  · have other : (key == first) = false := by simpa using isFirst
    by_cases isSecond : key = second
    · subst isSecond
      simp [List.lookup, other]
    · have neither : (key == second) = false := by simpa using isSecond
      simp [List.lookup, other, neither]

/-- The evidence of either item, under its partition. -/
def samplePartitionEvidence (nodeId : NodeId) :
    (NodeId × PartitionKey) × PartitionEvidence :=
  ((nodeId, samplePartition), { state := .succeeded, checkpointVersion := some 1 })

theorem firstEvidence_partitionTable :
    firstEvidence.partitionTable =
      [samplePartitionEvidence sampleNodeIds.1,
        samplePartitionEvidence sampleNodeIds.2] := by
  have versions : ∀ work ∈ firstEvidence.work,
      firstEvidence.checkpointVersion work = some 1 := by decide
  simp only [firstEvidence, List.forall_mem_cons] at versions
  simp only [FinalizationEvidence.partitionTable,
    FinalizationEvidence.partitionEvidence, firstEvidence, List.map_cons,
    List.map_nil, versions.1, versions.2.1]
  rfl

theorem secondEvidence_partitionTable :
    secondEvidence.partitionTable =
      [samplePartitionEvidence sampleNodeIds.2,
        samplePartitionEvidence sampleNodeIds.1] := by
  have versions : ∀ work ∈ secondEvidence.work,
      secondEvidence.checkpointVersion work = some 1 := by decide
  simp only [secondEvidence, List.forall_mem_cons] at versions
  simp only [FinalizationEvidence.partitionTable,
    FinalizationEvidence.partitionEvidence, secondEvidence, List.map_cons,
    List.map_nil, versions.1, versions.2.1]
  rfl

theorem samples_sameEvidence : SameEvidence firstEvidence secondEvidence where
  pipelineId := rfl
  pipelineVersion := rfl
  scenarioSeed := rfl
  nodes := by
    have apart : sampleNodeIds.1 ≠ sampleNodeIds.2 := by decide
    exact lookup_swap
      (a := (finalizedNode sampleRunIds.1 sampleNodeIds.1 0
        sampleDurations.1).evidence)
      (b := (finalizedNode sampleRunIds.1 sampleNodeIds.2 0
        sampleDurations.1).evidence) apart
  partitions := by
    have apart : (samplePartitionEvidence sampleNodeIds.1).1 ≠
        (samplePartitionEvidence sampleNodeIds.2).1 := by decide
    rw [firstEvidence_partitionTable, secondEvidence_partitionTable]
    exact lookup_swap apart

/-- The two runs differ in everything but their logical results. -/
theorem finalFingerprint_identifies_two_runs :
    ∃ print,
      finalFingerprint samplePlanFingerprint firstEvidence
        (sampleSummary sampleRunIds.1 2 0 10) = .ok print ∧
      finalFingerprint samplePlanFingerprint secondEvidence
        (sampleSummary sampleRunIds.2 3 1 17) = .ok print := by
  have firstHolds := sampleEvidence_finalizable (.inl rfl)
  have secondHolds := sampleEvidence_finalizable (.inr rfl)
  have firstSums := sampleSummary_sums sampleRunIds.1 2 0 10 (.inl rfl)
  have secondSums := sampleSummary_sums sampleRunIds.2 3 1 17 (.inr rfl)
  have documents :
      (evidenceDocument samplePlanFingerprint firstEvidence
          (sampleSummary sampleRunIds.1 2 0 10)).sortKeys =
        (evidenceDocument samplePlanFingerprint secondEvidence
          (sampleSummary sampleRunIds.2 3 1 17)).sortKeys :=
    (evidenceDocument_agree firstHolds secondHolds firstSums secondSums).mpr
      ⟨rfl, samples_sameEvidence⟩
  obtain ⟨preimage, digested⟩ : ∃ preimage,
      finalPreimage samplePlanFingerprint firstEvidence
        (sampleSummary sampleRunIds.1 2 0 10) = .ok preimage :=
    returns_of_isSome (by decide +kernel)
  have alsoDigested : finalPreimage samplePlanFingerprint secondEvidence
      (sampleSummary sampleRunIds.2 3 1 17) = .ok preimage := by
    rw [← digested]
    simp only [finalPreimage, jsonEncode_congr documents]
  have returns : finalFingerprint samplePlanFingerprint firstEvidence
      (sampleSummary sampleRunIds.1 2 0 10) =
        .ok (StateFingerprint.ofDigest (sha256 preimage)) := by
    simp only [finalFingerprint, digested, ok_bind]
  have alsoReturns : finalFingerprint samplePlanFingerprint secondEvidence
      (sampleSummary sampleRunIds.2 3 1 17) =
        .ok (StateFingerprint.ofDigest (sha256 preimage)) := by
    simp only [finalFingerprint, alsoDigested, ok_bind]
  have equal := (finalFingerprint_identifies firstHolds secondHolds
    firstSums secondSums digested alsoDigested
    (by
      intro p first q second _
      simp only [List.mem_cons, List.not_mem_nil, or_false, or_self]
        at first second
      rw [first, second])
    (by
      intro left leftIn right rightIn encoded _ _
      simp only [List.mem_cons, List.not_mem_nil, or_false]
        at leftIn rightIn
      rcases leftIn with rfl | rfl <;> rcases rightIn with rfl | rfl
      · rfl
      · exact documents
      · exact documents.symm
      · rfl)
    returns alsoReturns).mpr ⟨rfl, samples_sameEvidence⟩
  exact ⟨_, returns, equal ▸ alsoReturns⟩

end Samples

end ParityGrid.Application
