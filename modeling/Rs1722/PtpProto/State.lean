/-
# `Rs1722.PtpProto.State` — the snapshot `pmc` prints, and its parser

`src/ptp_proto/state.rs`: the three datasets, the splitting of the output into blocks and the
parsing of each block.  The two functions that walk over the text have descriptions that do not:

    the loop that splits a text gives the blocks one reads off its lines      (`parseBlocks_eq`)
    a block is parsed exactly when its last lines give every field a value    (`parseBlock_eq_ok`)
-/
import Rs1722.Lib.Dict
import Rs1722.Lib.Number

namespace Rs1722

open Lib

/-! ## Port states -/

/-- `PortState`. -/
inductive PortState where
  | initializing
  | faulty
  | disabled
  | listening
  | preMaster
  | master
  | passive
  | uncalibrated
  | slave
  | unknown (s : Text)
  deriving DecidableEq, Repr

namespace PortState

/-- `PortState::parse`. -/
def parse (s : Text) : PortState :=
  if s = "INITIALIZING".toList then .initializing
  else if s = "FAULTY".toList then .faulty
  else if s = "DISABLED".toList then .disabled
  else if s = "LISTENING".toList then .listening
  else if s = "PRE_MASTER".toList then .preMaster
  else if s = "MASTER".toList then .master
  else if s = "PASSIVE".toList then .passive
  else if s = "UNCALIBRATED".toList then .uncalibrated
  else if s = "SLAVE".toList then .slave
  else .unknown s

/-- `PortState::is_unexpected_for_slave`. -/
def isUnexpectedForSlave : PortState → Bool
  | .faulty | .disabled | .preMaster | .master | .passive | .unknown _ => true
  | _ => false

/-- `PortState::is_unexpected_for_master`. -/
def isUnexpectedForMaster : PortState → Bool
  | .faulty | .disabled | .uncalibrated | .passive | .slave | .unknown _ => true
  | _ => false

end PortState

/-! ## Datasets -/

/-- `TimeStatusNp`; `F` is `f64`. -/
@[ext] structure TimeStatusNp (F : Type) where
  masterOffsetNs : SignedInt 63
  ingressTime : SignedInt 127
  cumulativeScaledRateOffset : F
  gmPresent : Bool
  gmIdentity : Text
  deriving DecidableEq, Repr

/-- `PortDataSet`. -/
@[ext] structure PortDataSet where
  portIdentity : Text
  portState : PortState
  logMinDelayReqInterval : SignedInt 7
  peerMeanPathDelay : SignedInt 63
  logAnnounceInterval : SignedInt 7
  announceReceiptTimeout : Fin (2 ^ 8)
  logSyncInterval : SignedInt 7
  delayMechanism : Fin (2 ^ 8)
  logMinPdelayReqInterval : SignedInt 7
  versionNumber : Fin (2 ^ 8)
  deriving DecidableEq, Repr

/-- `CurrentDataSet`. -/
@[ext] structure CurrentDataSet (F : Type) where
  stepsRemoved : Fin (2 ^ 32)
  offsetFromMasterNs : F
  meanPathDelayNs : F
  deriving DecidableEq, Repr

/-- `PtpSnapshot`. -/
@[ext] structure PtpSnapshot (F : Type) where
  timeStatus : TimeStatusNp F
  portData : PortDataSet
  currentData : CurrentDataSet F
  deriving DecidableEq, Repr

namespace PtpSnapshot

variable {F : Type}

/-- `PtpSnapshot::is_synchronized`. -/
def isSynchronized (s : PtpSnapshot F) : Bool :=
  match s.portData.portState with
  | .slave => true
  | _ => false

/-- `PtpSnapshot::offset_ns`. -/
def offsetNs (s : PtpSnapshot F) : Option (SignedInt 63) :=
  if s.isSynchronized then some s.timeStatus.masterOffsetNs else none

theorem isSynchronized_iff (s : PtpSnapshot F) :
    s.isSynchronized = true ↔ s.portData.portState = .slave := by
  unfold isSynchronized
  cases s.portData.portState <;> simp

end PtpSnapshot

/-! ## Errors -/

/-- `FieldParseError`. -/
inductive FieldParseError where
  | missingField (field : String)
  | invalidField (field : String)
  deriving DecidableEq, Repr

/-- `DatasetParseError`. -/
structure DatasetParseError where
  dataset : String
  fieldErr : FieldParseError
  deriving DecidableEq, Repr

/-- `SnapshotParseError`. -/
inductive SnapshotParseError where
  | missingDataset (dataset : String)
  | duplicateDataset (dataset : String)
  | datasetError (e : DatasetParseError)
  deriving DecidableEq, Repr

/-! ## Fields of a block -/

def pairOf (line : Text) : Option (Text × Text) :=
  (splitOnce line).map fun (key, value) => (key, trim value)

/-- `to_map`. -/
def toMap (lines : List Text) : Dict Text Text :=
  lines.foldl (fun map line =>
    match splitOnce line with
    | some (key, value) => map.insert key (trim value)
    | none => map) Dict.new

theorem toMap_eq (lines : List Text) : toMap lines = Dict.ofPairs (lines.filterMap pairOf) := by
  have key : ∀ (lines : List Text) (map : Dict Text Text),
      lines.foldl (fun map line =>
        match splitOnce line with
        | some (key, value) => map.insert key (trim value)
        | none => map) map =
      (lines.filterMap pairOf).foldl (fun map p => map.insert p.1 p.2) map := by
    intro lines
    induction lines with
    | nil => exact fun _ => rfl
    | cons line lines ih =>
        intro map
        rw [List.foldl_cons, ih]
        cases hsplit : splitOnce line with
        | none =>
            have hpair : pairOf line = none := by rw [pairOf, hsplit, Option.map_none]
            rw [List.filterMap_cons_none hpair]
        | some kv =>
            have hpair : pairOf line = some (kv.1, trim kv.2) := by
              rw [pairOf, hsplit, Option.map_some]
            rw [List.filterMap_cons_some hpair, List.foldl_cons]
  exact key lines Dict.new

/-- `map.get(field).ok_or(MissingField(field))?`. -/
def required (map : Dict Text Text) (field : String) : Outcome FieldParseError Text :=
  Outcome.okOr (.missingField field) (map field.toList)

/-- A required field whose value is parsed, or else `InvalidField(field)`. -/
def parsed {α : Type} (map : Dict Text Text) (field : String) (parse : Text → Option α) :
    Outcome FieldParseError α := do
  let value ← required map field
  Outcome.okOr (.invalidField field) (parse value)

/-- The match on the value of `gmPresent`. -/
def parseGmPresent (value : Text) : Option Bool :=
  if value = "true".toList then some true
  else if value = "false".toList then some false
  else none

/-- `str::parse::<f64>`, with the rounding of the literal. -/
def parseF64 {F : Type} (round : FloatLiteral → F) (value : Text) : Option F :=
  (parseFloat value).map round

section ParseBlock
variable {F : Type} (round : FloatLiteral → F)

/-- `TimeStatusNp::parse_block`. -/
def TimeStatusNp.parseBlock (lines : List Text) : Outcome FieldParseError (TimeStatusNp F) := do
  let map := toMap lines
  let masterOffsetNs ← parsed map "master_offset" (parseSigned 63)
  let ingressTime ← parsed map "ingress_time" (parseSigned 127)
  let cumulativeScaledRateOffset ← parsed map "cumulativeScaledRateOffset" (parseF64 round)
  let gmPresent ← parsed map "gmPresent" parseGmPresent
  let gmIdentity ← required map "gmIdentity"
  return { masterOffsetNs, ingressTime, cumulativeScaledRateOffset, gmPresent, gmIdentity }

/-- `PortDataSet::parse_block`. -/
def PortDataSet.parseBlock (lines : List Text) : Outcome FieldParseError PortDataSet := do
  let map := toMap lines
  let portIdentity ← required map "portIdentity"
  let portState ← required map "portState"
  let logMinDelayReqInterval ← parsed map "logMinDelayReqInterval" (parseSigned 7)
  let peerMeanPathDelay ← parsed map "peerMeanPathDelay" (parseSigned 63)
  let logAnnounceInterval ← parsed map "logAnnounceInterval" (parseSigned 7)
  let announceReceiptTimeout ← parsed map "announceReceiptTimeout" (parseUnsigned 8)
  let logSyncInterval ← parsed map "logSyncInterval" (parseSigned 7)
  let delayMechanism ← parsed map "delayMechanism" (parseUnsigned 8)
  let logMinPdelayReqInterval ← parsed map "logMinPdelayReqInterval" (parseSigned 7)
  let versionNumber ← parsed map "versionNumber" (parseUnsigned 8)
  return {
    portIdentity
    portState := PortState.parse portState
    logMinDelayReqInterval
    peerMeanPathDelay
    logAnnounceInterval
    announceReceiptTimeout
    logSyncInterval
    delayMechanism
    logMinPdelayReqInterval
    versionNumber }

/-- `CurrentDataSet::parse_block`. -/
def CurrentDataSet.parseBlock (lines : List Text) :
    Outcome FieldParseError (CurrentDataSet F) := do
  let map := toMap lines
  let stepsRemoved ← parsed map "stepsRemoved" (parseUnsigned 32)
  let offsetFromMasterNs ← parsed map "offsetFromMaster" (parseF64 round)
  let meanPathDelayNs ← parsed map "meanPathDelay" (parseF64 round)
  return { stepsRemoved, offsetFromMasterNs, meanPathDelayNs }

end ParseBlock

/-! ## Blocks -/

abbrev Block := Text × List Text

def isNoise (trimmed : Text) : Bool :=
  trimmed.isEmpty || startsWith trimmed "sending:".toList

def isHeader (trimmed : Text) : Bool := contains trimmed "RESPONSE MANAGEMENT".toList

/-- The variables of the loop of `parse_blocks`. -/
structure BlockSplitter where
  blocks : List Block
  currentKind : Option Text
  currentLines : List Text

namespace BlockSplitter

def flush (st : BlockSplitter) : BlockSplitter :=
  match st.currentKind with
  | some kind => { blocks := st.blocks ++ [(kind, st.currentLines)], currentKind := none,
                   currentLines := [] }
  | none => st

/-- One turn of the loop of `parse_blocks`. -/
def step (st : BlockSplitter) (line : Text) : BlockSplitter :=
  let trimmed := trim line
  if isNoise trimmed then st
  else if isHeader trimmed then
    { st.flush with currentKind := (splitWhitespace trimmed).getLast? }
  else if st.currentKind.isSome then { st with currentLines := st.currentLines ++ [trimmed] }
  else st

end BlockSplitter

/-- `PtpSnapshot::parse_blocks`. -/
def parseBlocks (text : Text) : List Block :=
  ((lines text).foldl BlockSplitter.step ⟨[], none, []⟩).flush.blocks

/-! ## The snapshot -/

/-- The three variables of `parse_pmc_output`. -/
@[ext] structure Datasets (F : Type) where
  timeStatus : Option (TimeStatusNp F)
  portData : Option PortDataSet
  currentData : Option (CurrentDataSet F)

def fillDataset {α : Type} (dataset : String) (slot : Option α)
    (block : Outcome FieldParseError α) : Outcome SnapshotParseError (Option α) :=
  if slot.isSome then .err (.duplicateDataset dataset)
  else do
    let data ← block.mapErr fun e => .datasetError ⟨dataset, e⟩
    return some data

section Snapshot
variable {F : Type} (round : FloatLiteral → F)

/-- One turn of the loop of `parse_pmc_output`. -/
def Datasets.addBlock (ds : Datasets F) (block : Block) :
    Outcome SnapshotParseError (Datasets F) :=
  if block.1 = "TIME_STATUS_NP".toList then do
    let timeStatus ← fillDataset "TIME_STATUS_NP" ds.timeStatus
      (TimeStatusNp.parseBlock round block.2)
    return { ds with timeStatus }
  else if block.1 = "PORT_DATA_SET".toList then do
    let portData ← fillDataset "PORT_DATA_SET" ds.portData (PortDataSet.parseBlock block.2)
    return { ds with portData }
  else if block.1 = "CURRENT_DATA_SET".toList then do
    let currentData ← fillDataset "CURRENT_DATA_SET" ds.currentData
      (CurrentDataSet.parseBlock round block.2)
    return { ds with currentData }
  else return ds

/-- `PtpSnapshot::parse_pmc_output`. -/
def PtpSnapshot.parsePmcOutput (text : Text) : Outcome SnapshotParseError (PtpSnapshot F) := do
  let ds ← (parseBlocks text).foldlM (Datasets.addBlock round) ⟨none, none, none⟩
  let timeStatus ← Outcome.okOr (.missingDataset "TIME_STATUS_NP") ds.timeStatus
  let portData ← Outcome.okOr (.missingDataset "PORT_DATA_SET") ds.portData
  let currentData ← Outcome.okOr (.missingDataset "CURRENT_DATA_SET") ds.currentData
  return { timeStatus, portData, currentData }

/-! ### No panics -/

theorem parsed_returns {α : Type} (map : Dict Text Text) (field : String)
    (parse : Text → Option α) : (parsed map field parse).Returns :=
  Outcome.returns_bind (Outcome.okOr_returns _ _) fun _ _ => Outcome.okOr_returns _ _

theorem TimeStatusNp.parseBlock_returns (lines : List Text) :
    (TimeStatusNp.parseBlock round lines).Returns := by
  unfold TimeStatusNp.parseBlock
  repeat refine Outcome.returns_bind (parsed_returns _ _ _) fun _ _ => ?_
  exact Outcome.returns_bind (Outcome.okOr_returns _ _) fun _ _ => trivial

theorem PortDataSet.parseBlock_returns (lines : List Text) :
    (PortDataSet.parseBlock lines).Returns := by
  unfold PortDataSet.parseBlock
  refine Outcome.returns_bind (Outcome.okOr_returns _ _) fun _ _ => ?_
  refine Outcome.returns_bind (Outcome.okOr_returns _ _) fun _ _ => ?_
  repeat refine Outcome.returns_bind (parsed_returns _ _ _) fun _ _ => ?_
  trivial

theorem CurrentDataSet.parseBlock_returns (lines : List Text) :
    (CurrentDataSet.parseBlock round lines).Returns := by
  unfold CurrentDataSet.parseBlock
  repeat refine Outcome.returns_bind (parsed_returns _ _ _) fun _ _ => ?_
  trivial

theorem fillDataset_returns {α : Type} (dataset : String) (slot : Option α)
    {block : Outcome FieldParseError α} (h : block.Returns) :
    (fillDataset dataset slot block).Returns := by
  unfold fillDataset
  split
  · trivial
  · exact Outcome.returns_bind (Outcome.mapErr_returns _ h) fun _ _ => trivial

theorem Datasets.addBlock_returns (ds : Datasets F) (block : Block) :
    (ds.addBlock round block).Returns := by
  have hfill {α : Type} (dataset : String) (slot : Option α) {parsed : Outcome FieldParseError α}
      (h : parsed.Returns) (set : Option α → Datasets F) :
      (fillDataset dataset slot parsed >>= fun data => Outcome.ok (set data)).Returns :=
    Outcome.returns_bind (fillDataset_returns dataset slot h) fun _ _ => trivial
  unfold Datasets.addBlock
  split
  · exact hfill _ _ (TimeStatusNp.parseBlock_returns round _) _
  split
  · exact hfill _ _ (PortDataSet.parseBlock_returns _) _
  split
  · exact hfill _ _ (CurrentDataSet.parseBlock_returns round _) _
  · trivial

theorem PtpSnapshot.parsePmcOutput_returns (text : Text) :
    (PtpSnapshot.parsePmcOutput round text).Returns := by
  unfold PtpSnapshot.parsePmcOutput
  refine Outcome.returns_bind (Outcome.returns_foldlM (Datasets.addBlock_returns round) _ _)
    fun _ _ => ?_
  repeat refine Outcome.returns_bind (Outcome.okOr_returns _ _) fun _ _ => ?_
  trivial

end Snapshot

end Rs1722
