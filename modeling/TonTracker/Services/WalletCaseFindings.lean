/-
# `Services.WalletCaseFindings` — flows and findings of a wallet case

The flows of a case grouped by asset, counterparty and protocol, and the
findings its published rules read off them
(`services/wallet_case_findings.py`).  The one pass over the items fills three
dictionaries that do not meet, and is written as three.  Of the document the
digests, the limitations and the constant truth boundaries are left out; a
decimal of the response is the number its text stands for.
-/
import TonTracker.Lib.Groups
import TonTracker.Lib.KeySort
import TonTracker.Services.PnlPreview
import Mathlib.Data.Finset.Sort
import Mathlib.Data.Prod.Lex

namespace TonTracker

/-! ## Items -/

inductive ItemDirection where
  | incoming
  | outgoing
  | unknown
deriving DecidableEq

/-- An asset of an item whose identity is network scoped. -/
structure FlowAsset where
  assetId : Text
  network : Text
  standard : Text
  contractAddress : Option Text
  symbol : Option Text
deriving DecidableEq

/-- A recognized protocol. -/
structure FlowProtocol where
  protocolId : Text
  family : Text
  version : Text
  label : Option Text
deriving DecidableEq

/-- What an item observes; an asset, a counterparty or a protocol that is not
identified is `none`. -/
inductive ItemBody where
  | transfer (asset : Option FlowAsset) (direction : ItemDirection) (amount : Option Text)
      (counterparty : Option Text)
  | swap (inputAsset : Option FlowAsset) (amountIn : Option Text)
      (outputAsset : Option FlowAsset) (amountOut : Option Text) (protocol : Option FlowProtocol)
  | transaction (failed : Bool)
deriving DecidableEq

structure CaseItem where
  publicId : Text
  occurredAt : Option Text
  demoFixture : Bool
  body : ItemBody
deriving DecidableEq

inductive ItemKind where
  | transfer
  | swap
  | transaction
deriving DecidableEq

def CaseItem.kind (item : CaseItem) : ItemKind :=
  match item.body with
  | .transfer .. => .transfer
  | .swap .. => .swap
  | .transaction _ => .transaction

def maxFlowGroups : Nat := 50
def maxSupportingActivities : Nat := 50
def maxPatternFindings : Nat := 20

/-! ## Groups -/

/-- The observations of a group, by direction. -/
structure DirectionCounts where
  incoming : Nat
  outgoing : Nat
  unknown : Nat
deriving DecidableEq

def DirectionCounts.total (counts : DirectionCounts) : Nat :=
  counts.incoming + counts.outgoing + counts.unknown

/-- `group[field] += 1`. -/
def DirectionCounts.observe (counts : DirectionCounts) : ItemDirection → DirectionCounts
  | .incoming => { counts with incoming := counts.incoming + 1 }
  | .outgoing => { counts with outgoing := counts.outgoing + 1 }
  | .unknown => { counts with unknown := counts.unknown + 1 }

structure AssetGroup where
  asset : FlowAsset
  inflowTotal : ℚ
  outflowTotal : ℚ
  inflowKnown : Bool
  outflowKnown : Bool
  observations : DirectionCounts
  amountUnavailableObservations : Nat
  support : Finset Text

def AssetGroup.new (asset : FlowAsset) : AssetGroup :=
  ⟨asset, 0, 0, false, false, ⟨0, 0, 0⟩, 0, ∅⟩

structure CounterpartyGroup where
  observations : DirectionCounts
  support : Finset Text

structure ProtocolGroup where
  protocol : FlowProtocol
  swapObservations : Nat
  support : Finset Text

/-- An asset met in an item. -/
structure AssetObservation where
  asset : FlowAsset
  activityId : Text
  direction : ItemDirection
  amount : Option Text

/-- `_amount`; `decimal` is the finite number `Decimal(value)` is, if it is
one. -/
def flowAmount (decimal : Text → Option ℚ) (value : Option Text) : Option ℚ := do
  let parsed ← decimal (← value)
  if 0 ≤ parsed then some parsed else none

/-- `_add_asset_observation`. -/
def addAssetObservation (decimal : Text → Option ℚ) (group : Option AssetGroup)
    (o : AssetObservation) : Except ContextDecimal.Signal AssetGroup :=
  let group := group.getD (AssetGroup.new o.asset)
  let group := { group with
    observations := group.observations.observe o.direction
    support := insert o.activityId group.support }
  match o.direction, flowAmount decimal o.amount with
  | .incoming, some parsed => do
      let total ← defaultContext.round (group.inflowTotal + parsed)
      return { group with inflowTotal := total, inflowKnown := true }
  | .outgoing, some parsed => do
      let total ← defaultContext.round (group.outflowTotal + parsed)
      return { group with outflowTotal := total, outflowKnown := true }
  | _, _ =>
      .ok { group with amountUnavailableObservations := group.amountUnavailableObservations + 1 }

/-- The asset observations of an item, in the order they are added. -/
def CaseItem.assetObservations (item : CaseItem) : List AssetObservation :=
  match item.body with
  | .transfer asset direction amount _ =>
      (asset.map fun asset => ⟨asset, item.publicId, direction, amount⟩).toList
  | .swap inputAsset amountIn outputAsset amountOut _ =>
      (inputAsset.map fun asset => ⟨asset, item.publicId, .outgoing, amountIn⟩).toList ++
        (outputAsset.map fun asset => ⟨asset, item.publicId, .incoming, amountOut⟩).toList
  | .transaction _ => []

def assetObservations (items : List CaseItem) : List (Text × AssetObservation) :=
  (items.flatMap CaseItem.assetObservations).map fun o => (o.asset.assetId, o)

def assetGroups (decimal : Text → Option ℚ) (items : List CaseItem) :
    Except ContextDecimal.Signal (List (Text × AssetGroup)) :=
  (assetObservations items).foldlM (Groups.upsertM (addAssetObservation decimal)) []

/-- The identified counterparty of a transfer, with its direction. -/
def counterpartyObservation (item : CaseItem) : Option (Text × ItemDirection × Text) :=
  match item.body with
  | .transfer _ direction _ (some address) => some (address, direction, item.publicId)
  | _ => none

def addCounterparty (group : Option CounterpartyGroup) (o : ItemDirection × Text) :
    CounterpartyGroup :=
  let group := group.getD ⟨⟨0, 0, 0⟩, ∅⟩
  ⟨group.observations.observe o.1, insert o.2 group.support⟩

def counterpartyGroups (items : List CaseItem) : List (Text × CounterpartyGroup) :=
  (items.filterMap counterpartyObservation).foldl (Groups.upsert addCounterparty) []

/-- The recognized protocol of a swap. -/
def protocolObservation (item : CaseItem) : Option (Text × FlowProtocol × Text) :=
  match item.body with
  | .swap _ _ _ _ (some protocol) => some (protocol.protocolId, protocol, item.publicId)
  | _ => none

def addProtocol (group : Option ProtocolGroup) (o : FlowProtocol × Text) : ProtocolGroup :=
  let group := group.getD ⟨o.1, 0, ∅⟩
  ⟨group.protocol, group.swapObservations + 1, insert o.2 group.support⟩

def protocolGroups (items : List CaseItem) : List (Text × ProtocolGroup) :=
  (items.filterMap protocolObservation).foldl (Groups.upsert addProtocol) []

/-- An asset of the item is not identified. -/
def CaseItem.assetUnavailable (item : CaseItem) : Bool :=
  match item.body with
  | .transfer asset _ _ _ => asset.isNone
  | .swap inputAsset _ outputAsset _ _ => inputAsset.isNone || outputAsset.isNone
  | .transaction _ => false

def CaseItem.counterpartyUnavailable (item : CaseItem) : Bool :=
  match item.body with
  | .transfer _ _ _ counterparty => counterparty.isNone
  | _ => false

def CaseItem.protocolUnrecognized (item : CaseItem) : Bool :=
  match item.body with
  | .swap _ _ _ _ protocol => protocol.isNone
  | _ => false

/-- The identifiers of the items of a kind. -/
def idsWhere (test : CaseItem → Bool) (items : List CaseItem) : Finset Text :=
  ((items.filter test).map CaseItem.publicId).toFinset

/-! ## Rows -/

structure AssetFlow where
  asset : FlowAsset
  inflowAmount : Option ℚ
  outflowAmount : Option ℚ
  observations : DirectionCounts
  amountUnavailableObservations : Nat
  supportingActivityIds : List Text
  supportTruncated : Bool

structure CounterpartyFlow where
  canonicalAddress : Text
  observations : DirectionCounts
  supportingActivityIds : List Text
  supportTruncated : Bool
deriving DecidableEq

structure ProtocolFlow where
  protocol : FlowProtocol
  swapObservations : Nat
  supportingActivityIds : List Text
  supportTruncated : Bool
deriving DecidableEq

/-- `support[:MAX_SUPPORTING_ACTIVITIES]` of the sorted support. -/
def listedSupport (support : Finset Text) : List Text :=
  (support.sort (· ≤ ·)).take maxSupportingActivities

def supportTruncated (support : Finset Text) : Bool :=
  decide (maxSupportingActivities < support.card)

/-- `_asset_flow`. -/
def assetFlow (group : Text × AssetGroup) : AssetFlow where
  asset := group.2.asset
  inflowAmount := if group.2.inflowKnown then some group.2.inflowTotal else none
  outflowAmount := if group.2.outflowKnown then some group.2.outflowTotal else none
  observations := group.2.observations
  amountUnavailableObservations := group.2.amountUnavailableObservations
  supportingActivityIds := listedSupport group.2.support
  supportTruncated := supportTruncated group.2.support

/-- `_counterparty_flow`. -/
def counterpartyFlow (group : Text × CounterpartyGroup) : CounterpartyFlow where
  canonicalAddress := group.1
  observations := group.2.observations
  supportingActivityIds := listedSupport group.2.support
  supportTruncated := supportTruncated group.2.support

/-- `_protocol_flow`. -/
def protocolFlow (group : Text × ProtocolGroup) : ProtocolFlow where
  protocol := group.2.protocol
  swapObservations := group.2.swapObservations
  supportingActivityIds := listedSupport group.2.support
  supportTruncated := supportTruncated group.2.support

/-- The most observed first, of as many the smaller key. -/
def flowKey (observations : Nat) (key : Text) : ℤ ×ₗ Text := toLex (-(observations : ℤ), key)

def AssetFlow.sortKey (row : AssetFlow) : ℤ ×ₗ Text :=
  flowKey row.observations.total row.asset.assetId

def CounterpartyFlow.sortKey (row : CounterpartyFlow) : ℤ ×ₗ Text :=
  flowKey row.observations.total row.canonicalAddress

def ProtocolFlow.sortKey (row : ProtocolFlow) : ℤ ×ₗ Text :=
  flowKey row.swapObservations row.protocol.protocolId

def assetRows (decimal : Text → Option ℚ) (items : List CaseItem) :
    Except ContextDecimal.Signal (List AssetFlow) := do
  let groups ← assetGroups decimal items
  return KeySort.sortBy (fun a b => decide (a ≤ b)) AssetFlow.sortKey (groups.map assetFlow)

def counterpartyRows (items : List CaseItem) : List CounterpartyFlow :=
  KeySort.sortBy (fun a b => decide (a ≤ b)) CounterpartyFlow.sortKey
    ((counterpartyGroups items).map counterpartyFlow)

def protocolRows (items : List CaseItem) : List ProtocolFlow :=
  KeySort.sortBy (fun a b => decide (a ≤ b)) ProtocolFlow.sortKey
    ((protocolGroups items).map protocolFlow)

structure CaseFlows where
  identifiedAssetCount : Nat
  returnedAssetCount : Nat
  assetsTruncated : Bool
  unavailableAssetObservations : Nat
  identifiedCounterpartyCount : Nat
  returnedCounterpartyCount : Nat
  counterpartiesTruncated : Bool
  unavailableCounterpartyObservations : Nat
  recognizedProtocolCount : Nat
  returnedProtocolCount : Nat
  protocolsTruncated : Bool
  unrecognizedProtocolObservations : Nat
  assetFlows : List AssetFlow
  counterpartyFlows : List CounterpartyFlow
  protocolFlows : List ProtocolFlow

/-- What the rules read. -/
structure FlowState where
  unavailableAssetIds : Finset Text
  unavailableCounterpartyIds : Finset Text
  counterpartyGroups : List CounterpartyFlow
  protocolGroups : List ProtocolFlow

def flowState (items : List CaseItem) : FlowState where
  unavailableAssetIds := idsWhere CaseItem.assetUnavailable items
  unavailableCounterpartyIds := idsWhere CaseItem.counterpartyUnavailable items
  counterpartyGroups := counterpartyRows items
  protocolGroups := protocolRows items

/-- `_flow_summary`. -/
def flowSummary (decimal : Text → Option ℚ) (items : List CaseItem) :
    Except ContextDecimal.Signal (CaseFlows × FlowState) := do
  let assets ← assetRows decimal items
  let state := flowState items
  let counterparties := state.counterpartyGroups
  let protocols := state.protocolGroups
  return ({
    identifiedAssetCount := assets.length
    returnedAssetCount := min assets.length maxFlowGroups
    assetsTruncated := decide (maxFlowGroups < assets.length)
    unavailableAssetObservations := state.unavailableAssetIds.card
    identifiedCounterpartyCount := counterparties.length
    returnedCounterpartyCount := min counterparties.length maxFlowGroups
    counterpartiesTruncated := decide (maxFlowGroups < counterparties.length)
    unavailableCounterpartyObservations := state.unavailableCounterpartyIds.card
    recognizedProtocolCount := protocols.length
    returnedProtocolCount := min protocols.length maxFlowGroups
    protocolsTruncated := decide (maxFlowGroups < protocols.length)
    unrecognizedProtocolObservations := (idsWhere CaseItem.protocolUnrecognized items).card
    assetFlows := assets.take maxFlowGroups
    counterpartyFlows := counterparties.take maxFlowGroups
    protocolFlows := protocols.take maxFlowGroups }, state)

/-! ## Evidence levels -/

inductive FindingLevel where
  | fixture
  | normalizedProviderObservation
  | locallyVerified
  | chainInclusionProven
deriving DecidableEq

/-- `_EVIDENCE_SCORE`. -/
def FindingLevel.score : FindingLevel → Nat
  | .fixture => 0
  | .normalizedProviderObservation => 1
  | .locallyVerified => 2
  | .chainInclusionProven => 3

/-- A verification of the evidence catalog. -/
structure EvidenceVerification where
  publicId : Text
  activityPublicId : Text
  statusVersion : Nat
  progress : Nat
deriving DecidableEq

/-- The score verifications of one activity are compared by. -/
def EvidenceVerification.score (row : EvidenceVerification) : Nat ×ₗ Nat ×ₗ Text :=
  toLex (row.progress, toLex (row.statusVersion, row.publicId))

def keepStrongest (current : Option EvidenceVerification) (row : EvidenceVerification) :
    EvidenceVerification :=
  match current with
  | none => row
  | some current => if current.score < row.score then row else current

def strongestVerifications (verifications : List EvidenceVerification) :
    List (Text × EvidenceVerification) :=
  (verifications.map fun row => (row.activityPublicId, row)).foldl
    (Groups.upsert keepStrongest) []

def baseLevel (demo : Bool) : FindingLevel :=
  if demo then .fixture else .normalizedProviderObservation

/-- The level of an item, with the strongest verification of it. -/
def CaseItem.evidenceLevel (strongest : List (Text × EvidenceVerification)) (item : CaseItem) :
    FindingLevel :=
  match strongest.lookup item.publicId with
  | none => baseLevel item.demoFixture
  | some row =>
      if 3 ≤ row.progress then .chainInclusionProven
      else if 2 ≤ row.progress then .locallyVerified
      else baseLevel item.demoFixture

/-- The levels of `_evidence_basis`. -/
def evidenceLevels (items : List CaseItem) (verifications : List EvidenceVerification) :
    List (Text × FindingLevel) :=
  items.map fun item => (item.publicId, item.evidenceLevel (strongestVerifications verifications))

/-! ## Findings -/

inductive Importance where
  | attention
  | information
deriving DecidableEq

inductive SupportBasis where
  | coverageGaps
  | identityConflicts
  | activityRows
deriving DecidableEq

structure FindingSupport where
  activityPublicId : Text
  kind : ItemKind
  occurredAt : Option Text
  evidenceLevel : FindingLevel
deriving DecidableEq

/-- What the identifier of a finding is the digest of. -/
structure FindingSeed where
  ruleId : String
  key : Text
  affectedCount : Nat
  supportBasis : SupportBasis
  supportingActivityIds : List Text
  evidenceLevel : FindingLevel

structure Finding where
  publicId : Text
  ruleId : String
  category : String
  importance : Importance
  title : String
  explanation : String
  affectedCount : Nat
  supportBasis : SupportBasis
  supportingActivities : List FindingSupport
  supportTruncated : Bool
  evidenceLevel : FindingLevel
deriving DecidableEq

/-- The arguments a rule calls `_finding` with. -/
structure FindingDraft where
  ruleId : String
  key : Text
  category : String
  importance : Importance
  title : String
  explanation : String
  affectedCount : Nat
  supportBasis : SupportBasis
  activityIds : List Text
  evidenceLevelCap : Option FindingLevel

/-- `min` by score: the first of the least. -/
def weakestLevel : List FindingLevel → Option FindingLevel
  | [] => none
  | level :: levels =>
      some (levels.foldl (fun least level => if level.score < least.score then level else least)
        level)

/-- The items of a case and the level of each, by identifier. -/
structure FindingBasis where
  byId : List (Text × CaseItem)
  levels : List (Text × FindingLevel)

/-- The level of an activity that is an item. -/
def FindingBasis.levelOf (basis : FindingBasis) (activityId : Text) : Option FindingLevel :=
  if (basis.byId.lookup activityId).isSome then basis.levels.lookup activityId else none

def FindingBasis.support (basis : FindingBasis) (activityId : Text) : Option FindingSupport := do
  let item ← basis.byId.lookup activityId
  let level ← basis.levels.lookup activityId
  return ⟨activityId, item.kind, item.occurredAt, level⟩

/-- The level a rule gives its finding. -/
def FindingDraft.level (draft : FindingDraft) (basis : FindingBasis) (fallback : FindingLevel) :
    FindingLevel :=
  let ids := draft.activityIds.toFinset.sort (· ≤ ·)
  let level := (weakestLevel (ids.filterMap basis.levelOf)).getD fallback
  match draft.evidenceLevelCap with
  | none => level
  | some cap => if cap.score < level.score then cap else level

/-- `_finding`. -/
def caseFinding (digest : FindingSeed → Text) (basis : FindingBasis) (fallback : FindingLevel)
    (draft : FindingDraft) : Finding :=
  let ids := draft.activityIds.toFinset.sort (· ≤ ·)
  let supports := (ids.take maxSupportingActivities).filterMap basis.support
  let level := draft.level basis fallback
  { publicId := "finding_".toList ++ digest {
      ruleId := draft.ruleId
      key := draft.key
      affectedCount := draft.affectedCount
      supportBasis := draft.supportBasis
      supportingActivityIds := supports.map FindingSupport.activityPublicId
      evidenceLevel := level }
    ruleId := draft.ruleId
    category := draft.category
    importance := draft.importance
    title := draft.title
    explanation := draft.explanation
    affectedCount := draft.affectedCount
    supportBasis := draft.supportBasis
    supportingActivities := supports
    supportTruncated :=
      decide (draft.supportBasis = .activityRows ∧ supports.length < draft.affectedCount)
    evidenceLevel := level }

/-! ## Rules -/

/-- A finding of the coverage of a case, where it counts any. -/
def coverageGapsDraft (gaps : Nat) : FindingDraft where
  ruleId := "activity_coverage_gaps_v1"
  key := "coverage".toList
  category := "data_quality"
  importance := .attention
  title := "Activity coverage has recorded gaps"
  explanation := "The pinned revision contains unavailable, incomplete or unknown Activity " ++
    "scope. Missing rows are not treated as zero activity."
  affectedCount := gaps
  supportBasis := .coverageGaps
  activityIds := []
  evidenceLevelCap := none

def identityConflictsDraft (conflicts : Nat) : FindingDraft where
  ruleId := "activity_identity_conflicts_v1"
  key := "identity".toList
  category := "data_quality"
  importance := .attention
  title := "Conflicting Activity identities were withheld"
  explanation := "Rows sharing one revalidated identity but disagreeing on normalized " ++
    "semantics were omitted instead of being silently merged."
  affectedCount := conflicts
  supportBasis := .identityConflicts
  activityIds := []
  evidenceLevelCap := none

def failedTransactionsDraft (failedIds : List Text) (cap : FindingLevel) : FindingDraft where
  ruleId := "failed_transaction_observations_v1"
  key := "failed".toList
  category := "transaction_outcome"
  importance := .attention
  title := "Failed transaction observations"
  explanation := "Normalized transaction rows report a failed outcome. This is an " ++
    "observed outcome, not a risk or intent classification."
  affectedCount := failedIds.length
  supportBasis := .activityRows
  activityIds := failedIds
  evidenceLevelCap := some cap

def unavailableAssetsDraft (unavailable : Finset Text) : FindingDraft where
  ruleId := "unavailable_asset_identity_v1"
  key := "asset".toList
  category := "data_quality"
  importance := .attention
  title := "Some asset identities are unavailable"
  explanation := "These observations are excluded from asset-level aggregation because a " ++
    "canonical network and contract identity could not be revalidated."
  affectedCount := unavailable.card
  supportBasis := .activityRows
  activityIds := unavailable.sort (· ≤ ·)
  evidenceLevelCap := none

def unavailableCounterpartiesDraft (unavailable : Finset Text) : FindingDraft where
  ruleId := "unavailable_counterparty_identity_v1"
  key := "counterparty".toList
  category := "data_quality"
  importance := .information
  title := "Some counterparty identities are unavailable"
  explanation := "Transfer observations without a canonical counterparty remain visible in " ++
    "Activity but are excluded from counterparty grouping."
  affectedCount := unavailable.card
  supportBasis := .activityRows
  activityIds := unavailable.sort (· ≤ ·)
  evidenceLevelCap := none

def repeatedCounterpartyDraft (group : CounterpartyFlow) : FindingDraft where
  ruleId := "repeated_counterparty_observations_v1"
  key := group.canonicalAddress
  category := "flow_pattern"
  importance := .information
  title := "Repeated counterparty observations"
  explanation := toString group.observations.total ++
    " transfer observations reference the same canonical counterparty. " ++
    "This does not establish ownership, control or a relationship."
  affectedCount := group.observations.total
  supportBasis := .activityRows
  activityIds := group.supportingActivityIds
  evidenceLevelCap := none

/-- `group["label"] or group["protocol_id"]`. -/
def FlowProtocol.displayLabel (protocol : FlowProtocol) : Text :=
  match protocol.label with
  | none | some [] => protocol.protocolId
  | some label => label

def recognizedProtocolDraft (group : ProtocolFlow) : FindingDraft where
  ruleId := "recognized_protocol_observations_v1"
  key := group.protocol.protocolId
  category := "flow_pattern"
  importance := .information
  title := "Recognized protocol observations: " ++ String.ofList group.protocol.displayLabel
  explanation := toString group.swapObservations ++ " swap observation" ++
    (if group.swapObservations = 1 then "" else "s") ++ " were decoded with the " ++
    "published protocol registry identity. This is not a protocol endorsement."
  affectedCount := group.swapObservations
  supportBasis := .activityRows
  activityIds := group.supportingActivityIds
  evidenceLevelCap := none

/-- `item["kind"] == "transaction" and item["outcome"] == "failed"`. -/
def CaseItem.failed (item : CaseItem) : Bool :=
  match item.body with
  | .transaction failed => failed
  | _ => false

def repeatedGroups (state : FlowState) : List CounterpartyFlow :=
  state.counterpartyGroups.filter fun group => 2 ≤ group.observations.total

/-- The rules that apply, in the order of the source. -/
def findingDrafts (items : List CaseItem) (conflictedIdentityCount gaps : Nat) (demo : Bool)
    (state : FlowState) : List FindingDraft :=
  let failedIds := ((items.filter CaseItem.failed).map CaseItem.publicId).mergeSort (· ≤ ·)
  (if gaps = 0 then [] else [coverageGapsDraft gaps]) ++
  (if conflictedIdentityCount = 0 then [] else [identityConflictsDraft conflictedIdentityCount]) ++
  (if failedIds = [] then [] else [failedTransactionsDraft failedIds (baseLevel demo)]) ++
  (if state.unavailableAssetIds = ∅ then []
    else [unavailableAssetsDraft state.unavailableAssetIds]) ++
  (if state.unavailableCounterpartyIds = ∅ then []
    else [unavailableCounterpartiesDraft state.unavailableCounterpartyIds]) ++
  ((repeatedGroups state).take maxPatternFindings).map repeatedCounterpartyDraft ++
  (state.protocolGroups.take maxPatternFindings).map recognizedProtocolDraft

/-- The findings that need attention first, by identifier. -/
def Finding.sortKey (finding : Finding) : Bool ×ₗ Text :=
  toLex (decide (finding.importance ≠ .attention), finding.publicId)

/-- `_findings`. -/
def caseFindings (digest : FindingSeed → Text) (items : List CaseItem)
    (conflictedIdentityCount gaps : Nat) (levels : List (Text × FindingLevel)) (demo : Bool)
    (state : FlowState) : List Finding :=
  let basis : FindingBasis := ⟨items.map fun item => (item.publicId, item), levels⟩
  let drafts := findingDrafts items conflictedIdentityCount gaps demo state
  KeySort.sortBy (fun a b => decide (a ≤ b)) Finding.sortKey
    (drafts.map (caseFinding digest basis (baseLevel demo)))

/-! ## One revision -/

/-- An activity result with the evidence catalog of its snapshot: one item for
each identity, all of the origin of the case, and verifications of its
transactions only. -/
structure CaseRevision where
  items : List CaseItem
  conflictedIdentityCount : Nat
  gaps : Nat
  demo : Bool
  verifications : List EvidenceVerification
  distinct : (items.map CaseItem.publicId).Nodup
  origins : ∀ item ∈ items, item.demoFixture = demo
  verified : ∀ row ∈ verifications, ∃ item ∈ items,
    item.publicId = row.activityPublicId ∧ item.kind = .transaction

/-- The same result, its items in another order. -/
def CaseRevision.reorder (revision : CaseRevision) (items : List CaseItem)
    (h : revision.items.Perm items) : CaseRevision where
  items := items
  conflictedIdentityCount := revision.conflictedIdentityCount
  gaps := revision.gaps
  demo := revision.demo
  verifications := revision.verifications
  distinct := (h.map CaseItem.publicId).nodup_iff.mp revision.distinct
  origins := fun item hitem => revision.origins item (h.mem_iff.mpr hitem)
  verified := fun row hrow =>
    let ⟨item, hitem, hid⟩ := revision.verified row hrow
    ⟨item, h.mem_iff.mp hitem, hid⟩

def CaseRevision.findings (digest : FindingSeed → Text) (revision : CaseRevision) : List Finding :=
  caseFindings digest revision.items revision.conflictedIdentityCount revision.gaps
    (evidenceLevels revision.items revision.verifications) revision.demo (flowState revision.items)

/-- The flows and the findings of `build`. -/
def CaseRevision.build (digest : FindingSeed → Text) (decimal : Text → Option ℚ)
    (revision : CaseRevision) : Except ContextDecimal.Signal (CaseFlows × List Finding) := do
  let levels := evidenceLevels revision.items revision.verifications
  let (flows, state) ← flowSummary decimal revision.items
  return (flows, caseFindings digest revision.items revision.conflictedIdentityCount revision.gaps
    levels revision.demo state)

end TonTracker
