/-
# `Findings.EvidenceLevels` — the evidence level of a finding

A finding has the weakest level of the items it counts as affected, the
finding of failed transactions none above the base level of the case, and the
findings are, but for the label in the title of a protocol, the same in every
order of the items (`finding_levels_weakest`).  A rule that passes on a cut
list of supports is about transfers or swaps, which have the base level.
-/
import TonTracker.Findings.FlowsExact

namespace TonTracker

open Groups (collect collect_concat valuesOf keysOf)

variable {items items' : List CaseItem} {revision : CaseRevision} {item : CaseItem}

/-! ## What a finding is about -/

inductive FindingTopic where
  | coverage
  | identities
  | failed
  | assets
  | counterparties
  | counterparty (address : Text)
  | protocol (protocolId : Text)
deriving DecidableEq

def FindingTopic.ruleId : FindingTopic → String
  | .coverage => "activity_coverage_gaps_v1"
  | .identities => "activity_identity_conflicts_v1"
  | .failed => "failed_transaction_observations_v1"
  | .assets => "unavailable_asset_identity_v1"
  | .counterparties => "unavailable_counterparty_identity_v1"
  | .counterparty _ => "repeated_counterparty_observations_v1"
  | .protocol _ => "recognized_protocol_observations_v1"

/-- An item the finding counts. -/
def FindingTopic.affects (topic : FindingTopic) (item : CaseItem) : Bool :=
  match topic with
  | .coverage | .identities => false
  | .failed => item.failed
  | .assets => item.assetUnavailable
  | .counterparties => item.counterpartyUnavailable
  | .counterparty address => (counterpartyObservation item).any fun o => o.1 = address
  | .protocol protocolId => (protocolObservation item).any fun o => o.1 = protocolId

def CaseRevision.affected (revision : CaseRevision) (topic : FindingTopic) : List CaseItem :=
  revision.items.filter topic.affects

def CaseRevision.levelOf (revision : CaseRevision) (item : CaseItem) : FindingLevel :=
  item.evidenceLevel (strongestVerifications revision.verifications)

/-- The levels of the items affected, all of them. -/
def CaseRevision.affectedLevels (revision : CaseRevision) (topic : FindingTopic) :
    List FindingLevel :=
  (revision.affected topic).map revision.levelOf

/-- What a finding counts: gaps, withheld identities or items. -/
def CaseRevision.affectedCount (revision : CaseRevision) (topic : FindingTopic) : Nat :=
  match topic with
  | .coverage => revision.gaps
  | .identities => revision.conflictedIdentityCount
  | _ => (revision.affected topic).length

/-- A level of the list, and none of the list below it. -/
def IsWeakest (levels : List FindingLevel) (level : FindingLevel) : Prop :=
  level ∈ levels ∧ ∀ other ∈ levels, level.score ≤ other.score

/-- The level a finding has to have. -/
def CaseRevision.HasLevel (revision : CaseRevision) (topic : FindingTopic)
    (level : FindingLevel) : Prop :=
  match topic with
  | .coverage | .identities => level = baseLevel revision.demo
  | .failed => IsWeakest (baseLevel revision.demo :: revision.affectedLevels topic) level
  | _ => IsWeakest (revision.affectedLevels topic) level

/-- A finding of a topic: its count, its level, and supports that are among
the items it counts. -/
structure CaseRevision.Reports (revision : CaseRevision) (topic : FindingTopic)
    (finding : Finding) : Prop where
  rule : finding.ruleId = topic.ruleId
  count : finding.affectedCount = revision.affectedCount topic
  level : revision.HasLevel topic finding.evidenceLevel
  supports : ∀ support ∈ finding.supportingActivities,
    ∃ item ∈ revision.affected topic, item.publicId = support.activityPublicId

/-- The finding, but for the title of one of a protocol. -/
def Finding.withoutLabel (finding : Finding) : Finding :=
  if finding.ruleId = "recognized_protocol_observations_v1" then { finding with title := "" }
  else finding

/-! ## Groups -/

theorem toFinset_concat (ids : List Text) (id : Text) :
    (ids ++ [id]).toFinset = insert id ids.toFinset := by
  ext other
  simp

theorem collect_addCounterparty (values : List (ItemDirection × Text)) :
    collect addCounterparty values = values.head?.map fun _ =>
      ⟨countsOf (values.map (·.1)), (values.map (·.2)).toFinset⟩ := by
  induction values using List.reverseRecOn with
  | nil => rfl
  | append_singleton values o ih =>
      rw [collect_concat, ih, List.map_append, List.map_append, List.map_singleton,
        List.map_singleton, ← observe_countsOf, toFinset_concat]
      cases values <;> rfl

theorem collect_addProtocol (values : List (FlowProtocol × Text)) :
    collect addProtocol values = values.head?.map fun first =>
      ⟨first.1, values.length, (values.map (·.2)).toFinset⟩ := by
  induction values using List.reverseRecOn with
  | nil => rfl
  | append_singleton values o ih =>
      rw [collect_concat, ih, List.map_append, List.map_singleton, toFinset_concat,
        List.length_append, List.length_singleton]
      cases values <;> rfl

/-- The items observed with a key, in order. -/
theorem map_valuesOf {β : Type} {observe : CaseItem → Option (Text × β)} {id : β → Text}
    (hid : ∀ item o, observe item = some o → id o.2 = item.publicId) (items : List CaseItem)
    (key : Text) : (valuesOf (items.filterMap observe) key).map id =
      (items.filter fun item => (observe item).any fun o => o.1 = key).map CaseItem.publicId := by
  induction items with
  | nil => rfl
  | cons item items ih =>
      rw [List.filterMap_cons, List.filter_cons]
      cases hobserve : observe item with
      | none => simpa using ih
      | some o =>
          obtain ⟨k, b⟩ := o
          have hb := hid item _ hobserve
          unfold valuesOf at ih ⊢
          rw [List.filterMap_cons]
          by_cases hk : k = key
          · simpa [hk, hb] using ih
          · simpa [hk] using ih

theorem counterpartyObservation_id (item : CaseItem) (o : Text × ItemDirection × Text)
    (h : counterpartyObservation item = some o) : o.2.2 = item.publicId := by
  unfold counterpartyObservation at h
  split at h
  · cases h
    rfl
  · cases h

theorem protocolObservation_id (item : CaseItem) (o : Text × FlowProtocol × Text)
    (h : protocolObservation item = some o) : o.2.2 = item.publicId := by
  unfold protocolObservation at h
  split at h
  · cases h
    rfl
  · cases h

theorem protocolObservation_key (item : CaseItem) (o : Text × FlowProtocol × Text)
    (h : protocolObservation item = some o) : o.1 = o.2.1.protocolId := by
  unfold protocolObservation at h
  split at h
  · cases h
    rfl
  · cases h

theorem total_countsOf (directions : List ItemDirection) :
    (countsOf directions).total = directions.length := by
  induction directions with
  | nil => rfl
  | cons direction directions ih =>
      unfold countsOf DirectionCounts.total at ih ⊢
      dsimp only at ih ⊢
      cases direction <;> simp <;> omega

/-- The group of an address, and the transfers it counts. -/
theorem counterparty_group {address : Text} {group : CounterpartyGroup}
    (h : (address, group) ∈ counterpartyGroups revision.items) :
    group.observations.total = (revision.affected (.counterparty address)).length ∧
      group.support = ((revision.affected (.counterparty address)).map
        CaseItem.publicId).toFinset ∧
      revision.affected (.counterparty address) ≠ [] := by
  have hcollect := Groups.mem_foldl_upsert.mp h
  rw [collect_addCounterparty] at hcollect
  obtain ⟨first, hfirst, rfl⟩ := Option.map_eq_some_iff.mp hcollect
  have hids := map_valuesOf counterpartyObservation_id revision.items address
  have hlength := congrArg List.length hids
  rw [List.length_map, List.length_map] at hlength
  refine ⟨?_, congrArg List.toFinset hids, fun hnil => ?_⟩
  · rw [total_countsOf, List.length_map]
    exact hlength
  · rw [List.length_eq_zero_iff.mp (hlength.trans (congrArg List.length hnil))] at hfirst
    cases hfirst

theorem protocol_key {key : Text} {group : ProtocolGroup}
    (h : (key, group) ∈ protocolGroups items) : group.protocol.protocolId = key := by
  have hcollect := Groups.mem_foldl_upsert.mp h
  rw [collect_addProtocol] at hcollect
  obtain ⟨first, hfirst, rfl⟩ := Option.map_eq_some_iff.mp hcollect
  have hmem := Groups.mem_valuesOf.mp (List.mem_of_head? hfirst)
  obtain ⟨item, -, hitem⟩ := List.mem_filterMap.mp hmem
  exact (protocolObservation_key item _ hitem).symm

theorem protocol_group {key : Text} {group : ProtocolGroup}
    (h : (key, group) ∈ protocolGroups revision.items) :
    group.swapObservations = (revision.affected (.protocol key)).length ∧
      group.support = ((revision.affected (.protocol key)).map CaseItem.publicId).toFinset ∧
      revision.affected (.protocol key) ≠ [] := by
  have hcollect := Groups.mem_foldl_upsert.mp h
  rw [collect_addProtocol] at hcollect
  obtain ⟨first, hfirst, rfl⟩ := Option.map_eq_some_iff.mp hcollect
  have hids := map_valuesOf protocolObservation_id revision.items key
  have hlength := congrArg List.length hids
  rw [List.length_map, List.length_map] at hlength
  refine ⟨hlength, congrArg List.toFinset hids, fun hnil => ?_⟩
  rw [List.length_eq_zero_iff.mp (hlength.trans (congrArg List.length hnil))] at hfirst
  cases hfirst

/-! ## Levels -/

theorem lookup_map {β : Type} {f : CaseItem → β} {id : Text} {b : β}
    (distinct : (items.map CaseItem.publicId).Nodup) :
    (items.map fun item => (item.publicId, f item)).lookup id = some b ↔
      ∃ item ∈ items, item.publicId = id ∧ f item = b := by
  induction items with
  | nil => simp
  | cons item items ih =>
      obtain ⟨hnot, distinct⟩ := List.nodup_cons.mp distinct
      rw [List.map_cons, List.lookup_cons]
      split
      · next heq =>
          have hid : id = item.publicId := eq_of_beq heq
          subst hid
          simp only [Option.some.injEq, List.exists_mem_cons_iff, true_and]
          constructor
          · exact .inl
          · rintro (h | ⟨other, hother, hid, -⟩)
            · exact h
            · exact absurd (List.mem_map.mpr ⟨other, hother, hid⟩) hnot
      · next hne =>
          have hid : ¬ item.publicId = id := fun h => by simp [h] at hne
          rw [ih distinct, List.exists_mem_cons_iff]
          simp [hid]

/-- What a rule reads of the revision. -/
def CaseRevision.basis (revision : CaseRevision) : FindingBasis :=
  ⟨revision.items.map fun item => (item.publicId, item),
    evidenceLevels revision.items revision.verifications⟩

theorem levelOf_eq_some {id : Text} {level : FindingLevel} :
    revision.basis.levelOf id = some level ↔
      ∃ item ∈ revision.items, item.publicId = id ∧ revision.levelOf item = level := by
  unfold FindingBasis.levelOf CaseRevision.basis evidenceLevels
  dsimp only
  split
  · exact lookup_map revision.distinct
  · next hnone =>
      refine iff_of_false (fun h => nomatch h) ?_
      rintro ⟨item, hitem, rfl, -⟩
      have hfound : (revision.items.map fun item => (item.publicId, item)).lookup item.publicId =
          some item := (lookup_map revision.distinct).mpr ⟨item, hitem, rfl, rfl⟩
      rw [hfound] at hnone
      exact hnone rfl

theorem isWeakest_congr {levels levels' : List FindingLevel} {level : FindingLevel}
    (h : ∀ other, other ∈ levels ↔ other ∈ levels') :
    IsWeakest levels level ↔ IsWeakest levels' level := by
  unfold IsWeakest
  simp only [h]

theorem isWeakest_foldl (levels : List FindingLevel) (level : FindingLevel) :
    IsWeakest (level :: levels)
      (levels.foldl (fun least level => if level.score < least.score then level else least)
        level) := by
  induction levels generalizing level with
  | nil => exact ⟨List.mem_cons_self, fun other h =>
      Nat.le_of_eq (congrArg FindingLevel.score (List.mem_singleton.mp h).symm)⟩
  | cons next levels ih =>
      rw [List.foldl_cons]
      split
      · next hlt =>
          obtain ⟨hmem, hle⟩ := ih next
          refine ⟨List.mem_cons_of_mem _ hmem, fun other hother => ?_⟩
          obtain rfl | hother := List.mem_cons.mp hother
          · exact Nat.le_trans (hle next List.mem_cons_self) (Nat.le_of_lt hlt)
          · exact hle other hother
      · next hge =>
          obtain ⟨hmem, hle⟩ := ih level
          have hfirst := hle level List.mem_cons_self
          refine ⟨?_, fun other hother => ?_⟩
          · obtain heq | hmem := List.mem_cons.mp hmem
            · rw [heq]
              exact List.mem_cons_self
            · exact List.mem_cons_of_mem _ (List.mem_cons_of_mem _ hmem)
          · obtain rfl | hother := List.mem_cons.mp hother
            · exact hfirst
            · obtain rfl | hother := List.mem_cons.mp hother
              · exact Nat.le_trans hfirst (Nat.le_of_not_lt hge)
              · exact hle other (List.mem_cons_of_mem _ hother)

/-- The level of the rule, before its cap. -/
theorem isWeakest_weakestLevel {levels : List FindingLevel} {fallback : FindingLevel}
    (hne : levels ≠ []) : IsWeakest levels ((weakestLevel levels).getD fallback) := by
  cases levels with
  | nil => exact absurd rfl hne
  | cons level levels => exact isWeakest_foldl levels level

/-- A rule that reads some items gives the weakest of their levels, under its
cap. -/
theorem level_of_items {draft : FindingDraft} (fallback : FindingLevel) {chosen : List CaseItem}
    (hsub : ∀ item ∈ chosen, item ∈ revision.items)
    (hids : ∀ id, id ∈ draft.activityIds ↔ id ∈ chosen.map CaseItem.publicId)
    (hne : chosen ≠ []) :
    IsWeakest (draft.evidenceLevelCap.toList ++ chosen.map revision.levelOf)
      (draft.level revision.basis fallback) := by
  have hmem : ∀ other,
      other ∈ (draft.activityIds.toFinset.sort (· ≤ ·)).filterMap revision.basis.levelOf ↔
        other ∈ chosen.map revision.levelOf := by
    intro other
    rw [List.mem_filterMap, List.mem_map]
    constructor
    · rintro ⟨id, hid, hlevel⟩
      rw [Finset.mem_sort, List.mem_toFinset, hids] at hid
      obtain ⟨item, hitem, hid⟩ := List.mem_map.mp hid
      obtain ⟨found, hfound, hfoundId, hlevel⟩ := levelOf_eq_some.mp hlevel
      have hsame : found = item := List.inj_on_of_nodup_map revision.distinct hfound
        (hsub item hitem) (hfoundId.trans hid.symm)
      exact ⟨item, hitem, hsame ▸ hlevel⟩
    · rintro ⟨item, hitem, rfl⟩
      refine ⟨item.publicId, ?_, levelOf_eq_some.mpr ⟨item, hsub item hitem, rfl, rfl⟩⟩
      rw [Finset.mem_sort, List.mem_toFinset, hids]
      exact List.mem_map_of_mem hitem
  have hweakest : IsWeakest (chosen.map revision.levelOf)
      ((weakestLevel ((draft.activityIds.toFinset.sort (· ≤ ·)).filterMap
        revision.basis.levelOf)).getD fallback) := by
    refine (isWeakest_congr hmem).mp (isWeakest_weakestLevel fun hnil => ?_)
    obtain ⟨item, hitem⟩ := List.exists_mem_of_ne_nil chosen hne
    have := (hmem _).mpr (List.mem_map_of_mem hitem)
    rw [hnil] at this
    cases this
  unfold FindingDraft.level
  cases draft.evidenceLevelCap with
  | none => exact hweakest
  | some cap =>
      obtain ⟨hin, hle⟩ := hweakest
      dsimp only
      split
      · next hlt =>
          refine ⟨List.mem_cons_self, fun other hother => ?_⟩
          obtain rfl | hother := List.mem_cons.mp hother
          · exact Nat.le_refl _
          · exact Nat.le_trans (Nat.le_of_lt hlt) (hle other hother)
      · next hge =>
          refine ⟨List.mem_cons_of_mem _ hin, fun other hother => ?_⟩
          obtain rfl | hother := List.mem_cons.mp hother
          · exact Nat.le_of_not_lt hge
          · exact hle other hother

/-- Only a transaction has a verification. -/
theorem levelOf_of_not_transaction (hitem : item ∈ revision.items)
    (hkind : item.kind ≠ .transaction) : revision.levelOf item = baseLevel revision.demo := by
  have hlookup : (strongestVerifications revision.verifications).lookup item.publicId = none := by
    rw [List.lookup_eq_none_iff]
    rintro ⟨id, row⟩ hmem
    rw [bne_iff_ne]
    rintro rfl
    have hcollect := Groups.mem_foldl_upsert.mp hmem
    obtain ⟨first, hfirst⟩ : ∃ first, first ∈ valuesOf
        (revision.verifications.map fun row => (row.activityPublicId, row)) item.publicId := by
      refine List.exists_mem_of_ne_nil _ fun hnil => ?_
      rw [hnil] at hcollect
      cases hcollect
    obtain ⟨found, hfound, heq⟩ := List.mem_map.mp (Groups.mem_valuesOf.mp hfirst)
    obtain ⟨other, hother, hid, hkind'⟩ := revision.verified found hfound
    have hsame : other = item := List.inj_on_of_nodup_map revision.distinct hother hitem
      (hid.trans (congrArg Prod.fst heq))
    exact hkind (hsame ▸ hkind')
  unfold CaseRevision.levelOf CaseItem.evidenceLevel
  rw [hlookup, revision.origins item hitem]

theorem not_transaction {topic : FindingTopic} (hfailed : topic ≠ .failed)
    (h : topic.affects item = true) : item.kind ≠ .transaction := by
  intro hkind
  unfold CaseItem.kind at hkind
  cases hbody : item.body with
  | transfer asset direction amount counterparty =>
      rw [hbody] at hkind
      cases hkind
  | swap inputAsset amountIn outputAsset amountOut protocol =>
      rw [hbody] at hkind
      cases hkind
  | transaction failed =>
      cases topic <;>
        simp_all [FindingTopic.affects, CaseItem.assetUnavailable, CaseItem.counterpartyUnavailable,
          counterpartyObservation, protocolObservation]

/-! ## Rules -/

/-- A rule of a topic. -/
structure CaseRevision.Draws (revision : CaseRevision) (topic : FindingTopic)
    (draft : FindingDraft) : Prop where
  rule : draft.ruleId = topic.ruleId
  count : draft.affectedCount = revision.affectedCount topic
  ids : ∀ id ∈ draft.activityIds, id ∈ (revision.affected topic).map CaseItem.publicId
  level : revision.HasLevel topic (draft.level revision.basis (baseLevel revision.demo))

theorem mem_items_of_affected {topic : FindingTopic} (h : item ∈ revision.affected topic) :
    item ∈ revision.items := List.mem_of_mem_filter h

theorem IsWeakest.eq_of_forall {levels : List FindingLevel} {level base : FindingLevel}
    (h : IsWeakest levels level) (hall : ∀ other ∈ levels, other = base) : level = base :=
  hall level h.1

/-- A rule about transfers or swaps, whatever part of its supports it reads. -/
theorem level_of_flow {topic : FindingTopic} {draft : FindingDraft}
    (hfailed : topic ≠ .failed) (hcap : draft.evidenceLevelCap = none)
    (hids : ∀ id ∈ draft.activityIds, id ∈ (revision.affected topic).map CaseItem.publicId)
    (hne : draft.activityIds ≠ []) :
    IsWeakest (revision.affectedLevels topic)
      (draft.level revision.basis (baseLevel revision.demo)) := by
  have hbase : ∀ item ∈ revision.affected topic,
      revision.levelOf item = baseLevel revision.demo := fun item hitem =>
    levelOf_of_not_transaction (mem_items_of_affected hitem)
      (not_transaction hfailed (List.mem_filter.mp hitem).2)
  have hchosen : ∀ id, id ∈ draft.activityIds ↔ id ∈ ((revision.affected topic).filter fun item =>
      item.publicId ∈ draft.activityIds).map CaseItem.publicId := by
    intro id
    rw [List.mem_map]
    constructor
    · intro hid
      obtain ⟨item, hitem, rfl⟩ := List.mem_map.mp (hids id hid)
      exact ⟨item, List.mem_filter.mpr ⟨hitem, decide_eq_true hid⟩, rfl⟩
    · rintro ⟨item, hitem, rfl⟩
      exact of_decide_eq_true (List.mem_filter.mp hitem).2
  obtain ⟨id, hid⟩ := List.exists_mem_of_ne_nil _ hne
  obtain ⟨item, hitem, -⟩ := List.mem_map.mp (hids id hid)
  have hlevel : draft.level revision.basis (baseLevel revision.demo) = baseLevel revision.demo := by
    have hweakest := level_of_items (baseLevel revision.demo)
      (fun item hitem => mem_items_of_affected (List.mem_of_mem_filter hitem)) hchosen
      (fun hnil => by
        have hmem := (hchosen id).mp hid
        rw [hnil] at hmem
        cases hmem)
    rw [hcap] at hweakest
    refine hweakest.eq_of_forall fun other hother => ?_
    obtain ⟨item, hitem, rfl⟩ := List.mem_map.mp hother
    exact hbase item (List.mem_of_mem_filter hitem)
  rw [hlevel]
  refine ⟨List.mem_map.mpr ⟨item, hitem, hbase item hitem⟩, fun other hother => ?_⟩
  obtain ⟨item, hitem, rfl⟩ := List.mem_map.mp hother
  rw [hbase item hitem]

theorem listedSupport_ne_nil {support : Finset Text} (h : support ≠ ∅) :
    listedSupport support ≠ [] := by
  unfold listedSupport
  rw [Ne, List.take_eq_nil_iff, not_or]
  refine ⟨by decide, fun hnil => h ?_⟩
  rw [← Finset.sort_toFinset support (· ≤ ·), hnil, List.toFinset_nil]

theorem mem_of_mem_listedSupport {support : Finset Text} {id : Text}
    (h : id ∈ listedSupport support) : id ∈ support :=
  (Finset.mem_sort _).mp (List.mem_of_mem_take h)

theorem draws_repeated {group : CounterpartyFlow}
    (h : group ∈ counterpartyRows revision.items) :
    revision.Draws (.counterparty group.canonicalAddress) (repeatedCounterpartyDraft group) := by
  obtain ⟨⟨address, found⟩, hfound, rfl⟩ :=
    List.mem_map.mp ((KeySort.sortBy_perm _ _ _).mem_iff.mp h)
  obtain ⟨hcount, hsupport, hne⟩ := counterparty_group hfound
  have hids : ∀ id ∈ listedSupport found.support,
      id ∈ (revision.affected (.counterparty address)).map CaseItem.publicId := fun id hid =>
    List.mem_toFinset.mp (hsupport ▸ mem_of_mem_listedSupport hid)
  refine ⟨rfl, hcount, hids, level_of_flow (fun h => nomatch h) rfl hids ?_⟩
  refine listedSupport_ne_nil ?_
  rw [hsupport, Ne, List.toFinset_eq_empty_iff, List.map_eq_nil_iff]
  exact hne

theorem draws_recognized {group : ProtocolFlow} (h : group ∈ protocolRows revision.items) :
    revision.Draws (.protocol group.protocol.protocolId) (recognizedProtocolDraft group) := by
  obtain ⟨⟨key, found⟩, hfound, rfl⟩ :=
    List.mem_map.mp ((KeySort.sortBy_perm _ _ _).mem_iff.mp h)
  obtain ⟨hcount, hsupport, hne⟩ := protocol_group hfound
  have hids : ∀ id ∈ listedSupport found.support,
      id ∈ (revision.affected (.protocol key)).map CaseItem.publicId := fun id hid =>
    List.mem_toFinset.mp (hsupport ▸ mem_of_mem_listedSupport hid)
  rw [show (protocolFlow (key, found)).protocol.protocolId = key from protocol_key hfound]
  refine ⟨rfl, hcount, hids, level_of_flow (fun h => nomatch h) rfl hids ?_⟩
  refine listedSupport_ne_nil ?_
  rw [hsupport, Ne, List.toFinset_eq_empty_iff, List.map_eq_nil_iff]
  exact hne

/-- The identifiers of the items a topic affects. -/
theorem length_affected (topic : FindingTopic) :
    (idsWhere topic.affects revision.items).card = (revision.affected topic).length := by
  unfold idsWhere CaseRevision.affected
  rw [List.toFinset_card_of_nodup, List.length_map]
  exact revision.distinct.sublist (List.filter_sublist.map _)

theorem draws_unavailable {topic : FindingTopic} {draft : FindingDraft}
    (hfailed : topic ≠ .failed) (hcap : draft.evidenceLevelCap = none)
    (hrule : draft.ruleId = topic.ruleId)
    (hcount : draft.affectedCount = (idsWhere topic.affects revision.items).card)
    (hids : draft.activityIds = (idsWhere topic.affects revision.items).sort (· ≤ ·))
    (hne : idsWhere topic.affects revision.items ≠ ∅)
    (htopic : topic = .assets ∨ topic = .counterparties) : revision.Draws topic draft := by
  have hmem : ∀ id ∈ draft.activityIds, id ∈ (revision.affected topic).map CaseItem.publicId := by
    intro id hid
    rw [hids, Finset.mem_sort] at hid
    exact List.mem_toFinset.mp hid
  have hlevel := level_of_flow hfailed hcap hmem (fun hnil => hne (by
    rw [hids] at hnil
    rw [← Finset.sort_toFinset (idsWhere topic.affects revision.items) (· ≤ ·), hnil,
      List.toFinset_nil]))
  rw [length_affected] at hcount
  obtain rfl | rfl := htopic
  · exact ⟨hrule, hcount, hmem, hlevel⟩
  · exact ⟨hrule, hcount, hmem, hlevel⟩

theorem draws_failed (h : (revision.affected .failed) ≠ []) :
    revision.Draws .failed (failedTransactionsDraft
      (((revision.items.filter CaseItem.failed).map CaseItem.publicId).mergeSort (· ≤ ·))
      (baseLevel revision.demo)) := by
  have hids : ∀ id, id ∈ ((revision.items.filter CaseItem.failed).map
      CaseItem.publicId).mergeSort (· ≤ ·) ↔
        id ∈ (revision.affected .failed).map CaseItem.publicId := fun id =>
    (List.mergeSort_perm _ _).mem_iff
  refine ⟨rfl, ?_, fun id hid => (hids id).mp hid, ?_⟩
  · exact (List.length_mergeSort _).trans (List.length_map _)
  · exact level_of_items (baseLevel revision.demo) (fun item => mem_items_of_affected) hids h

/-- Without items, the level is the base level. -/
theorem level_of_no_items {draft : FindingDraft} (hids : draft.activityIds = [])
    (hcap : draft.evidenceLevelCap = none) :
    draft.level revision.basis (baseLevel revision.demo) = baseLevel revision.demo := by
  unfold FindingDraft.level
  rw [hids, hcap, List.toFinset_nil, Finset.sort_empty]
  rfl

/-- Every rule that applies draws a topic. -/
theorem draws_of_mem {draft : FindingDraft}
    (h : draft ∈ findingDrafts revision.items revision.conflictedIdentityCount revision.gaps
      revision.demo (flowState revision.items)) :
    ∃ topic, revision.Draws topic draft := by
  unfold findingDrafts at h
  simp only [List.mem_append] at h
  obtain (((((hgaps | hconflicts) | hfailed) | hassets) | hcounterparties) | hrepeated) |
    hrecognized := h
  · split at hgaps
    · cases hgaps
    · cases List.mem_singleton.mp hgaps
      exact ⟨.coverage, rfl, rfl, fun _ hid => absurd hid List.not_mem_nil,
        level_of_no_items rfl rfl⟩
  · split at hconflicts
    · cases hconflicts
    · cases List.mem_singleton.mp hconflicts
      exact ⟨.identities, rfl, rfl, fun _ hid => absurd hid List.not_mem_nil,
        level_of_no_items rfl rfl⟩
  · split at hfailed
    · cases hfailed
    · next hne =>
        cases List.mem_singleton.mp hfailed
        refine ⟨.failed, draws_failed fun hnil => hne ?_⟩
        rw [show revision.items.filter CaseItem.failed = [] from hnil, List.map_nil,
          List.mergeSort_nil]
  · split at hassets
    · cases hassets
    · next hne =>
        cases List.mem_singleton.mp hassets
        exact ⟨.assets, draws_unavailable (fun h => nomatch h) rfl rfl rfl rfl hne (.inl rfl)⟩
  · split at hcounterparties
    · cases hcounterparties
    · next hne =>
        cases List.mem_singleton.mp hcounterparties
        exact ⟨.counterparties,
          draws_unavailable (fun h => nomatch h) rfl rfl rfl rfl hne (.inr rfl)⟩
  · obtain ⟨group, hgroup, rfl⟩ := List.mem_map.mp hrepeated
    exact ⟨_, draws_repeated (List.mem_of_mem_filter (List.mem_of_mem_take hgroup))⟩
  · obtain ⟨group, hgroup, rfl⟩ := List.mem_map.mp hrecognized
    exact ⟨_, draws_recognized (List.mem_of_mem_take hgroup)⟩

theorem reports_of_draws {digest : FindingSeed → Text} {topic : FindingTopic}
    {draft : FindingDraft} (h : revision.Draws topic draft) :
    revision.Reports topic (caseFinding digest revision.basis (baseLevel revision.demo) draft) := by
  refine ⟨h.rule, h.count, h.level, fun support hsupport => ?_⟩
  obtain ⟨id, hid, hsupport⟩ := List.mem_filterMap.mp hsupport
  have hmem := (Finset.mem_sort _).mp (List.mem_of_mem_take hid)
  have hlisted := h.ids id (List.mem_toFinset.mp hmem)
  obtain ⟨item, hitem, rfl⟩ := List.mem_map.mp hlisted
  refine ⟨item, hitem, ?_⟩
  unfold FindingBasis.support at hsupport
  obtain ⟨found, -, hsupport⟩ := Option.bind_eq_some_iff.mp hsupport
  obtain ⟨level, -, hsupport⟩ := Option.bind_eq_some_iff.mp hsupport
  cases hsupport
  rfl

theorem reports_of_mem {digest : FindingSeed → Text} {finding : Finding}
    (h : finding ∈ revision.findings digest) : ∃ topic, revision.Reports topic finding := by
  unfold CaseRevision.findings caseFindings at h
  obtain ⟨draft, hdraft, rfl⟩ := List.mem_map.mp ((KeySort.sortBy_perm _ _ _).mem_iff.mp h)
  obtain ⟨topic, htopic⟩ := draws_of_mem hdraft
  exact ⟨topic, reports_of_draws htopic⟩

/-! ## Every order -/

variable {revision' : CaseRevision}

theorem idsWhere_perm (test : CaseItem → Bool) (h : items.Perm items') :
    idsWhere test items = idsWhere test items' :=
  List.toFinset_eq_of_perm _ _ ((h.filter test).map CaseItem.publicId)

theorem head?_map_const {α β : Type} {l l' : List α} (h : l.Perm l') (b : β) :
    (l.head?.map fun _ => b) = l'.head?.map fun _ => b := by
  have hlength := h.length_eq
  cases l <;> cases l' <;> simp_all

theorem counterpartyRows_perm (h : items.Perm items') :
    counterpartyRows items = counterpartyRows items' := by
  refine KeySort.sort_perm_of_nodup KeySort.order_le ?_ (Groups.map_groups_perm (h.filterMap _) ?_)
  · refine List.Nodup.of_map (fun key => (ofLex key).2) ?_
    rw [List.map_map, List.map_map]
    exact Groups.nodup_foldl_upsert (items.filterMap counterpartyObservation)
  · intro address
    have hvalues := Groups.valuesOf_perm (h.filterMap counterpartyObservation) address
    rw [collect_addCounterparty, collect_addCounterparty, countsOf_perm (hvalues.map _),
      List.toFinset_eq_of_perm _ _ (hvalues.map _), Option.map_map, Option.map_map]
    exact head?_map_const hvalues _

/-- What a finding of a protocol is read off, but for the label. -/
def ProtocolFlow.pattern (row : ProtocolFlow) : Text × Nat × List Text :=
  (row.protocol.protocolId, row.swapObservations, row.supportingActivityIds)

theorem patterns_perm (h : items.Perm items') :
    ((protocolGroups items).map fun group => (protocolFlow group).pattern).Perm
      ((protocolGroups items').map fun group => (protocolFlow group).pattern) := by
  refine Groups.map_groups_perm (h.filterMap _) fun key => ?_
  have hvalues := Groups.valuesOf_perm (h.filterMap protocolObservation) key
  have hkey : ∀ {items : List CaseItem} {found : Nat} {support : Finset Text},
      ((valuesOf (items.filterMap protocolObservation) key).head?.map fun first =>
        (protocolFlow (key, ⟨first.1, found, support⟩)).pattern) =
        (valuesOf (items.filterMap protocolObservation) key).head?.map fun _ =>
          (key, found, listedSupport support) := by
    intro items found support
    refine Option.map_congr fun first hfirst => ?_
    obtain ⟨item, -, hitem⟩ :=
      List.mem_filterMap.mp (Groups.mem_valuesOf.mp (List.mem_of_head? hfirst))
    exact congrArg (·, found, listedSupport support) (protocolObservation_key item _ hitem).symm
  rw [collect_addProtocol, collect_addProtocol, hvalues.length_eq,
    List.toFinset_eq_of_perm _ _ (hvalues.map _), Option.map_map, Option.map_map]
  exact hkey.trans ((head?_map_const hvalues _).trans hkey.symm)

theorem map_pattern_protocolRows (items : List CaseItem) :
    (protocolRows items).map ProtocolFlow.pattern =
      KeySort.sortBy (fun a b => decide (a ≤ b)) (fun pattern => flowKey pattern.2.1 pattern.1)
        ((protocolGroups items).map fun group => (protocolFlow group).pattern) := by
  have hsort : (protocolRows items).map ProtocolFlow.pattern =
      KeySort.sortBy (fun a b => decide (a ≤ b)) (fun pattern => flowKey pattern.2.1 pattern.1)
        (((protocolGroups items).map protocolFlow).map ProtocolFlow.pattern) :=
    KeySort.map_sortBy fun _ => rfl
  rw [hsort, List.map_map]
  rfl

theorem protocolRows_perm (h : items.Perm items') :
    (protocolRows items).map ProtocolFlow.pattern =
      (protocolRows items').map ProtocolFlow.pattern := by
  rw [map_pattern_protocolRows, map_pattern_protocolRows]
  refine KeySort.sort_perm_of_nodup KeySort.order_le ?_ (patterns_perm h)
  refine List.Nodup.of_map (fun key => (ofLex key).2) ?_
  rw [List.map_map, List.map_map]
  have hkeys : ((protocolGroups items).map (·.1)).Nodup :=
    Groups.nodup_foldl_upsert (items.filterMap protocolObservation)
  refine (List.map_congr_left fun group hgroup => ?_) ▸ hkeys
  exact (protocol_key hgroup).symm

/-! ## The findings in another order -/

/-- The rule, but for the label of a protocol. -/
def FindingDraft.withoutLabel (draft : FindingDraft) : FindingDraft :=
  if draft.ruleId = "recognized_protocol_observations_v1" then { draft with title := "" }
  else draft

theorem caseFinding_withoutLabel (digest : FindingSeed → Text) (basis : FindingBasis)
    (fallback : FindingLevel) (draft : FindingDraft) :
    (caseFinding digest basis fallback draft).withoutLabel =
      caseFinding digest basis fallback draft.withoutLabel := by
  unfold Finding.withoutLabel FindingDraft.withoutLabel
  by_cases h : draft.ruleId = "recognized_protocol_observations_v1"
  · rw [if_pos h, if_pos (show (caseFinding digest basis fallback draft).ruleId = _ from h)]
    rfl
  · rw [if_neg h, if_neg (show ¬ (caseFinding digest basis fallback draft).ruleId = _ from h)]

theorem sortKey_withoutLabel (finding : Finding) :
    finding.withoutLabel.sortKey = finding.sortKey := by
  unfold Finding.withoutLabel
  split <;> rfl

theorem findingDrafts_perm (h : items.Perm items') (conflicts gaps : Nat) (demo : Bool) :
    (findingDrafts items conflicts gaps demo (flowState items)).map FindingDraft.withoutLabel =
      (findingDrafts items' conflicts gaps demo (flowState items')).map
        FindingDraft.withoutLabel := by
  have hfailed : ((items.filter CaseItem.failed).map CaseItem.publicId).mergeSort (· ≤ ·) =
      ((items'.filter CaseItem.failed).map CaseItem.publicId).mergeSort (· ≤ ·) :=
    KeySort.sort_perm KeySort.order_le (fun _ _ _ _ heq => heq)
      ((h.filter CaseItem.failed).map CaseItem.publicId)
  have hrecognized : ((protocolRows items).take maxPatternFindings).map
      (fun row => (recognizedProtocolDraft row).withoutLabel) =
      ((protocolRows items').take maxPatternFindings).map
        fun row => (recognizedProtocolDraft row).withoutLabel := by
    have hpatterns := congrArg (List.take maxPatternFindings) (protocolRows_perm h)
    rw [← List.map_take, ← List.map_take] at hpatterns
    have hdrafts := congrArg (List.map fun pattern => (recognizedProtocolDraft
      ⟨⟨pattern.1, [], [], none⟩, pattern.2.1, pattern.2.2, false⟩).withoutLabel) hpatterns
    rw [List.map_map, List.map_map] at hdrafts
    exact hdrafts
  unfold findingDrafts repeatedGroups flowState
  dsimp only
  rw [hfailed, idsWhere_perm CaseItem.assetUnavailable h,
    idsWhere_perm CaseItem.counterpartyUnavailable h, counterpartyRows_perm h]
  simp only [List.map_append, List.map_map]
  exact congrArg _ hrecognized

theorem lookup_perm {β : Type} {f : CaseItem → β} (h : items.Perm items')
    (distinct : (items.map CaseItem.publicId).Nodup) (id : Text) :
    (items.map fun item => (item.publicId, f item)).lookup id =
      (items'.map fun item => (item.publicId, f item)).lookup id := by
  refine Option.ext fun b => ?_
  rw [lookup_map distinct, lookup_map ((h.map CaseItem.publicId).nodup_iff.mp distinct)]
  simp only [h.mem_iff]

theorem caseFinding_congr {basis basis' : FindingBasis}
    (hitems : ∀ id, basis.byId.lookup id = basis'.byId.lookup id)
    (hlevels : ∀ id, basis.levels.lookup id = basis'.levels.lookup id)
    (digest : FindingSeed → Text) (fallback : FindingLevel) (draft : FindingDraft) :
    caseFinding digest basis fallback draft = caseFinding digest basis' fallback draft := by
  have hlevelOf : basis.levelOf = basis'.levelOf := by
    funext id
    unfold FindingBasis.levelOf
    rw [hitems, hlevels]
  have hsupport : basis.support = basis'.support := by
    funext id
    unfold FindingBasis.support
    rw [hitems, hlevels]
  unfold caseFinding FindingDraft.level
  rw [hlevelOf, hsupport]

theorem findings_withoutLabel (digest : FindingSeed → Text) (revision : CaseRevision) :
    (revision.findings digest).map Finding.withoutLabel =
      KeySort.sortBy (fun a b => decide (a ≤ b)) Finding.sortKey
        (((findingDrafts revision.items revision.conflictedIdentityCount revision.gaps
          revision.demo (flowState revision.items)).map FindingDraft.withoutLabel).map
            (caseFinding digest revision.basis (baseLevel revision.demo))) := by
  unfold CaseRevision.findings caseFindings
  rw [KeySort.map_sortBy sortKey_withoutLabel, List.map_map, List.map_map]
  refine congrArg (KeySort.sortBy _ _) (List.map_congr_left fun draft _ => ?_)
  exact caseFinding_withoutLabel digest revision.basis _ draft

theorem findings_perm (digest : FindingSeed → Text) (h : revision.items.Perm items) :
    ((revision.reorder items h).findings digest).map Finding.withoutLabel =
      (revision.findings digest).map Finding.withoutLabel := by
  rw [findings_withoutLabel, findings_withoutLabel]
  refine congrArg (KeySort.sortBy _ _) ?_
  have hdrafts := findingDrafts_perm h revision.conflictedIdentityCount revision.gaps revision.demo
  rw [hdrafts]
  refine List.map_congr_left fun draft _ => ?_
  refine (caseFinding_congr (fun id => ?_) (fun id => ?_) digest _ draft).symm
  · exact lookup_perm h revision.distinct id
  · exact lookup_perm h revision.distinct id

theorem finding_levels_weakest (digest : FindingSeed → Text) (revision : CaseRevision) :
    (∀ finding ∈ revision.findings digest, ∃ topic, revision.Reports topic finding) ∧
      (∀ items (h : revision.items.Perm items),
        ((revision.reorder items h).findings digest).map Finding.withoutLabel =
          (revision.findings digest).map Finding.withoutLabel) ∧
      ∀ decimal flows findings, revision.build digest decimal = .ok (flows, findings) →
        findings = revision.findings digest := by
  refine ⟨fun finding => reports_of_mem, fun items h => findings_perm digest h, ?_⟩
  intro decimal flows findings h
  obtain ⟨⟨found, state⟩, hsummary, h⟩ := ExceptFold.bind_eq_ok.mp h
  obtain ⟨rows, -, hsummary⟩ := ExceptFold.bind_eq_ok.mp hsummary
  cases hsummary
  cases h
  rfl

/-! ## A failed transaction, and two labels of one protocol -/

/-- A failed transaction whose inclusion in the chain is proven. -/
def failedRevision : CaseRevision where
  items := [⟨"act_1".toList, none, false, .transaction true⟩]
  conflictedIdentityCount := 0
  gaps := 0
  demo := false
  verifications := [⟨"ver_1".toList, "act_1".toList, 1, 3⟩]
  distinct := by decide
  origins := by decide
  verified := by decide

def labelledSwap (id label : String) : CaseItem where
  publicId := id.toList
  occurredAt := none
  demoFixture := false
  body := .swap none none none none
    (some ⟨"dedust_v2".toList, "dedust".toList, "v2".toList, some label.toList⟩)

/-- The findings of two swaps, in the order given. -/
def swapTitles (items : List CaseItem) : List String :=
  (findingDrafts items 0 0 false (flowState items)).map FindingDraft.title

/-- The level of a failed transaction is capped below its own, and the title of
a protocol has the label met first. -/
theorem failed_level_capped :
    (failedRevision.findings fun _ => []).map
        (fun finding => (finding.ruleId, finding.evidenceLevel)) =
      [("failed_transaction_observations_v1", .normalizedProviderObservation)] ∧
    failedRevision.affectedLevels .failed = [.chainInclusionProven] ∧
    ¬ IsWeakest (failedRevision.affectedLevels .failed) .normalizedProviderObservation ∧
    swapTitles [labelledSwap "act_1" "DeDust", labelledSwap "act_2" "dedust"] ≠
      swapTitles [labelledSwap "act_2" "dedust", labelledSwap "act_1" "DeDust"] := by
  have hlevels : failedRevision.affectedLevels .failed = [.chainInclusionProven] := by decide
  refine ⟨by decide +kernel, hlevels, ?_, by decide +kernel⟩
  rw [hlevels]
  rintro ⟨hmem, -⟩
  cases List.mem_singleton.mp hmem

end TonTracker
