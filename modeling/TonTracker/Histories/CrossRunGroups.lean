/-
# `Histories.CrossRunGroups` — the groups of a history

The observations of a history are, up to order, those of any history with
the same runs and rows (`SameHistory`), so its groups are the same
(`SameHistory.groups_eq`).  The rows of a strong identity all have its
strength, since its type belongs to it alone, and the groups of the list are
its strong identities in two runs (`history_groups`).
-/
import TonTracker.Histories.IdentityGroups

namespace TonTracker

variable {readers : HistoryReaders}

/-! ## One history in two orders -/

/-- The same run with its rows in another order. -/
structure SameRun (run other : HistoryRun) : Prop where
  runId : run.runId = other.runId
  fields : run.fields = other.fields
  transfers : run.transfers.Perm other.transfers
  transactions : run.transactions.Perm other.transactions
  swaps : run.swaps.Perm other.swaps

/-- The same runs in another order, each with its rows in another order. -/
def SameHistory (runs other : List HistoryRun) : Prop :=
  ∃ reordered, runs.Perm reordered ∧ List.Forall₂ SameRun reordered other

theorem SameHistory.flatMap {α : Type} {rows : HistoryRun → List α} {runs other : List HistoryRun}
    (hrows : ∀ run run', SameRun run run' → (rows run).Perm (rows run'))
    (h : SameHistory runs other) : (runs.flatMap rows).Perm (other.flatMap rows) := by
  obtain ⟨reordered, hperm, hsame⟩ := h
  refine (hperm.flatMap_right rows).trans ?_
  clear hperm
  induction hsame with
  | nil => exact .refl _
  | cons hrun _ ih => exact (hrows _ _ hrun).append ih

/-- The identities of a row depend on the run's fields alone. -/
theorem SameRun.transactionIdentity {run other : HistoryRun} (h : SameRun run other) :
    readers.transactionIdentity run = readers.transactionIdentity other := by
  obtain ⟨id, fields, _, _, _⟩ := run
  obtain ⟨id', fields', _, _, _⟩ := other
  obtain ⟨rfl, rfl, -, -, -⟩ := h
  rfl

theorem SameRun.eventActionIdentity {run other : HistoryRun} (h : SameRun run other) :
    readers.eventActionIdentity run = readers.eventActionIdentity other := by
  obtain ⟨id, fields, _, _, _⟩ := run
  obtain ⟨id', fields', _, _, _⟩ := other
  obtain ⟨rfl, rfl, -, -, -⟩ := h
  rfl

theorem SameRun.eventActions {run other : HistoryRun} (h : SameRun run other) :
    run.eventActions.Perm other.eventActions :=
  (h.transfers.map _).append ((h.swaps.map _).append (.refl _))

variable {runs other : List HistoryRun}

theorem SameHistory.exactObservations (h : SameHistory runs other) :
    (readers.exactObservations runs).Perm (readers.exactObservations other) := by
  refine SameHistory.flatMap (fun run run' hrun => ?_) h
  rw [hrun.runId, hrun.transactionIdentity]
  exact hrun.transactions.filterMap _

theorem SameHistory.hashCandidates (h : SameHistory runs other) :
    (readers.hashCandidates runs).Perm (readers.hashCandidates other) := by
  refine SameHistory.flatMap (fun run run' hrun => ?_) h
  rw [hrun.runId, hrun.transactionIdentity]
  exact hrun.transactions.filterMap _

theorem SameHistory.eventActionObservations (h : SameHistory runs other) :
    (readers.eventActionObservations runs).Perm (readers.eventActionObservations other) := by
  refine SameHistory.flatMap (fun run run' hrun => ?_) h
  rw [hrun.runId, hrun.eventActionIdentity]
  exact hrun.eventActions.filterMap _

theorem SameHistory.swapObservations (h : SameHistory runs other) :
    (readers.swapObservations runs).Perm (readers.swapObservations other) := by
  refine SameHistory.flatMap (fun run run' hrun => ?_) h
  simp only [HistoryReaders.swapIdentity, hrun.runId, hrun.eventActionIdentity]
  exact hrun.swaps.map _

theorem shareOneExactKey_perm {rows rows' : List HashCandidate} (h : rows.Perm rows') :
    shareOneExactKey rows = shareOneExactKey rows' := by
  have hkeys : (rows.filterMap (·.exactKey)).dedup.length =
      (rows'.filterMap (·.exactKey)).dedup.length := (h.filterMap _).dedup.length_eq
  unfold shareOneExactKey
  rw [hkeys, h.all_eq]

theorem candidateObservations_perm {candidates candidates' : List HashCandidate}
    (h : candidates.Perm candidates') :
    (candidateObservations candidates).Perm (candidateObservations candidates') := by
  have hshare : ∀ candidate : HashCandidate,
      shareOneExactKey (candidates.filter fun row => row.txHash = candidate.txHash) =
        shareOneExactKey (candidates'.filter fun row => row.txHash = candidate.txHash) :=
    fun candidate => shareOneExactKey_perm (h.filter _)
  unfold candidateObservations
  simp only [hshare]
  exact (h.filter _).map _

theorem sortRuns_same (runs : List HistoryRun) : SameHistory runs (sortRuns runs) :=
  ⟨sortRuns runs, (List.mergeSort_perm runs _).symm,
    List.forall₂_same.mpr fun _ _ => ⟨rfl, rfl, .refl _, .refl _, .refl _⟩⟩

/-- The groups are the same for every order of runs and rows. -/
theorem SameHistory.groups_eq (h : SameHistory runs other) :
    readers.transactionGroups runs = readers.transactionGroups other ∧
      readers.swapGroups runs = readers.swapGroups other ∧
      readers.eventActionGroups runs = readers.eventActionGroups other := by
  refine ⟨?_, identityGroups_perm h.swapObservations, identityGroups_perm h.eventActionObservations⟩
  unfold HistoryReaders.transactionGroups
  rw [identityGroups_perm h.exactObservations,
    identityGroups_perm (candidateObservations_perm h.hashCandidates)]

/-! ## Strong identities -/

/-- The type of an exact transaction key. -/
def accountTransactionType : Text := "account_transaction".toList

/-- A list of groups against the rows of the strong identities of one type:
`occurs run key payload` where a row of the run has the identity and the
semantic payload. -/
structure ListsStrong (runs : List HistoryRun) (groups : List IdentityGroup) (identityType : Text)
    (strength : IdentityStrength) (occurs : HistoryRun → Text → Json → Prop) : Prop where
  once : (groups.map (·.key)).Nodup
  listed : ∀ key, ⟨identityType, key⟩ ∈ groups.map (·.key) ↔
    ∃ a ∈ runs, ∃ b ∈ runs, a.runId ≠ b.runId ∧
      (∃ payload, occurs a key payload) ∧ ∃ payload, occurs b key payload
  strength : ∀ group ∈ groups, group.key.identityType = identityType →
    group.identityStrength = strength
  conflict : ∀ group ∈ groups, group.key.identityType = identityType →
    (group.hasConflict = true ↔ ∃ a ∈ runs, ∃ b ∈ runs, ∃ payload payload',
      occurs a group.key.identity payload ∧ occurs b group.key.identity payload' ∧
        payload ≠ payload')
  weak : ∀ group ∈ groups, group.key.identityType ≠ identityType →
    group.identityStrength = .weak ∧ group.hasConflict = false

/-- Observations against the rows of strong identities. -/
structure ObservesStrong (runs : List HistoryRun) (observations : List Observation)
    (identityType : Text) (strength : IdentityStrength)
    (occurs : HistoryRun → Text → Json → Prop) : Prop where
  strong : ∀ row ∈ observations, row.key.identityType = identityType → row.strength = strength ∧
    ∃ run ∈ runs, run.runId = row.runId ∧ occurs run row.key.identity row.payload
  observed : ∀ run ∈ runs, ∀ key payload, occurs run key payload →
    ⟨⟨identityType, key⟩, run.runId, payload, strength⟩ ∈ observations
  weak : ∀ row ∈ observations, row.key.identityType ≠ identityType → row.strength = .weak

variable {observations : List Observation} {identityType : Text} {strength : IdentityStrength}
  {occurs : HistoryRun → Text → Json → Prop}

theorem ObservesStrong.inTwoRuns (h : ObservesStrong runs observations identityType strength occurs)
    (key : Text) : InTwoRuns observations ⟨identityType, key⟩ ↔
      ∃ a ∈ runs, ∃ b ∈ runs, a.runId ≠ b.runId ∧
        (∃ payload, occurs a key payload) ∧ ∃ payload, occurs b key payload := by
  constructor
  · rintro ⟨a, ha, b, hb, hkey, hkey', hne⟩
    obtain ⟨-, run, hrun, hid, hoccurs⟩ := h.strong a ha (by rw [hkey])
    obtain ⟨-, run', hrun', hid', hoccurs'⟩ := h.strong b hb (by rw [hkey'])
    rw [hkey] at hoccurs
    rw [hkey'] at hoccurs'
    exact ⟨run, hrun, run', hrun', by rwa [hid, hid'], ⟨_, hoccurs⟩, _, hoccurs'⟩
  · rintro ⟨run, hrun, run', hrun', hne, ⟨payload, hoccurs⟩, payload', hoccurs'⟩
    exact ⟨_, h.observed run hrun key payload hoccurs, _,
      h.observed run' hrun' key payload' hoccurs', rfl, rfl, hne⟩

/-- The strength of a group is that of its rows. -/
theorem ObservesStrong.groupStrength
    (h : ObservesStrong runs observations identityType strength occurs) {group : IdentityGroup}
    (hgroup : readers.identityGroup observations group.key = some group) :
    group.identityStrength = if group.key.identityType = identityType then strength else .weak := by
  obtain ⟨-, hstrength, -⟩ := identityGroup_spec hgroup
  obtain ⟨a, ha, -, -, hkey, -⟩ :=
    identityGroup_isSome.mp (Option.isSome_iff_exists.mpr ⟨group, hgroup⟩)
  rw [hstrength]
  refine groupStrength_eq_of_all
    (List.ne_nil_of_mem (List.mem_filter.mpr ⟨ha, decide_eq_true hkey⟩)) fun row hrow => ?_
  obtain ⟨hrow, hrowKey⟩ := List.mem_filter.mp hrow
  rw [← of_decide_eq_true hrowKey]
  split
  · next htype => exact (h.strong row hrow htype).1
  · next htype => exact h.weak row hrow htype

/-- The groups of such observations, where the fingerprint tells their
payloads apart. -/
theorem ObservesStrong.lists (h : ObservesStrong runs observations identityType strength occurs)
    (hstrong : strength ≠ .weak) {payloads : Set Json} (hinj : payloads.InjOn readers.fingerprint)
    (hpayloads : ∀ run ∈ runs, ∀ key payload, occurs run key payload → payload ∈ payloads)
    {groups : List IdentityGroup} (hnodup : (groups.map (·.key)).Nodup)
    (hgroups : ∀ group, group ∈ groups ↔
      readers.identityGroup observations group.key = some group) :
    ListsStrong runs groups identityType strength occurs where
  once := hnodup
  listed key := by
    rw [← h.inTwoRuns, ← @identityGroup_isSome readers, List.mem_map]
    constructor
    · rintro ⟨group, hgroup, hkey⟩
      exact hkey ▸ Option.isSome_iff_exists.mpr ⟨group, (hgroups group).mp hgroup⟩
    · intro hsome
      obtain ⟨group, hgroup⟩ := Option.isSome_iff_exists.mp hsome
      have hkey := (identityGroup_spec hgroup).1
      exact ⟨group, (hgroups group).mpr (hkey ▸ hgroup), hkey⟩
  strength group hgroup htype := by
    rw [h.groupStrength ((hgroups group).mp hgroup), if_pos htype]
  conflict group hgroup htype := by
    have hgroup := (hgroups group).mp hgroup
    rw [(identityGroup_spec hgroup).2.2, h.groupStrength hgroup, if_pos htype]
    constructor
    · rintro ⟨-, a, ha, b, hb, hkey, hkey', hne⟩
      obtain ⟨-, run, hrun, -, hoccurs⟩ := h.strong a ha (hkey ▸ htype)
      obtain ⟨-, run', hrun', -, hoccurs'⟩ := h.strong b hb (hkey' ▸ htype)
      rw [hkey] at hoccurs
      rw [hkey'] at hoccurs'
      exact ⟨run, hrun, run', hrun', _, _, hoccurs, hoccurs', fun heq => hne (heq ▸ rfl)⟩
    · rintro ⟨run, hrun, run', hrun', payload, payload', hoccurs, hoccurs', hne⟩
      have hkey : (⟨identityType, group.key.identity⟩ : IdentityKey) = group.key := by rw [← htype]
      exact ⟨hstrong, _, h.observed run hrun _ payload hoccurs, _,
        h.observed run' hrun' _ payload' hoccurs', hkey, hkey, fun heq => hne
          (hinj (hpayloads run hrun _ _ hoccurs) (hpayloads run' hrun' _ _ hoccurs') heq)⟩
  weak group hgroup htype := by
    have hgroup := (hgroups group).mp hgroup
    have hweak : group.identityStrength = .weak := by rw [h.groupStrength hgroup, if_neg htype]
    refine ⟨hweak, Bool.eq_false_iff.mpr fun hconflict => ?_⟩
    exact ((identityGroup_spec hgroup).2.2.mp hconflict).1 hweak

/-! ## The rows of a history -/

/-- A transaction of the run has the exact key and the payload. -/
def HistoryReaders.HasTransaction (readers : HistoryReaders) (run : HistoryRun) (key : Text)
    (payload : Json) : Prop :=
  ∃ transaction ∈ run.transactions,
    (readers.transactionIdentity run transaction).1 = .exact key ∧
      readers.transactionPayload transaction = payload

/-- An event action of the run has the provider-scoped key and the payload. -/
def HistoryReaders.HasEventAction (readers : HistoryReaders) (run : HistoryRun) (key : Text)
    (payload : Json) : Prop :=
  ∃ action ∈ run.eventActions, (readers.eventActionIdentity run action.1 action.2).1 = some key ∧
    readers.eventActionPayload action.1 action.2 = payload

/-- A swap of the run has the provider-scoped key and the payload. -/
def HistoryReaders.HasSwap (readers : HistoryReaders) (run : HistoryRun) (key : Text)
    (payload : Json) : Prop :=
  ∃ swap ∈ run.swaps, (readers.eventActionIdentity run .swaps swap).1 = some key ∧
    .obj (readers.swapPayload swap) = payload

/-- The semantic payloads of the rows of the runs. -/
def HistoryReaders.semanticPayloads (readers : HistoryReaders) (runs : List HistoryRun) : Set Json :=
  {payload | ∃ run ∈ runs, payload ∈ run.transactions.map readers.transactionPayload ∨
    (payload ∈ run.eventActions.map fun action => readers.eventActionPayload action.1 action.2) ∨
      payload ∈ run.swaps.map fun swap => .obj (readers.swapPayload swap)}

theorem mem_exactObservations {row : Observation} :
    row ∈ readers.exactObservations runs ↔ ∃ run ∈ runs, ∃ key payload,
      readers.HasTransaction run key payload ∧
        row = ⟨⟨accountTransactionType, key⟩, run.runId, payload, .exact⟩ := by
  unfold HistoryReaders.exactObservations
  rw [List.mem_flatMap]
  refine exists_congr fun run => and_congr_right fun _ => ?_
  rw [List.mem_filterMap]
  constructor
  · rintro ⟨transaction, htransaction, hrow⟩
    split at hrow
    · next key hkey =>
        cases hrow
        exact ⟨key, _, ⟨transaction, htransaction, hkey, rfl⟩, rfl⟩
    · cases hrow
  · rintro ⟨key, _, ⟨transaction, htransaction, hkey, rfl⟩, rfl⟩
    exact ⟨transaction, htransaction, by rw [hkey]; rfl⟩

theorem mem_candidateObservations {candidates : List HashCandidate} {row : Observation}
    (h : row ∈ candidateObservations candidates) :
    row.key.identityType = "transaction_hash".toList ∧ row.strength = .weak := by
  unfold candidateObservations at h
  obtain ⟨candidate, -, rfl⟩ := List.mem_map.mp h
  exact ⟨rfl, rfl⟩

theorem hashType_ne : "transaction_hash".toList ≠ accountTransactionType := by decide

/-- The observations of `_transaction_groups`, both kinds. -/
def HistoryReaders.transactionObservations (readers : HistoryReaders) (runs : List HistoryRun) :
    List Observation :=
  readers.exactObservations runs ++ candidateObservations (readers.hashCandidates runs)

theorem transactions_observed :
    ObservesStrong runs (readers.transactionObservations runs) accountTransactionType .exact
      readers.HasTransaction where
  strong row hrow htype := by
    obtain hrow | hrow := List.mem_append.mp hrow
    · obtain ⟨run, hrun, key, payload, hhas, rfl⟩ := mem_exactObservations.mp hrow
      exact ⟨rfl, run, hrun, rfl, hhas⟩
    · exact absurd ((mem_candidateObservations hrow).1.symm.trans htype) hashType_ne
  observed run hrun key payload hhas :=
    List.mem_append_left _ (mem_exactObservations.mpr ⟨run, hrun, key, payload, hhas, rfl⟩)
  weak row hrow htype := by
    obtain hrow | hrow := List.mem_append.mp hrow
    · obtain ⟨run, -, key, payload, -, rfl⟩ := mem_exactObservations.mp hrow
      exact absurd rfl htype
    · exact (mem_candidateObservations hrow).2

theorem mem_eventActionObservations {row : Observation} :
    row ∈ readers.eventActionObservations runs ↔ ∃ run ∈ runs, ∃ key payload,
      readers.HasEventAction run key payload ∧
        row = ⟨⟨providerEventActionType, key⟩, run.runId, payload, .providerScoped⟩ := by
  unfold HistoryReaders.eventActionObservations
  rw [List.mem_flatMap]
  refine exists_congr fun run => and_congr_right fun _ => ?_
  rw [List.mem_filterMap]
  constructor
  · rintro ⟨action, haction, hrow⟩
    obtain ⟨key, hkey, rfl⟩ := Option.map_eq_some_iff.mp hrow
    exact ⟨key, _, ⟨action, haction, hkey, rfl⟩, rfl⟩
  · rintro ⟨key, _, ⟨action, haction, hkey, rfl⟩, rfl⟩
    exact ⟨action, haction, Option.map_eq_some_iff.mpr ⟨key, hkey, rfl⟩⟩

theorem eventActions_observed :
    ObservesStrong runs (readers.eventActionObservations runs) providerEventActionType
      .providerScoped readers.HasEventAction where
  strong row hrow _ := by
    obtain ⟨run, hrun, key, payload, hhas, rfl⟩ := mem_eventActionObservations.mp hrow
    exact ⟨rfl, run, hrun, rfl, hhas⟩
  observed run hrun key payload hhas :=
    mem_eventActionObservations.mpr ⟨run, hrun, key, payload, hhas, rfl⟩
  weak row hrow htype := by
    obtain ⟨run, -, key, payload, -, rfl⟩ := mem_eventActionObservations.mp hrow
    exact absurd rfl htype

/-- A legacy identity is of a type of its own. -/
theorem legacySwapIdentity_type (swap : JsonObject) :
    (readers.legacySwapIdentity swap).identityType ≠ providerEventActionType := by
  have hmem : (readers.legacySwapIdentity swap).identityType ∈
      ["swap_fingerprint".toList, "event_action".toList, "event_reference".toList] := by
    unfold HistoryReaders.legacySwapIdentity
    dsimp only
    generalize (if (strippedText (Json.get (rawFields swap) "event_id")).isEmpty = true then
      strippedText (Json.get swap "tx_hash")
      else strippedText (Json.get (rawFields swap) "event_id")) = eventId
    split
    · exact List.mem_cons_self
    · split
      · exact List.mem_cons_of_mem _ List.mem_cons_self
      · exact List.mem_cons_of_mem _ (List.mem_cons_of_mem _ List.mem_cons_self)
  exact ne_of_mem_of_not_mem hmem (by decide)

theorem swapIdentity_eq (run : HistoryRun) (swap : JsonObject) :
    (∃ key, (readers.eventActionIdentity run .swaps swap).1 = some key ∧
      readers.swapIdentity run swap = (⟨providerEventActionType, key⟩, .providerScoped)) ∨
    ((readers.eventActionIdentity run .swaps swap).1 = none ∧
      readers.swapIdentity run swap = (readers.legacySwapIdentity swap, .weak)) := by
  unfold HistoryReaders.swapIdentity
  cases (readers.eventActionIdentity run .swaps swap).1 with
  | none => exact .inr ⟨rfl, rfl⟩
  | some key => exact .inl ⟨key, rfl, rfl⟩

theorem mem_swapObservations {row : Observation} :
    row ∈ readers.swapObservations runs ↔ ∃ run ∈ runs, ∃ swap ∈ run.swaps,
      row = ⟨(readers.swapIdentity run swap).1, run.runId, .obj (readers.swapPayload swap),
        (readers.swapIdentity run swap).2⟩ := by
  unfold HistoryReaders.swapObservations
  simp only [List.mem_flatMap, List.mem_map]
  exact exists_congr fun run => and_congr_right fun _ => exists_congr fun swap =>
    and_congr_right fun _ => eq_comm

theorem swaps_observed :
    ObservesStrong runs (readers.swapObservations runs) providerEventActionType .providerScoped
      readers.HasSwap where
  strong row hrow htype := by
    obtain ⟨run, hrun, swap, hswap, rfl⟩ := mem_swapObservations.mp hrow
    obtain ⟨key, hkey, heq⟩ | ⟨-, heq⟩ := @swapIdentity_eq readers run swap
    · rw [heq]
      exact ⟨rfl, run, hrun, rfl, swap, hswap, hkey, rfl⟩
    · rw [heq] at htype
      exact absurd htype (legacySwapIdentity_type swap)
  observed run hrun key payload hhas := by
    obtain ⟨swap, hswap, hkey, rfl⟩ := hhas
    refine mem_swapObservations.mpr ⟨run, hrun, swap, hswap, ?_⟩
    unfold HistoryReaders.swapIdentity
    rw [hkey]
  weak row hrow htype := by
    obtain ⟨run, -, swap, -, rfl⟩ := mem_swapObservations.mp hrow
    obtain ⟨key, -, heq⟩ | ⟨-, heq⟩ := @swapIdentity_eq readers run swap
    · rw [heq] at htype
      exact absurd rfl htype
    · rw [heq]

/-! ## The transaction groups -/

theorem identityGroup_append_left {first second : List Observation} {key : IdentityKey}
    (h : ∀ row ∈ second, row.key ≠ key) :
    readers.identityGroup (first ++ second) key = readers.identityGroup first key := by
  have hnil : (second.filter fun row => row.key = key) = [] :=
    List.filter_eq_nil_iff.mpr fun row hrow => by simpa using h row hrow
  unfold HistoryReaders.identityGroup
  rw [List.filter_append, hnil, List.append_nil]

theorem identityGroup_append_right {first second : List Observation} {key : IdentityKey}
    (h : ∀ row ∈ first, row.key ≠ key) :
    readers.identityGroup (first ++ second) key = readers.identityGroup second key :=
  (identityGroup_perm List.perm_append_comm key).trans (identityGroup_append_left h)

/-- The keys of the two kinds of observations are of two types. -/
theorem exactObservations_type {row : Observation} (h : row ∈ readers.exactObservations runs) :
    row.key.identityType = accountTransactionType := by
  obtain ⟨run, -, key, payload, -, rfl⟩ := mem_exactObservations.mp h
  rfl

theorem mem_transactionGroups {group : IdentityGroup} :
    group ∈ readers.transactionGroups runs ↔
      readers.identityGroup (readers.transactionObservations runs) group.key = some group := by
  have hnone : ∀ {observations : List Observation},
      (∀ row ∈ observations, row.key ≠ group.key) →
        readers.identityGroup observations group.key ≠ some group := fun hne hsome => by
    obtain ⟨a, ha, -, -, hkey, -⟩ :=
      identityGroup_isSome.mp (Option.isSome_iff_exists.mpr ⟨group, hsome⟩)
    exact hne a ha hkey
  rw [HistoryReaders.transactionGroups, (sortGroups_perm _).mem_iff, List.mem_append,
    mem_identityGroups, mem_identityGroups, HistoryReaders.transactionObservations]
  by_cases htype : group.key.identityType = accountTransactionType
  · have hother : ∀ row ∈ candidateObservations (readers.hashCandidates runs),
        row.key ≠ group.key := fun row hrow heq =>
      hashType_ne ((mem_candidateObservations hrow).1.symm.trans (heq ▸ htype))
    rw [identityGroup_append_left hother]
    exact or_iff_left (hnone hother)
  · have hother : ∀ row ∈ readers.exactObservations runs, row.key ≠ group.key :=
      fun row hrow heq => htype (heq ▸ exactObservations_type hrow)
    rw [identityGroup_append_right hother]
    exact or_iff_right (hnone hother)

theorem nodup_keys_transactionGroups (runs : List HistoryRun) :
    ((readers.transactionGroups runs).map (·.key)).Nodup := by
  refine (((sortGroups_perm _).map (·.key)).nodup_iff).mpr ?_
  rw [List.map_append]
  refine List.Nodup.append (nodup_keys_identityGroups _) (nodup_keys_identityGroups _)
    fun key hexact hhash => ?_
  obtain ⟨a, ha, -, -, hkey, -⟩ := mem_keys_identityGroups.mp hexact
  obtain ⟨b, hb, -, -, hkey', -⟩ := mem_keys_identityGroups.mp hhash
  have htype := exactObservations_type ha
  rw [hkey, ← hkey', (mem_candidateObservations hb).1] at htype
  exact hashType_ne htype

/-! ## The counts -/

/-- Rows of three kinds are counted once. -/
theorem countP_three {α : Type} {p q r : α → Bool} {rows : List α}
    (h : ∀ row, (p row).toNat + (q row).toNat + (r row).toNat = 1) :
    rows.countP p + rows.countP q + rows.countP r = rows.length := by
  induction rows with
  | nil => rfl
  | cons row rows ih =>
      have hrow := h row
      simp only [List.countP_cons, List.length_cons]
      cases hp : p row <;> cases hq : q row <;> cases hr : r row <;>
        simp only [hp, hq, hr, Bool.toNat_true, Bool.toNat_false] at hrow <;> simp <;> omega

/-- The counts of the coverage add up to the rows. -/
structure CountsAddUp (runs : List HistoryRun) (coverage : HistoryCoverage) : Prop where
  transactions : coverage.exactTransactions + coverage.weakTransactions +
    coverage.unavailableTransactions = (runs.map fun run => run.transactions.length).sum
  eventActions : coverage.providerScopedEventActions + coverage.unavailableEventActions =
    (runs.map fun run => run.transfers.length + run.swaps.length).sum
  swaps : coverage.exactSwaps + coverage.providerScopedSwaps + coverage.weakSwaps =
    (runs.map fun run => run.swaps.length).sum

theorem length_eventActions (run : HistoryRun) :
    run.eventActions.length = run.transfers.length + run.swaps.length := by
  simp [HistoryRun.eventActions, HistoryRun.rows]

theorem coverage_addsUp (transactionGroups swapGroups eventActionGroups : List IdentityGroup) :
    CountsAddUp runs (readers.coverage runs transactionGroups swapGroups eventActionGroups) where
  transactions := by
    refine (@countP_three _ _ _ _ (historyTransactions runs) fun row => ?_).trans ?_
    · cases (readers.transactionIdentity row.1 row.2).1 <;> rfl
    · simp [historyTransactions, List.length_flatMap]
  eventActions := by
    have hthree := @countP_three _
      (fun row => (readers.eventActionIdentity row.1 row.2.1 row.2.2).1.isSome)
      (fun row => (readers.eventActionIdentity row.1 row.2.1 row.2.2).1.isNone)
      (fun _ => false) (historyEventActions runs)
      fun row => by cases (readers.eventActionIdentity row.1 row.2.1 row.2.2).1 <;> rfl
    simp only [List.countP_false, Function.const_apply, Nat.add_zero] at hthree
    refine hthree.trans ?_
    simp [historyEventActions, List.length_flatMap, length_eventActions]
  swaps := by
    have hthree := @countP_three _
      (fun row => decide ((readers.swapIdentity row.1 row.2).2 = .exact))
      (fun row => decide ((readers.swapIdentity row.1 row.2).2 = .providerScoped))
      (fun row => decide ((readers.swapIdentity row.1 row.2).2 = .weak)) (historySwaps runs)
      fun row => by cases (readers.swapIdentity row.1 row.2).2 <;> rfl
    refine hthree.trans ?_
    simp [historySwaps, List.length_flatMap]

/-! ## The groups -/

/-- What the groups and the counts of a history say of its rows. -/
structure GroupsSpec (readers : HistoryReaders) (selected : List HistoryRun)
    (groups : HistoryGroups) : Prop where
  transactions : ListsStrong selected groups.transactionGroups accountTransactionType .exact
    readers.HasTransaction
  swaps : ListsStrong selected groups.swapGroups providerEventActionType .providerScoped
    readers.HasSwap
  eventActions : ListsStrong selected groups.eventActionGroups providerEventActionType
    .providerScoped readers.HasEventAction
  counts : CountsAddUp selected groups.coverage

/-- Sorting the runs first changes no group. -/
theorem historyGroups_eq (selected : List HistoryRun) :
    (readers.historyGroups selected).transactionGroups = readers.transactionGroups selected ∧
      (readers.historyGroups selected).swapGroups = readers.swapGroups selected ∧
      (readers.historyGroups selected).eventActionGroups = readers.eventActionGroups selected := by
  obtain ⟨htransactions, hswaps, hactions⟩ := @SameHistory.groups_eq readers _ _ (sortRuns_same selected)
  exact ⟨htransactions.symm, hswaps.symm, hactions.symm⟩

theorem CountsAddUp.of_perm {selected : List HistoryRun} {coverage : HistoryCoverage}
    (h : CountsAddUp runs coverage) (hperm : runs.Perm selected) : CountsAddUp selected coverage where
  transactions := h.transactions.trans (hperm.map _).sum_nat
  eventActions := h.eventActions.trans (hperm.map _).sum_nat
  swaps := h.swaps.trans (hperm.map _).sum_nat

/-- The identity groups list every strong identity of two runs once, a group
of a strong identity conflicts where its rows have two semantic payloads and
a weak group never does, the counts of the identities add up to the rows, and
no order of the runs or the rows shows in the groups. -/
theorem history_groups {selected other : List HistoryRun}
    (hfingerprint : (readers.semanticPayloads selected).InjOn readers.fingerprint)
    (hsame : SameHistory selected other) :
    GroupsSpec readers selected (readers.historyGroups selected) ∧
      (readers.historyGroups other).transactionGroups =
        (readers.historyGroups selected).transactionGroups ∧
      (readers.historyGroups other).swapGroups = (readers.historyGroups selected).swapGroups ∧
      (readers.historyGroups other).eventActionGroups =
        (readers.historyGroups selected).eventActionGroups := by
  obtain ⟨htransactions, hswaps, hactions⟩ := @historyGroups_eq readers selected
  obtain ⟨htransactions', hswaps', hactions'⟩ := @historyGroups_eq readers other
  rw [htransactions, hswaps, hactions, htransactions', hswaps', hactions']
  obtain ⟨hsameTransactions, hsameSwaps, hsameActions⟩ := @SameHistory.groups_eq readers _ _ hsame
  refine ⟨⟨?_, ?_, ?_, ?_⟩, hsameTransactions.symm, hsameSwaps.symm, hsameActions.symm⟩
  · rw [htransactions]
    exact transactions_observed.lists (by decide) hfingerprint
      (fun run hrun _ _ ⟨transaction, hmem, _, heq⟩ =>
        ⟨run, hrun, .inl (List.mem_map.mpr ⟨transaction, hmem, heq⟩)⟩)
      (nodup_keys_transactionGroups selected) fun _ => mem_transactionGroups
  · rw [hswaps]
    exact swaps_observed.lists (by decide) hfingerprint
      (fun run hrun _ _ ⟨swap, hmem, _, heq⟩ =>
        ⟨run, hrun, .inr (.inr (List.mem_map.mpr ⟨swap, hmem, heq⟩))⟩)
      (nodup_keys_identityGroups _) fun _ => mem_identityGroups
  · rw [hactions]
    exact eventActions_observed.lists (by decide) hfingerprint
      (fun run hrun _ _ ⟨action, hmem, _, heq⟩ =>
        ⟨run, hrun, .inr (.inl (List.mem_map.mpr ⟨action, hmem, heq⟩))⟩)
      (nodup_keys_identityGroups _) fun _ => mem_identityGroups
  · exact (coverage_addsUp _ _ _).of_perm (List.mergeSort_perm selected _)

/-! ## A weak group -/

/-- Readers that print nothing but texts. -/
def plainReaders : HistoryReaders where
  str value := value.text?.getD []
  upper text := text
  decimalText text := some text
  timestampText text := some text
  fingerprint value := match value with
    | .obj fields => (fields.map fun field => ' ' :: (field.2.text?.getD [])).flatten
    | _ => []
  parseTonAddress _ := none

/-- A transaction with a hash and a fee, and no recorded identity. -/
def hashedTransaction (fee : String) : JsonObject :=
  [("tx_hash", .str "ab".toList), ("fee_ton", .str fee.toList)]

def hashedRun (runId : Nat) (fee : String) : HistoryRun :=
  ⟨runId, [], [], [hashedTransaction fee], []⟩

/-- The groups of one transaction in two runs. -/
theorem history_groups_sample :
    GroupsSpec plainReaders [hashedRun 1 "0.1", hashedRun 2 "0.2"]
        (plainReaders.historyGroups [hashedRun 1 "0.1", hashedRun 2 "0.2"]) ∧
      (plainReaders.historyGroups [hashedRun 2 "0.2", hashedRun 1 "0.1"]).transactionGroups =
        (plainReaders.historyGroups [hashedRun 1 "0.1", hashedRun 2 "0.2"]).transactionGroups ∧
      (plainReaders.historyGroups [hashedRun 2 "0.2", hashedRun 1 "0.1"]).swapGroups =
        (plainReaders.historyGroups [hashedRun 1 "0.1", hashedRun 2 "0.2"]).swapGroups ∧
      (plainReaders.historyGroups [hashedRun 2 "0.2", hashedRun 1 "0.1"]).eventActionGroups =
        (plainReaders.historyGroups [hashedRun 1 "0.1", hashedRun 2 "0.2"]).eventActionGroups := by
  refine history_groups ?_ ⟨[hashedRun 2 "0.2", hashedRun 1 "0.1"], .swap _ _ _,
    List.forall₂_same.mpr fun _ _ => ⟨rfl, rfl, .refl _, .refl _, .refl _⟩⟩
  have hpayload : ∀ payload ∈ plainReaders.semanticPayloads [hashedRun 1 "0.1", hashedRun 2 "0.2"],
      payload = plainReaders.transactionPayload (hashedTransaction "0.1") ∨
        payload = plainReaders.transactionPayload (hashedTransaction "0.2") := by
    rintro payload ⟨run, hrun, hrow⟩
    obtain rfl | hrun := List.mem_cons.mp hrun
    · obtain hrow | hrow | hrow := hrow
      · exact .inl (List.mem_singleton.mp hrow)
      · cases hrow
      · cases hrow
    · obtain rfl := List.mem_singleton.mp hrun
      obtain hrow | hrow | hrow := hrow
      · exact .inr (List.mem_singleton.mp hrow)
      · cases hrow
      · cases hrow
  intro payload hmem payload' hmem' heq
  obtain rfl | rfl := hpayload payload hmem <;> obtain rfl | rfl := hpayload payload' hmem'
  · rfl
  · exact absurd heq (by decide)
  · exact absurd heq (by decide)
  · rfl

/-- The observations of the hash. -/
def hashedObservations : List Observation :=
  [⟨⟨"transaction_hash".toList, "ab".toList⟩, 1,
      plainReaders.transactionPayload (hashedTransaction "0.1"), .weak⟩,
    ⟨⟨"transaction_hash".toList, "ab".toList⟩, 2,
      plainReaders.transactionPayload (hashedTransaction "0.2"), .weak⟩]

/-- Two runs observe one transaction hash with two fees: the weak group has
two semantic payloads and is not in conflict. -/
theorem weak_group_differs :
    ∃ group ∈ (plainReaders.historyGroups [hashedRun 1 "0.1", hashedRun 2 "0.2"]).transactionGroups,
      group.runIds = [1, 2] ∧ group.distinctPayloadCount = 2 ∧ group.hasConflict = false := by
  have hobserved : plainReaders.transactionObservations [hashedRun 1 "0.1", hashedRun 2 "0.2"] =
      hashedObservations := rfl
  have hruns : observedRuns hashedObservations = [1, 2] := List.mergeSort_of_pairwise (by decide)
  refine ⟨⟨⟨"transaction_hash".toList, "ab".toList⟩, .weak, [1, 2], 2, 2, false⟩, ?_, rfl, rfl, rfl⟩
  rw [(historyGroups_eq _).1, mem_transactionGroups, hobserved]
  have hrows : (hashedObservations.filter fun row =>
      row.key = ⟨"transaction_hash".toList, "ab".toList⟩) = hashedObservations := rfl
  unfold HistoryReaders.identityGroup
  rw [hrows]
  simp only [hruns]
  rfl

end TonTracker
