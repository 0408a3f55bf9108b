/-
# `Histories.IdentityGroups` — what the identity groups say

A group is a function of the multiset of its observations, so no order of
runs or rows shows in it, and the groups of a list are those of the keys
that two runs observe, each once (`mem_keys_identityGroups`).  A group that
is not weak conflicts where two of its payloads differ (`identityGroup_spec`).
-/
import TonTracker.Services.HistoryReadiness
import TonTracker.Lib.KeySort

namespace TonTracker

variable {readers : HistoryReaders} {observations observations' : List Observation}

/-! ## The order of the keys -/

theorem identityKeyOrder : KeySort.Order IdentityKey.le where
  trans a b c hab hbc := by
    simp only [IdentityKey.le, Bool.or_eq_true, Bool.and_eq_true, decide_eq_true_iff] at hab hbc ⊢
    obtain hab | ⟨hab, hab'⟩ := hab
    · obtain hbc | ⟨hbc, -⟩ := hbc
      · exact .inl (lt_trans hab hbc)
      · exact .inl (hbc ▸ hab)
    · obtain hbc | ⟨hbc, hbc'⟩ := hbc
      · exact .inl (hab ▸ hbc)
      · exact .inr ⟨hab.trans hbc, le_trans hab' hbc'⟩
  total a b := by
    simp only [IdentityKey.le, Bool.or_eq_true, Bool.and_eq_true, decide_eq_true_iff]
    obtain hlt | heq | hgt := lt_trichotomy a.identityType b.identityType
    · exact .inl (.inl hlt)
    · obtain hle | hle := le_total a.identity b.identity
      · exact .inl (.inr ⟨heq, hle⟩)
      · exact .inr (.inr ⟨heq.symm, hle⟩)
    · exact .inr (.inl hgt)
  antisymm a b hab hba := by
    simp only [IdentityKey.le, Bool.or_eq_true, Bool.and_eq_true, decide_eq_true_iff] at hab hba
    obtain ⟨type, text⟩ := a
    obtain ⟨type', text'⟩ := b
    obtain hab | ⟨hab, hab'⟩ := hab
    · obtain hba | ⟨hba, -⟩ := hba
      · exact absurd (lt_trans hab hba) (lt_irrefl _)
      · exact absurd (hba ▸ hab) (lt_irrefl _)
    · obtain hba | ⟨-, hba'⟩ := hba
      · exact absurd (hab ▸ hba) (lt_irrefl _)
      · exact IdentityKey.mk.injEq .. ▸ ⟨hab, le_antisymm hab' hba'⟩

theorem sortGroups_perm (groups : List IdentityGroup) : (sortGroups groups).Perm groups :=
  List.mergeSort_perm groups _

/-! ## One group -/

/-- Two runs observe the identity. -/
def InTwoRuns (observations : List Observation) (key : IdentityKey) : Prop :=
  ∃ a ∈ observations, ∃ b ∈ observations, a.key = key ∧ b.key = key ∧ a.runId ≠ b.runId

theorem two_le_observedRuns {rows : List Observation} :
    2 ≤ (observedRuns rows).length ↔ ∃ a ∈ rows, ∃ b ∈ rows, a.runId ≠ b.runId := by
  unfold observedRuns
  rw [List.length_mergeSort, KeySort.two_le_length_dedup]
  constructor
  · rintro ⟨_, hrun, _, hrun', hne⟩
    obtain ⟨a, ha, rfl⟩ := List.mem_map.mp hrun
    obtain ⟨b, hb, rfl⟩ := List.mem_map.mp hrun'
    exact ⟨a, ha, b, hb, hne⟩
  · rintro ⟨a, ha, b, hb, hne⟩
    exact ⟨_, List.mem_map_of_mem ha, _, List.mem_map_of_mem hb, hne⟩

theorem groupStrength_eq_of_all {rows : List Observation} {strength : IdentityStrength}
    (hne : rows ≠ []) (h : ∀ row ∈ rows, row.strength = strength) :
    groupStrength rows = strength := by
  have hdedup : (rows.map (·.strength)).dedup = [strength] := by
    rw [List.eq_replicate_of_mem (l := rows.map (·.strength)) (a := strength) (by simpa using h),
      List.replicate_dedup (by simpa using hne)]
  unfold groupStrength
  rw [hdedup]
  cases strength <;> rfl

/-- The strength is a function of which strengths the rows have. -/
theorem groupStrength_perm {rows rows' : List Observation} (h : rows.Perm rows') :
    groupStrength rows = groupStrength rows' := by
  have hstrengths := (h.map (·.strength)).dedup
  have hsingle : ∀ s : IdentityStrength, (rows.map (·.strength)).dedup = [s] ↔
      (rows'.map (·.strength)).dedup = [s] := fun s =>
    ⟨fun heq => List.perm_singleton.mp (heq ▸ hstrengths.symm),
      fun heq => List.perm_singleton.mp (heq ▸ hstrengths)⟩
  simp only [groupStrength, hsingle]

/-- A group is a function of the multiset of its observations. -/
theorem identityGroup_perm (h : observations.Perm observations') (key : IdentityKey) :
    readers.identityGroup observations key = readers.identityGroup observations' key := by
  have hrows := h.filter fun row => decide (row.key = key)
  have hruns : observedRuns (observations.filter fun row => row.key = key) =
      observedRuns (observations'.filter fun row => row.key = key) :=
    KeySort.sort_dedup_perm KeySort.order_le (hrows.map (·.runId))
  have hpayloads : (readers.payloads (observations.filter fun row => row.key = key)).length =
      (readers.payloads (observations'.filter fun row => row.key = key)).length :=
    ((hrows.map fun row : Observation => readers.fingerprint row.payload).dedup).length_eq
  simp only [HistoryReaders.identityGroup, hruns, hpayloads, hrows.length_eq,
    groupStrength_perm hrows]

theorem identityGroup_isSome {key : IdentityKey} :
    (readers.identityGroup observations key).isSome ↔ InTwoRuns observations key := by
  have htwo := @two_le_observedRuns (observations.filter fun row => row.key = key)
  simp only [List.mem_filter, decide_eq_true_iff] at htwo
  have : InTwoRuns observations key ↔
      2 ≤ (observedRuns (observations.filter fun row => row.key = key)).length := by
    rw [htwo]
    exact ⟨fun ⟨a, ha, b, hb, hkey, hkey', hne⟩ => ⟨a, ⟨ha, hkey⟩, b, ⟨hb, hkey'⟩, hne⟩,
      fun ⟨a, ⟨ha, hkey⟩, b, ⟨hb, hkey'⟩, hne⟩ => ⟨a, ha, b, hb, hkey, hkey', hne⟩⟩
  rw [this]
  unfold HistoryReaders.identityGroup
  simp only
  split
  · next h => exact ⟨fun hsome => (nomatch hsome), fun hle => absurd h (Nat.not_lt.mpr hle)⟩
  · next h => exact ⟨fun _ => Nat.le_of_not_lt h, fun _ => rfl⟩

/-- What a group says of its observations. -/
theorem identityGroup_spec {key : IdentityKey} {group : IdentityGroup}
    (h : readers.identityGroup observations key = some group) :
    group.key = key ∧
      group.identityStrength = groupStrength (observations.filter fun row => row.key = key) ∧
      (group.hasConflict = true ↔ group.identityStrength ≠ .weak ∧
        ∃ a ∈ observations, ∃ b ∈ observations, a.key = key ∧ b.key = key ∧
          readers.fingerprint a.payload ≠ readers.fingerprint b.payload) := by
  unfold HistoryReaders.identityGroup at h
  simp only at h
  split at h
  · cases h
  · cases h
    refine ⟨rfl, rfl, ?_⟩
    rw [Bool.and_eq_true, decide_eq_true_iff, decide_eq_true_iff]
    refine and_congr_right fun _ => ?_
    unfold HistoryReaders.payloads
    rw [Nat.lt_iff_add_one_le, KeySort.two_le_length_dedup]
    constructor
    · rintro ⟨_, htext, _, htext', hne⟩
      obtain ⟨a, harow, rfl⟩ := List.mem_map.mp htext
      obtain ⟨b, hbrow, rfl⟩ := List.mem_map.mp htext'
      obtain ⟨ha, hkey⟩ := List.mem_filter.mp harow
      obtain ⟨hb, hkey'⟩ := List.mem_filter.mp hbrow
      exact ⟨a, ha, b, hb, of_decide_eq_true hkey, of_decide_eq_true hkey', hne⟩
    · rintro ⟨a, ha, b, hb, hkey, hkey', hne⟩
      exact ⟨_, List.mem_map_of_mem (List.mem_filter.mpr ⟨ha, decide_eq_true hkey⟩), _,
        List.mem_map_of_mem (List.mem_filter.mpr ⟨hb, decide_eq_true hkey'⟩), hne⟩

/-! ## All groups -/

theorem mem_identityGroups {group : IdentityGroup} :
    group ∈ readers.identityGroups observations ↔
      readers.identityGroup observations group.key = some group := by
  rw [HistoryReaders.identityGroups, (sortGroups_perm _).mem_iff, List.mem_filterMap]
  constructor
  · rintro ⟨key, -, h⟩
    rwa [(identityGroup_spec h).1]
  · intro h
    obtain ⟨a, ha, -, -, hkey, -⟩ :=
      identityGroup_isSome.mp (Option.isSome_iff_exists.mpr ⟨group, h⟩)
    exact ⟨group.key, List.mem_dedup.mpr (hkey ▸ List.mem_map_of_mem ha), h⟩

/-- Each key that two runs observe has a group, and no other. -/
theorem mem_keys_identityGroups {key : IdentityKey} :
    key ∈ (readers.identityGroups observations).map (·.key) ↔ InTwoRuns observations key := by
  rw [← @identityGroup_isSome readers, List.mem_map]
  constructor
  · rintro ⟨group, hgroup, rfl⟩
    exact Option.isSome_iff_exists.mpr ⟨group, mem_identityGroups.mp hgroup⟩
  · intro h
    obtain ⟨group, hgroup⟩ := Option.isSome_iff_exists.mp h
    obtain rfl := (identityGroup_spec hgroup).1
    exact ⟨group, mem_identityGroups.mpr hgroup, rfl⟩

/-- The keys of the groups before they are sorted. -/
theorem keys_filterMap_sublist (keys : List IdentityKey) :
    ((keys.filterMap (readers.identityGroup observations)).map (·.key)).Sublist keys := by
  induction keys with
  | nil => exact .slnil
  | cons key keys ih =>
      cases h : readers.identityGroup observations key with
      | none =>
          rw [List.filterMap_cons_none h]
          exact ih.cons key
      | some group =>
          rw [List.filterMap_cons_some h, List.map_cons, (identityGroup_spec h).1]
          exact ih.cons_cons key

theorem nodup_keys_filterMap (observations : List Observation) :
    (((observations.map (·.key)).dedup.filterMap (readers.identityGroup observations)).map
      (·.key)).Nodup :=
  (List.nodup_dedup _).sublist (keys_filterMap_sublist _)

/-- Each key has one group. -/
theorem nodup_keys_identityGroups (observations : List Observation) :
    ((readers.identityGroups observations).map (·.key)).Nodup :=
  (((sortGroups_perm _).map (·.key)).nodup_iff).mpr (nodup_keys_filterMap observations)

theorem identityGroups_perm (h : observations.Perm observations') :
    readers.identityGroups observations = readers.identityGroups observations' := by
  have hgroup : readers.identityGroup observations = readers.identityGroup observations' :=
    funext (identityGroup_perm h)
  refine KeySort.sort_perm_of_nodup identityKeyOrder (nodup_keys_filterMap observations) ?_
  rw [hgroup]
  exact (h.map (·.key)).dedup.filterMap _

end TonTracker
