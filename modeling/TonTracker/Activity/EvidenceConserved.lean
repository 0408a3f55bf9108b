/-
# `Activity.EvidenceConserved` — where the rows of the activity view go

Each row has one place (`places`): it is left out with its run, rejected,
or observed.  The groups partition the observations (`groups_perm`), so the
observations of the items and of the conflicts are all there are; ids of
items tell their groups apart (`pairwise_groups`); and neither the places
nor the groups look at the order of the rows (`items_perm`).

Rows of a run that fails the case check are left out together, and counted
by the kinds its sync asked for, not one by one.
-/
import TonTracker.Services.ActivityItems

namespace TonTracker

open Groups (valuesOf keysOf)

/-! ## Groups of observations -/

/-- The observations with a validated identity, by it. -/
def identified (observations : List ActivityObservation) :
    List ((IdentityNamespace × Text) × ActivityObservation) :=
  observations.filterMap fun o => o.identity.map fun identity => (identity, o)

variable {observations : List ActivityObservation}

theorem identityGroupsOf_eq : identityGroupsOf observations =
    (keysOf (identified observations)).map fun key =>
      (key, valuesOf (identified observations) key) :=
  Groups.foldl_append_eq _

theorem mem_identified {identity : IdentityNamespace × Text} {o : ActivityObservation} :
    (identity, o) ∈ identified observations ↔ o ∈ observations ∧ o.identity = some identity := by
  unfold identified
  rw [List.mem_filterMap]
  constructor
  · rintro ⟨o', ho', h⟩
    obtain ⟨identity', hidentity, heq⟩ := Option.map_eq_some_iff.mp h
    cases heq
    exact ⟨ho', hidentity⟩
  · rintro ⟨ho, hidentity⟩
    exact ⟨o, ho, by rw [hidentity]; rfl⟩

/-- The observations of an identity. -/
theorem valuesOf_identified (identity : IdentityNamespace × Text) :
    valuesOf (identified observations) identity =
      observations.filter fun o => decide (o.identity = some identity) := by
  unfold valuesOf identified
  rw [List.filterMap_filterMap, ← List.filterMap_eq_filter]
  refine List.filterMap_congr fun o _ => ?_
  cases h : o.identity with
  | none => simp [Option.guard, h]
  | some found => by_cases heq : found = identity <;> simp [Option.guard, h, heq]

/-- The lists of the identity groups are the observations that have one. -/
theorem flatten_identityGroups_perm :
    ((identityGroupsOf observations).map (·.2)).flatten.Perm
      (observations.filter fun o => o.identity.isSome) := by
  have hflatten : ((identityGroupsOf observations).map (·.2)).flatten =
      (keysOf (identified observations)).flatMap (valuesOf (identified observations)) := by
    rw [identityGroupsOf_eq, List.map_map]
    rfl
  have hvalues : (identified observations).map (·.2) =
      observations.filter fun o => o.identity.isSome := by
    unfold identified
    rw [List.map_filterMap, ← List.filterMap_eq_filter]
    refine List.filterMap_congr fun o _ => ?_
    cases h : o.identity <;> simp [Option.guard, h]
  rw [hflatten, ← hvalues]
  exact Groups.flatMap_valuesOf_perm (Groups.nodup_keysOf _) fun o ho =>
    Groups.mem_keysOf.mpr (List.mem_map_of_mem ho)

theorem sortOccurrences_perm (group : List ActivityObservation) :
    (sortOccurrences group).Perm group := KeySort.sortBy_perm _ _ group

theorem flatten_sorted_perm (groups : List (List ActivityObservation)) :
    (groups.map sortOccurrences).flatten.Perm groups.flatten := by
  induction groups with
  | nil => exact .nil
  | cons group groups ih =>
      rw [List.map_cons, List.flatten_cons, List.flatten_cons]
      exact (sortOccurrences_perm group).append ih

/-- Items and conflicts share out the observations. -/
theorem groups_perm (observations : List ActivityObservation) :
    ((distinctOccurrences observations).flatten ++
      (conflictedGroups observations).flatten).Perm observations := by
  have conflicts : (conflictedGroups observations).flatten.Perm
      (((identityGroupsOf observations).map (·.2)).filter fun g => !isAgreed g).flatten :=
    flatten_sorted_perm _
  have singles : ((observations.filter fun o => o.identity.isNone).map fun o => [o]).flatten =
      observations.filter fun o => o.identity.isNone := by
    rw [← List.flatMap_def, List.flatMap_singleton']
  have split : ((((identityGroupsOf observations).map (·.2)).filter isAgreed).flatten ++
      (((identityGroupsOf observations).map (·.2)).filter fun g => !isAgreed g).flatten).Perm
      ((identityGroupsOf observations).map (·.2)).flatten := by
    rw [← List.flatten_append]
    exact (List.filter_append_perm isAgreed _).flatten
  unfold distinctOccurrences
  rw [List.flatten_append, singles, List.append_assoc]
  refine (((conflicts.append_left _).trans
    (split.trans flatten_identityGroups_perm)).append_left _).trans ?_
  have hsome : (observations.filter fun o => o.identity.isSome) =
      observations.filter fun o => !o.identity.isNone :=
    List.filter_congr fun o _ => by cases o.identity <;> rfl
  rw [hsome]
  exact List.filter_append_perm _ _

/-! ## Public ids -/

section PublicIds

/-- What tells an observation apart: the row it is of. -/
def ActivityObservation.rowKey (o : ActivityObservation) : ActivityKind × Nat :=
  (o.semantics.kind, o.rowId)

variable {readers : ActivityReaders} {c : CaseColumns} {o o' : ActivityObservation}

/-- A text up to its first bar, and what follows it. -/
theorem bar_inj {a b x y : Text} (ha : '|' ∉ a) (hb : '|' ∉ b)
    (h : a ++ '|' :: x = b ++ '|' :: y) : a = b ∧ x = y := by
  induction a generalizing b with
  | nil =>
      cases b with
      | nil => exact ⟨rfl, (List.cons.inj h).2⟩
      | cons d b => exact absurd ((List.cons.inj h).1 ▸ List.mem_cons_self) hb
  | cons d a ih =>
      cases b with
      | nil => exact absurd ((List.cons.inj h).1 ▸ List.mem_cons_self) ha
      | cons e b =>
          obtain ⟨rfl, hrest⟩ := List.cons.inj h
          obtain ⟨rfl, rfl⟩ := ih (fun hmem => ha (List.mem_cons_of_mem _ hmem))
            (fun hmem => hb (List.mem_cons_of_mem _ hmem)) hrest
          exact ⟨rfl, rfl⟩

theorem bar_not_mem_namespace (n : IdentityNamespace) : '|' ∉ n.text := by
  cases n <;> decide

theorem bar_not_mem_kind (kind : ActivityKind) : '|' ∉ kind.text := by
  cases kind <;> decide

theorem namespace_text_injective {n n' : IdentityNamespace} (h : n.text = n'.text) : n = n' := by
  cases n <;> cases n' <;> first | rfl | exact absurd h (by decide)

theorem kind_text_injective {k k' : ActivityKind} (h : k.text = k'.text) : k = k' := by
  cases k <;> cases k' <;> first | rfl | exact absurd h (by decide)

/-- The identity of an observation without a validated one. -/
def unavailableText (o : ActivityObservation) : Text :=
  "unavailable|".toList ++ o.syncPublicId.text ++ '|' ::
    (o.semantics.kind.text ++ '|' :: Nat.toDigits 10 o.rowId)

theorem unavailableText_injective (h : unavailableText o = unavailableText o') :
    o.rowKey = o'.rowKey := by
  unfold unavailableText at h
  rw [List.append_assoc, List.append_assoc] at h
  have hrest := List.append_cancel_left h
  obtain ⟨-, hrest⟩ := List.append_inj hrest (by rw [o.syncPublicId.length, o'.syncPublicId.length])
  obtain ⟨-, hrest⟩ := List.cons.inj hrest
  obtain ⟨hkind, hdigits⟩ := bar_inj (bar_not_mem_kind _) (bar_not_mem_kind _) hrest
  have hrow := congrArg (Nat.ofDigitChars 10 · 0) hdigits
  rw [Nat.ofDigitChars_ten_toDigits, Nat.ofDigitChars_ten_toDigits] at hrow
  exact Prod.ext (kind_text_injective hkind) hrow

theorem namespaceText_ne_unavailable (n : IdentityNamespace) (key : Text) :
    n.text ++ '|' :: key ≠ unavailableText o := by
  intro h
  have hsplit : unavailableText o = "unavailable".toList ++ '|' :: (o.syncPublicId.text ++ '|' ::
      (o.semantics.kind.text ++ '|' :: Nat.toDigits 10 o.rowId)) := by
    unfold unavailableText
    rw [List.append_assoc]
    rfl
  rw [hsplit] at h
  obtain ⟨hname, -⟩ := bar_inj (bar_not_mem_namespace n) (by decide) h
  cases n <;> exact absurd hname (by decide)

/-- Observations under one id are of one row, or of one validated identity. -/
theorem same_of_identityText (h : identityText o = identityText o') :
    o.rowKey = o'.rowKey ∨ o.identity.isSome = true ∧ o.identity = o'.identity := by
  have hcases : ∀ o : ActivityObservation, identityText o = unavailableText o ∨
      ∃ n key, o.identity = some (n, key) ∧ identityText o = n.text ++ '|' :: key := by
    intro o
    unfold identityText
    split
    case h_1 n key hidentity =>
      dsimp only
      split
      · exact .inr ⟨n, key, hidentity, rfl⟩
      · exact .inl rfl
    case h_2 => exact .inl rfl
  rcases hcases o with ho | ⟨n, key, hidentity, ho⟩
  · rcases hcases o' with ho' | ⟨n', key', -, ho'⟩
    · exact .inl (unavailableText_injective (ho.symm.trans (h.trans ho')))
    · exact absurd (ho'.symm.trans (h.symm.trans ho)) (namespaceText_ne_unavailable n' key')
  · rcases hcases o' with ho' | ⟨n', key', hidentity', ho'⟩
    · exact absurd (ho.symm.trans (h.trans ho')) (namespaceText_ne_unavailable n key)
    · rw [ho, ho'] at h
      obtain ⟨hname, hkey⟩ := bar_inj (bar_not_mem_namespace n) (bar_not_mem_namespace n') h
      refine .inr ⟨by rw [hidentity]; rfl, ?_⟩
      rw [hidentity, hidentity', namespace_text_injective hname, hkey]

theorem digest_of_publicId (h : activityPublicId readers c o = activityPublicId readers c o') :
    readers.sha256 (activitySeed c o) = readers.sha256 (activitySeed c o') := by
  have htext := List.append_cancel_left h
  generalize readers.sha256 _ = a at htext ⊢
  generalize readers.sha256 _ = b at htext ⊢
  cases a
  cases b
  obtain rfl : _ = _ := htext
  rfl

theorem identityText_of_seed (h : activitySeed c o = activitySeed c o') :
    identityText o = identityText o' :=
  (List.cons.inj (List.append_cancel_left h)).2

/-- In different groups of items, no two observations have one row or one
validated identity. -/
theorem pairwise_groups {observations : List ActivityObservation}
    (rows : (observations.map (·.rowKey)).Nodup) :
    (distinctOccurrences observations).Pairwise fun g g' => ∀ o ∈ g, ∀ o' ∈ g',
      ¬ (o.rowKey = o'.rowKey ∨ o.identity.isSome = true ∧ o.identity = o'.identity) := by
  have hnodup := (rows.of_map _)
  have flat : ((distinctOccurrences observations).flatten.map (·.rowKey)).Nodup := by
    have hperm := (groups_perm observations).map (·.rowKey)
    rw [List.map_append] at hperm
    exact (List.nodup_append.mp (hperm.nodup_iff.mpr rows)).1
  have byRow : (distinctOccurrences observations).Pairwise fun g g' => ∀ o ∈ g, ∀ o' ∈ g',
      o.rowKey ≠ o'.rowKey := by
    rw [List.map_flatten] at flat
    have hpairs := (List.nodup_flatten.mp flat).2
    rw [List.pairwise_map] at hpairs
    refine hpairs.imp fun {g g'} hdisjoint o ho o' ho' heq => ?_
    exact hdisjoint (List.mem_map_of_mem ho) (heq ▸ List.mem_map_of_mem ho')
  have byIdentity : (distinctOccurrences observations).Pairwise fun g g' => ∀ o ∈ g, ∀ o' ∈ g',
      ¬ (o.identity.isSome = true ∧ o.identity = o'.identity) := by
    have single : ∀ g ∈ (observations.filter fun o => o.identity.isNone).map fun o => [o],
        ∀ o ∈ g, o.identity = none := by
      intro g hg o ho
      obtain ⟨o', ho', rfl⟩ := List.mem_map.mp hg
      rw [List.mem_singleton.mp ho]
      exact Option.isNone_iff_eq_none.mp (List.mem_filter.mp ho').2
    have grouped : ((identityGroupsOf observations).map (·.2)).Pairwise fun g g' =>
        ∀ o ∈ g, ∀ o' ∈ g', ¬ (o.identity.isSome = true ∧ o.identity = o'.identity) := by
      rw [identityGroupsOf_eq, List.map_map, List.pairwise_map]
      refine (Groups.nodup_keysOf (identified observations)).imp
        fun {k k'} hne o ho o' ho' heq => ?_
      have hidentity := (mem_identified.mp (Groups.mem_valuesOf.mp ho)).2
      have hidentity' := (mem_identified.mp (Groups.mem_valuesOf.mp ho')).2
      rw [hidentity, hidentity'] at heq
      exact hne (Option.some.inj heq.2)
    refine List.pairwise_append.mpr ⟨?_, grouped.filter _, fun g hg g' _ o ho o' _ heq => ?_⟩
    · refine (List.pairwise_of_forall_mem_list fun g hg g' _ o ho o' _ heq => ?_)
      rw [single g hg o ho] at heq
      exact absurd heq.1 (by decide)
    · rw [single g hg o ho] at heq
      exact absurd heq.1 (by decide)
  exact (byRow.and byIdentity).imp fun {g g'} h o ho o' ho' hsame =>
    hsame.elim (h.1 o ho o' ho') (h.2 o ho o' ho')

end PublicIds

/-! ## Rows -/

section Rows

/-- Ids of rows and runs as the database gives them: each row of a table has
its own, and no two syncs share a run. -/
structure ActivityRowSources.Distinct (sources : ActivityRowSources) : Prop where
  rows : ∀ kind, ((sources.rows kind).map (·.id)).Nodup
  runs : (sources.syncs.filterMap fun sync => sync.2.ingestionRunId).Nodup

variable {readers : ActivityReaders} {c : CaseColumns} {sources sources' : ActivityRowSources}

theorem allRows_nodup (distinct : sources.Distinct) :
    (sources.allRows.map fun row => (row.1, row.2.id)).Nodup := by
  have ofKind : ∀ kind, ((sources.rows kind).map fun row => (kind, row.id)).Nodup := fun kind =>
    List.Nodup.of_map Prod.snd (by rw [List.map_map]; exact distinct.rows kind)
  have hmap : (sources.allRows.map fun row => (row.1, row.2.id)) =
      [ActivityKind.transaction, .transfer, .swap].flatMap fun kind =>
        (sources.rows kind).map fun row => (kind, row.id) := by
    unfold ActivityRowSources.allRows
    rw [List.map_flatMap]
    simp only [List.map_map]
    rfl
  rw [hmap, List.nodup_flatMap]
  refine ⟨fun kind _ => ofKind kind, ?_⟩
  have hkinds : [ActivityKind.transaction, .transfer, .swap].Pairwise (· ≠ ·) := by decide
  refine hkinds.imp fun {k k'} hne => ?_
  intro pair hpair hpair'
  obtain ⟨_, -, rfl⟩ := List.mem_map.mp hpair
  obtain ⟨_, -, heq⟩ := List.mem_map.mp hpair'
  exact hne (Prod.mk.inj heq).1.symm

/-- An observation is of the row it was made of. -/
theorem rowKey_of_placeRow {kind : ActivityKind} {row : ActivitySourceRow}
    {o : ActivityObservation} (h : placeRow readers c sources kind row = .observed o) :
    o.rowKey = (kind, row.id) := by
  unfold placeRow at h
  split at h
  case h_1 => cases h
  case h_2 =>
    split at h
    case isTrue => cases h
    case isFalse =>
      split at h
      case isTrue => cases h
      case isFalse =>
        split at h
        case h_1 => cases h
        case h_2 =>
          cases h
          rfl

theorem activityObservations_eq : activityObservations readers c sources =
    sources.allRows.filterMap fun row =>
      match placeRow readers c sources row.1 row.2 with
      | .observed o => some o
      | _ => none := by
  unfold activityObservations places
  rw [List.filterMap_map]
  refine List.filterMap_congr fun row _ => ?_
  dsimp only [Function.comp]
  cases placeRow readers c sources row.1 row.2 <;> rfl

theorem observations_nodup (distinct : sources.Distinct) :
    ((activityObservations readers c sources).map (·.rowKey)).Nodup := by
  have hsublist : ((activityObservations readers c sources).map (·.rowKey)).Sublist
      (sources.allRows.map fun row => (row.1, row.2.id)) := by
    rw [activityObservations_eq]
    generalize sources.allRows = rows
    induction rows with
    | nil => exact .slnil
    | cons row rows ih =>
        rw [List.filterMap_cons, List.map_cons]
        cases h : placeRow readers c sources row.1 row.2 with
        | observed o =>
            rw [List.map_cons, rowKey_of_placeRow h]
            exact ih.cons_cons _
        | omitted => exact ih.cons _
        | scopeMismatch => exact ih.cons _
        | invalidProvenance => exact ih.cons _
  exact (allRows_nodup distinct).sublist hsublist

/-- The rows of a place that is not an observation. -/
def rowsAt (readers : ActivityReaders) (c : CaseColumns) (sources : ActivityRowSources)
    (place : RowPlace) : List ActivityKind :=
  ((places readers c sources).filter (·.2 = place)).map (·.1)

/-- Every row is in one of the four places. -/
theorem length_places (readers : ActivityReaders) (c : CaseColumns)
    (sources : ActivityRowSources) : sources.allRows.length =
    (activityObservations readers c sources).length +
      (rowsAt readers c sources .scopeMismatch).length +
      (rowsAt readers c sources .invalidProvenance).length +
      (rowsAt readers c sources .omitted).length := by
  have hlength : (places readers c sources).length = sources.allRows.length := List.length_map _
  rw [← hlength]
  unfold activityObservations rowsAt
  generalize places readers c sources = l
  induction l with
  | nil => rfl
  | cons entry l ih =>
      obtain ⟨kind, place⟩ := entry
      cases place <;> simp_all <;> omega

/-- A group has an item, which counts its observations. -/
theorem exists_activityItem (readers : ActivityReaders) (c : CaseColumns)
    {group : List ActivityObservation} (hne : group ≠ []) :
    ∃ item, activityItem readers c group = some item ∧
      item.observationCount = group.length := by
  unfold activityItem
  rw [List.head?_eq_some_head hne, List.getLast?_eq_some_getLast hne]
  exact ⟨_, rfl, rfl⟩

/-- The observations of the items are those of the groups. -/
theorem items_of_groups (readers : ActivityReaders) (c : CaseColumns)
    {groups : List (List ActivityObservation)} (hne : ∀ g ∈ groups, g ≠ []) :
    ((groups.filterMap (activityItem readers c)).map (·.observationCount)).sum =
        groups.flatten.length ∧
      ((groups.filterMap fun group => (activityItem readers c group).map fun item =>
        (item.publicId, group)).map (·.2)) = groups := by
  induction groups with
  | nil => exact ⟨rfl, rfl⟩
  | cons group groups ih =>
      obtain ⟨hcounts, hgroups⟩ := ih fun g hg => hne g (List.mem_cons_of_mem _ hg)
      obtain ⟨item, hitem, hcount⟩ := exists_activityItem readers c
        (hne group List.mem_cons_self)
      constructor
      · rw [List.filterMap_cons_some hitem, List.map_cons, List.sum_cons, hcount, hcounts,
          List.flatten_cons, List.length_append]
      · rw [List.filterMap_cons_some (by rw [hitem]; rfl), List.map_cons, hgroups]

theorem distinctOccurrences_ne_nil {observations : List ActivityObservation} :
    ∀ g ∈ distinctOccurrences observations, g ≠ [] := by
  intro g hg
  rcases List.mem_append.mp hg with hg | hg
  · obtain ⟨o, -, rfl⟩ := List.mem_map.mp hg
    exact List.cons_ne_nil _ _
  · have hg := List.mem_of_mem_filter hg
    rw [identityGroupsOf_eq, List.map_map] at hg
    obtain ⟨key, hkey, rfl⟩ := List.mem_map.mp hg
    exact Groups.valuesOf_ne_nil hkey

end Rows

/-! ## The order of rows and syncs -/

section Order

variable {readers : ActivityReaders} {c : CaseColumns} {sources sources' : ActivityRowSources}

/-- The same sources in another order. -/
structure ActivityRowSources.Reordered (sources sources' : ActivityRowSources) : Prop where
  syncs : sources'.syncs.Perm sources.syncs
  runs : ∀ runId, sources'.runs.lookup runId = sources.runs.lookup runId
  rows : ∀ kind, (sources'.rows kind).Perm (sources.rows kind)

/-- In a list of distinct keys, what is looked up is what is there. -/
theorem lookup_iff_mem {α : Type} {l : List (Nat × α)} (nodup : (l.map (·.1)).Nodup) {key : Nat}
    {a : α} : l.lookup key = some a ↔ (key, a) ∈ l := by
  induction l with
  | nil => simp
  | cons entry l ih =>
      obtain ⟨k, b⟩ := entry
      rw [List.map_cons, List.nodup_cons] at nodup
      rw [List.lookup_cons, List.mem_cons]
      by_cases hkey : key = k
      · subst hkey
        simp only [BEq.rfl, Option.some.injEq]
        constructor
        · rintro rfl
          exact .inl rfl
        · rintro (h | h)
          · exact (Prod.mk.inj h).2.symm
          · exact absurd (List.mem_map_of_mem h) nodup.1
      · rw [beq_false_of_ne hkey]
        dsimp only
        rw [ih nodup.2]
        refine ⟨.inr, fun h => h.resolve_left fun heq => hkey (Prod.mk.inj heq).1⟩

theorem syncByRun_keys (sources : ActivityRowSources) :
    ((syncByRun sources).map (·.1)).Nodup := Groups.nodup_foldl_upsert _

theorem mem_syncByRun (distinct : sources.Distinct) {runId : Nat} {sync : Nat × SyncRow} :
    (runId, sync) ∈ syncByRun sources ↔
      sync ∈ sources.syncs ∧ sync.2.ingestionRunId = some runId := by
  unfold syncByRun
  rw [Groups.mem_foldl_upsert]
  have hmem : ∀ {sync : Nat × SyncRow}, sync ∈ valuesOf (sources.syncs.filterMap fun sync =>
      sync.2.ingestionRunId.map fun runId => (runId, sync)) runId ↔
      sync ∈ sources.syncs ∧ sync.2.ingestionRunId = some runId := by
    intro sync
    rw [Groups.mem_valuesOf, List.mem_filterMap]
    constructor
    · rintro ⟨found, hfound, h⟩
      obtain ⟨id, hid, heq⟩ := Option.map_eq_some_iff.mp h
      cases heq
      exact ⟨hfound, hid⟩
    · rintro ⟨hsync, hid⟩
      exact ⟨sync, hsync, by rw [hid]; rfl⟩
  have hone := Groups.length_valuesOf_le_one (fun sync : Nat × SyncRow => sync.2.ingestionRunId)
    distinct.runs runId
  rw [← hmem]
  cases hvalues : valuesOf (sources.syncs.filterMap fun sync =>
      sync.2.ingestionRunId.map fun runId => (runId, sync)) runId with
  | nil => exact iff_of_false (fun h => nomatch h) List.not_mem_nil
  | cons first rest =>
      rw [hvalues] at hone
      obtain rfl : rest = [] := List.eq_nil_of_length_eq_zero (by simpa using hone)
      rw [List.mem_singleton]
      exact ⟨fun h => (Option.some.inj h).symm, fun h => congrArg some h.symm⟩

theorem validRuns_keys (readers : ActivityReaders) (c : CaseColumns)
    (sources : ActivityRowSources) : ((validRuns readers c sources).map (·.1)).Nodup := by
  have hsublist : ((validRuns readers c sources).map (·.1)).Sublist
      ((syncByRun sources).map (·.1)) := by
    unfold validRuns
    generalize syncByRun sources = entries
    induction entries with
    | nil => exact .slnil
    | cons entry entries ih =>
        cases h : validRun readers c sources entry.1 entry.2 with
        | none =>
            rw [List.filterMap_cons_none (by rw [h]; rfl)]
            exact ih.cons _
        | some run =>
            rw [List.filterMap_cons_some (by rw [h]; rfl)]
            exact ih.cons_cons _
  exact (syncByRun_keys sources).sublist hsublist

/-- A row has one place whatever the order. -/
theorem placeRow_reordered (distinct : sources.Distinct) (distinct' : sources'.Distinct)
    (h : sources.Reordered sources') (kind : ActivityKind) (row : ActivitySourceRow) :
    placeRow readers c sources' kind row = placeRow readers c sources kind row := by
  have hlookup : (validRuns readers c sources').lookup row.runId =
      (validRuns readers c sources).lookup row.runId := by
    refine Option.ext fun found => ?_
    rw [lookup_iff_mem (validRuns_keys readers c sources'),
      lookup_iff_mem (validRuns_keys readers c sources)]
    unfold validRuns
    rw [List.mem_filterMap, List.mem_filterMap]
    have hentry : ∀ entry : Nat × Nat × SyncRow,
        entry ∈ syncByRun sources' ↔ entry ∈ syncByRun sources := by
      rintro ⟨runId, sync⟩
      rw [mem_syncByRun distinct', mem_syncByRun distinct, h.syncs.mem_iff]
    have hrun : ∀ runId sync, validRun readers c sources' runId sync =
        validRun readers c sources runId sync := by
      intro runId sync
      unfold validRun
      rw [h.runs]
    simp only [hentry, hrun]
  unfold placeRow
  rw [hlookup]

theorem allRows_perm (h : sources.Reordered sources') :
    sources'.allRows.Perm sources.allRows := by
  unfold ActivityRowSources.allRows
  exact List.Perm.flatMap_left _ fun kind _ => (h.rows kind).map _

theorem observations_perm (distinct : sources.Distinct) (distinct' : sources'.Distinct)
    (h : sources.Reordered sources') :
    (activityObservations readers c sources').Perm (activityObservations readers c sources) := by
  rw [activityObservations_eq, activityObservations_eq]
  simp only [placeRow_reordered distinct distinct' h]
  exact (allRows_perm h).filterMap _

/-- Observations that agree are told apart by their rows alone. -/
theorem sortOccurrences_eq {group group' : List ActivityObservation}
    (rows : (group.map (·.rowKey)).Nodup) (agreed : ∀ o ∈ group, ∀ o' ∈ group,
      o.semantics.kind = o'.semantics.kind) (h : group.Perm group') :
    sortOccurrences group = sortOccurrences group' := by
  refine KeySort.sort_perm KeySort.order_le (fun o ho o' ho' heq => ?_) h
  have hrow : o.rowId = o'.rowId := congrArg Prod.snd (toLex.injective heq)
  exact List.inj_on_of_nodup_map rows ho ho' (Prod.ext (agreed o ho o' ho') hrow)

theorem isAgreed_perm {group group' : List ActivityObservation} (h : group.Perm group') :
    isAgreed group = isAgreed group' := by
  unfold isAgreed
  rw [(h.map _).dedup.length_eq]

/-- What one sync and another show of an identity is the same, where they
agree. -/
theorem kind_of_isAgreed {group : List ActivityObservation}
    (injective : Set.InjOn readers.fingerprint {s | ∃ o ∈ group, o.semantics = s})
    (fingerprints : ∀ o ∈ group, o.semanticFingerprint = readers.fingerprint o.semantics)
    (h : isAgreed group = true) :
    ∀ o ∈ group, ∀ o' ∈ group, o.semantics.kind = o'.semantics.kind := by
  intro o ho o' ho'
  have hone : (group.map (·.semanticFingerprint)).dedup.length = 1 := of_decide_eq_true h
  obtain ⟨fingerprint, hdedup⟩ := List.length_eq_one_iff.mp hone
  have hall : ∀ o ∈ group, o.semanticFingerprint = fingerprint := fun o ho => by
    have hmem := List.mem_dedup.mpr (List.mem_map_of_mem (f := (·.semanticFingerprint)) ho)
    rw [hdedup] at hmem
    exact List.mem_singleton.mp hmem
  have heq := (hall o ho).trans (hall o' ho').symm
  rw [fingerprints o ho, fingerprints o' ho'] at heq
  exact congrArg ActivitySemantics.kind (injective ⟨o, ho, rfl⟩ ⟨o', ho', rfl⟩ heq)

theorem fingerprint_of_observed {o : ActivityObservation}
    (h : o ∈ activityObservations readers c sources) :
    o.semanticFingerprint = readers.fingerprint o.semantics := by
  rw [activityObservations_eq] at h
  obtain ⟨row, -, hrow⟩ := List.mem_filterMap.mp h
  split at hrow
  case h_2 => cases hrow
  case h_1 found hplace =>
    cases hrow
    unfold placeRow at hplace
    split at hplace
    case h_1 => cases hplace
    case h_2 =>
      split at hplace
      case isTrue => cases hplace
      case isFalse =>
        split at hplace
        case isTrue => cases hplace
        case isFalse =>
          split at hplace
          case h_1 => cases hplace
          case h_2 =>
            cases hplace
            rfl

/-- The sorted groups of the items. -/
theorem sortedGroups_perm {observations observations' : List ActivityObservation}
    (injective : Set.InjOn readers.fingerprint {s | ∃ o ∈ observations, o.semantics = s})
    (rows : (observations.map (·.rowKey)).Nodup)
    (fingerprints : ∀ o ∈ observations, o.semanticFingerprint = readers.fingerprint o.semantics)
    (h : observations'.Perm observations) :
    ((distinctOccurrences observations').map sortOccurrences).Perm
      ((distinctOccurrences observations).map sortOccurrences) := by
  have hidentified : (identified observations').Perm (identified observations) := h.filterMap _
  have hgroup : ∀ key, isAgreed (valuesOf (identified observations) key) = true →
      sortOccurrences (valuesOf (identified observations') key) =
        sortOccurrences (valuesOf (identified observations) key) := by
    intro key hagreed
    have hvalues : ((valuesOf (identified observations) key).map (·.rowKey)).Nodup := by
      rw [valuesOf_identified]
      exact rows.sublist (List.filter_sublist.map _)
    have hmem : ∀ o ∈ valuesOf (identified observations) key, o ∈ observations := fun o ho =>
      (mem_identified.mp (Groups.mem_valuesOf.mp ho)).1
    have hkinds := kind_of_isAgreed
      (injective.mono fun s ⟨o, ho, hs⟩ => ⟨o, hmem o ho, hs⟩)
      (fun o ho => fingerprints o (hmem o ho)) hagreed
    exact (sortOccurrences_eq hvalues hkinds (Groups.valuesOf_perm hidentified key).symm).symm
  unfold distinctOccurrences
  rw [List.map_append, List.map_append]
  refine List.Perm.append (((h.filter _).map _).map _) ?_
  have hgroups : ∀ observations : List ActivityObservation,
      (((identityGroupsOf observations).map (·.2)).filter isAgreed).map sortOccurrences =
        ((keysOf (identified observations)).filter fun key =>
          isAgreed (valuesOf (identified observations) key)).map fun key =>
            sortOccurrences (valuesOf (identified observations) key) := by
    intro observations
    rw [identityGroupsOf_eq, List.map_map, List.filter_map, List.map_map]
    rfl
  rw [hgroups, hgroups]
  have hkeys : ((keysOf (identified observations')).filter fun key =>
      isAgreed (valuesOf (identified observations') key)).Perm
      ((keysOf (identified observations)).filter fun key =>
        isAgreed (valuesOf (identified observations) key)) := by
    have hagree : ∀ key, isAgreed (valuesOf (identified observations') key) =
        isAgreed (valuesOf (identified observations) key) := fun key =>
      isAgreed_perm (Groups.valuesOf_perm hidentified key)
    simp only [hagree]
    exact (Groups.keysOf_perm hidentified).filter _
  refine (hkeys.map _).trans (List.Perm.of_eq (List.map_congr_left fun key hkey => ?_))
  exact hgroup key (List.mem_filter.mp hkey).2

end Order

/-! ## The view -/

section View

variable {readers : ActivityReaders} {c : CaseColumns} {sources sources' : ActivityRowSources}

/-- What is hashed of the observations has digests of its own. -/
structure CollisionFree (readers : ActivityReaders) (c : CaseColumns)
    (sources : ActivityRowSources) : Prop where
  seeds : Set.InjOn readers.sha256
    {seed | ∃ o ∈ activityObservations readers c sources, activitySeed c o = seed}
  semantics : Set.InjOn readers.fingerprint
    {s | ∃ o ∈ activityObservations readers c sources, o.semantics = s}

theorem mem_of_mem_distinct {observations group : List ActivityObservation}
    {o : ActivityObservation} (hgroup : group ∈ distinctOccurrences observations)
    (ho : o ∈ group) : o ∈ observations :=
  (groups_perm _).mem_iff.mp (List.mem_append_left _ (List.mem_flatten.mpr ⟨group, hgroup, ho⟩))

theorem activityItem_publicId {group : List ActivityObservation} {item : ActivityItem}
    (h : activityItem readers c group = some item) :
    ∃ o ∈ group, item.publicId = activityPublicId readers c o := by
  unfold activityItem at h
  split at h
  case h_1 first winner hfirst hlast =>
    cases h
    exact ⟨winner, List.mem_of_getLast? hlast, rfl⟩
  case h_2 => cases h

theorem items_nodup (distinct : sources.Distinct) (free : CollisionFree readers c sources) :
    ((buildActivity readers c sources).items.map (·.publicId)).Nodup := by
  unfold buildActivity List.Nodup
  dsimp only
  rw [List.pairwise_map, List.pairwise_filterMap, List.pairwise_map]
  refine List.Pairwise.imp_of_mem (fun {g g'} hg hg' hapart item hitem item' hitem' hid => ?_)
    (pairwise_groups (observations_nodup distinct))
  obtain ⟨o, ho, hpublic⟩ := activityItem_publicId hitem
  obtain ⟨o', ho', hpublic'⟩ := activityItem_publicId hitem'
  have ho := (sortOccurrences_perm g).mem_iff.mp ho
  have ho' := (sortOccurrences_perm g').mem_iff.mp ho'
  have hdigest := digest_of_publicId (hpublic.symm.trans (hid.trans hpublic'))
  have hseed := free.seeds ⟨o, mem_of_mem_distinct hg ho, rfl⟩
    ⟨o', mem_of_mem_distinct hg' ho', rfl⟩ hdigest
  exact hapart o ho o' ho' (same_of_identityText (identityText_of_seed hseed))

theorem ActivityRowSources.Reordered.distinct (h : sources.Reordered sources')
    (distinct : sources.Distinct) : sources'.Distinct where
  rows kind := ((h.rows kind).map _).nodup_iff.mpr (distinct.rows kind)
  runs := (h.syncs.filterMap _).nodup_iff.mpr distinct.runs

/-- Rows and syncs in another order show the same items. -/
theorem items_perm (distinct : sources.Distinct) (free : CollisionFree readers c sources)
    (h : sources.Reordered sources') :
    (buildActivity readers c sources').items.Perm (buildActivity readers c sources).items :=
  (sortedGroups_perm free.semantics (observations_nodup distinct)
    (fun _ ho => fingerprint_of_observed ho)
    (observations_perm distinct (h.distinct distinct) h)).filterMap _

/-- The rows that are left out are those of no run that passes the check. -/
theorem placeRow_omitted_iff (distinct : sources.Distinct) {kind : ActivityKind}
    {row : ActivitySourceRow} : placeRow readers c sources kind row = .omitted ↔
      ∀ sync ∈ sources.syncs, sync.2.ingestionRunId = some row.runId →
        validRun readers c sources row.runId sync = none := by
  have hlookup : placeRow readers c sources kind row = .omitted ↔
      (validRuns readers c sources).lookup row.runId = none := by
    unfold placeRow
    cases h : (validRuns readers c sources).lookup row.runId with
    | none => exact ⟨fun _ => rfl, fun _ => rfl⟩
    | some found =>
        refine iff_of_false (fun heq => ?_) (Option.some_ne_none _)
        dsimp only at heq
        split_ifs at heq
        split at heq <;> cases heq
  rw [hlookup]
  constructor
  · intro hnone sync hsync hrun
    by_contra hvalid
    obtain ⟨run, hvalid⟩ := Option.ne_none_iff_exists'.mp hvalid
    have hmem : (row.runId, sync, run) ∈ validRuns readers c sources :=
      List.mem_filterMap.mpr ⟨(row.runId, sync), (mem_syncByRun distinct).mpr ⟨hsync, hrun⟩,
        by rw [hvalid]; rfl⟩
    rw [(lookup_iff_mem (validRuns_keys readers c sources)).mpr hmem] at hnone
    cases hnone
  · intro hnone
    rw [Option.eq_none_iff_forall_ne_some]
    rintro ⟨sync, run⟩ hfound
    have hmem := (lookup_iff_mem (validRuns_keys readers c sources)).mp hfound
    obtain ⟨⟨runId, found⟩, hentry, h⟩ := List.mem_filterMap.mp hmem
    obtain ⟨valid, hvalid, heq⟩ := Option.map_eq_some_iff.mp h
    obtain ⟨rfl, -⟩ := Prod.mk.inj heq
    obtain ⟨hsync, hrun⟩ := (mem_syncByRun distinct).mp hentry
    rw [hnone _ hsync hrun] at hvalid
    cases hvalid

/-- The observations of the items and conflicts, and their number. -/
theorem observations_shared (readers : ActivityReaders) (c : CaseColumns)
    (sources : ActivityRowSources) :
    (((buildActivity readers c sources).observationsByPublicId.map (·.2)).flatten ++
        (buildActivity readers c sources).conflictedGroups.flatten).Perm
          (activityObservations readers c sources) ∧
      ((buildActivity readers c sources).items.map (·.observationCount)).sum +
          (buildActivity readers c sources).conflictedGroups.flatten.length =
        (activityObservations readers c sources).length := by
  have hne : ∀ g ∈ (distinctOccurrences (activityObservations readers c sources)).map
      sortOccurrences, g ≠ [] := by
    intro g hg
    obtain ⟨group, hgroup, rfl⟩ := List.mem_map.mp hg
    exact fun hnil => distinctOccurrences_ne_nil group hgroup
      (List.perm_nil.mp (hnil ▸ (sortOccurrences_perm group).symm))
  obtain ⟨hcounts, hgroups⟩ := items_of_groups readers c hne
  have hsorted := flatten_sorted_perm
    (distinctOccurrences (activityObservations readers c sources))
  have hperm := groups_perm (activityObservations readers c sources)
  constructor
  · unfold buildActivity
    dsimp only
    rw [hgroups]
    exact (hsorted.append_right _).trans hperm
  · have hlength := hperm.length_eq
    rw [List.length_append] at hlength
    rw [hsorted.length_eq] at hcounts
    exact (congrArg (· + _) hcounts).trans hlength

/-- What is counted, and the rows left out, are the rows. -/
theorem counts_add_up (readers : ActivityReaders) (c : CaseColumns)
    (sources : ActivityRowSources) :
    ((buildActivity readers c sources).items.map (·.observationCount)).sum +
          (buildActivity readers c sources).conflictedGroups.flatten.length +
          (rowsAt readers c sources .scopeMismatch).length +
          (buildActivity readers c sources).invalidProvenanceKinds.length +
          (rowsAt readers c sources .omitted).length = sources.allRows.length := by
  rw [(observations_shared readers c sources).2]
  exact (length_places readers c sources).symm

/-- `_build_activity` loses no evidence of a run that passes the case check:
its rows are each an observation of one item, of one conflict, or one of the
counted rejections, and the counts add up to the rows; the other rows are
left out by run.  Items have ids of their own, and the order of rows and
syncs does not change them. -/
theorem activity_conserves_evidence (readers : ActivityReaders) (c : CaseColumns)
    (sources : ActivityRowSources) (distinct : sources.Distinct)
    (free : CollisionFree readers c sources) :
    ((activityObservations readers c sources).map (·.rowKey)).Nodup ∧
      (((buildActivity readers c sources).observationsByPublicId.map (·.2)).flatten ++
        (buildActivity readers c sources).conflictedGroups.flatten).Perm
          (activityObservations readers c sources) ∧
      ((buildActivity readers c sources).items.map (·.observationCount)).sum +
          (buildActivity readers c sources).conflictedGroups.flatten.length +
          (rowsAt readers c sources .scopeMismatch).length +
          (buildActivity readers c sources).invalidProvenanceKinds.length +
          (rowsAt readers c sources .omitted).length = sources.allRows.length ∧
      (buildActivity readers c sources).scopeMismatchKinds =
        mismatchedRunKinds readers c sources ++ rowsAt readers c sources .scopeMismatch ∧
      (∀ kind row, placeRow readers c sources kind row = .omitted ↔
        ∀ sync ∈ sources.syncs, sync.2.ingestionRunId = some row.runId →
          validRun readers c sources row.runId sync = none) ∧
      ((buildActivity readers c sources).items.map (·.publicId)).Nodup ∧
      ∀ sources', sources.Reordered sources' →
        (buildActivity readers c sources').items.Perm (buildActivity readers c sources).items :=
  ⟨observations_nodup distinct, (observations_shared readers c sources).1,
    counts_add_up readers c sources, rfl, fun _ _ => placeRow_omitted_iff distinct,
    items_nodup distinct free, fun _ h => items_perm distinct free h⟩

/-! ## A sample -/

/-- A digest of one digit. -/
def digitDigest (c : Char) (h : isLowerHexDigit c = true := by exact (rfl : true = true)) :
    HexDigest :=
  ⟨List.replicate 64 c, List.length_replicate, by simp [h]⟩

def overlapCase : CaseColumns where
  id := 1
  publicId := ⟨List.replicate 36 'c', List.length_replicate⟩
  scope := ⟨.mainnet, .live, "0:0a".toList, "0:0a".toList⟩

/-- A finished sync of the case. -/
def overlapSync (run : Nat) (digit : Char) : SyncRow where
  publicId := ⟨List.replicate 36 digit, List.length_replicate⟩
  caseId := 1
  ingestionRunId := some run
  timeWindow := .day
  dataMode := .real
  provider := "tonapi".toList
  requestedStart := ⟨0, zero_lt_maxMicros⟩
  requestedEnd := ⟨1, by decide⟩
  ordered := by decide
  requestedSurfaces := [.transactions, .transfers]
  state := .succeeded
  stage := .completed
  progressCurrent := 3
  plan := ⟨[], [], .bounded⟩
  errorCode := none
  errorDetailSafe := none
  messageSafe := []
  createdAt := ⟨0, zero_lt_maxMicros⟩
  updatedAt := ⟨0, zero_lt_maxMicros⟩
  startedAt := none
  completedAt := some ⟨1, by decide⟩
  statusVersion := 1
  idempotencyKey := []
  requestFingerprint := digitDigest '0'
  attemptCount := 1
  maxAttempts := 3
  nextAttemptAt := none
  cancelRequestedAt := none
  leaseToken := none
  leaseExpiresAt := none
  heartbeatAt := none
  checkpoint := ⟨.completed, false⟩
  claims := []

/-- A run of a mode. -/
def overlapRun (mode : DataMode) : IngestionRun where
  status := .success
  dataMode := mode
  message := []
  providerEvidence := []
  unavailableSurfaces := []
  incompleteSurfaces := []
  acquisitionStreams := []
  rows := ⟨[], [], []⟩

/-- A row with a hash of its own, or none. -/
def overlapRow (id run : Nat) (hash : List Text) : ActivitySourceRow :=
  ⟨id, run, ⟨none, hash.map fun text => ("tx_hash".toList, text)⟩⟩

/-- Two runs that overlap in one transaction, and one of the other mode with
three rows. -/
def overlapSources : ActivityRowSources where
  syncs := [(1, overlapSync 1 '1'), (2, overlapSync 2 '2'), (3, overlapSync 3 '3')]
  runs := [(1, overlapRun .real), (2, overlapRun .real), (3, overlapRun .mock)]
  transactions := [overlapRow 1 1 ["aa".toList], overlapRow 2 2 ["aa".toList],
    overlapRow 3 3 ["bb".toList], overlapRow 4 3 ["cc".toList],
    overlapRow 5 3 ["ee".toList]]
  transfers := [overlapRow 1 2 []]
  swaps := [overlapRow 1 1 ["dd".toList]]

/-- Readers that check the mode, and identify a row by its hash. -/
def overlapReaders : ActivityReaders where
  runMatchesCase run sync c := sync.2.dataMode = c.scope.dataEnvironment.dataMode &&
    run.dataMode = c.scope.dataEnvironment.dataMode
  matchesSourcePeriod _ _ _ := true
  observe kind _ sync _ row := some
    { content :=
        { logicalTime := none
          direction := none
          outcome := none
          counterparty := none
          assets := []
          protocol := none
          linkedToItself := false
          transactionHash := row.columns.head?.map (·.2)
          eventId := none
          details := match kind with
            | .transaction => .transaction none
            | .transfer => .transfer none
            | .swap => .swap none none none }
      identity := row.columns.head?.map fun column => (.transaction, column.2)
      origin := ⟨.providerObserved, "provider_declared_only".toList, sync.provider,
        "live".toList, "verified".toList, "validated_transaction_identity".toList⟩
      limitations := [] }
  fingerprint semantics := match semantics.kind with
    | .transaction => digitDigest '0'
    | .transfer => digitDigest '1'
    | .swap => digitDigest '2'
  sha256 seed := if seed.getLast? = some 'a' then digitDigest '0' else digitDigest '1'

theorem overlapSources_distinct : overlapSources.Distinct where
  rows kind := by cases kind <;> decide
  runs := by decide

/-- What is hashed of some observations has digests of its own, by
comparing. -/
theorem overlap_collisionFree : CollisionFree overlapReaders overlapCase overlapSources := by
  have compared : ∀ o ∈ activityObservations overlapReaders overlapCase overlapSources,
      ∀ o' ∈ activityObservations overlapReaders overlapCase overlapSources,
        (overlapReaders.sha256 (activitySeed overlapCase o) =
            overlapReaders.sha256 (activitySeed overlapCase o') →
          activitySeed overlapCase o = activitySeed overlapCase o') ∧
        (overlapReaders.fingerprint o.semantics = overlapReaders.fingerprint o'.semantics →
          o.semantics = o'.semantics) := by
    decide +kernel
  constructor
  · rintro - ⟨o, ho, rfl⟩ - ⟨o', ho', rfl⟩
    exact (compared o ho o' ho').1
  · rintro - ⟨o, ho, rfl⟩ - ⟨o', ho', rfl⟩
    exact (compared o ho o' ho').2

/-- One item of two observations, one of one, a swap nobody asked for, and
the three rows of the other mode. -/
theorem activity_conserves_evidence_sample :
    ((buildActivity overlapReaders overlapCase overlapSources).items.map
        (·.observationCount)).sum +
      (buildActivity overlapReaders overlapCase overlapSources).conflictedGroups.flatten.length +
      (rowsAt overlapReaders overlapCase overlapSources .scopeMismatch).length +
      (buildActivity overlapReaders overlapCase overlapSources).invalidProvenanceKinds.length +
      (rowsAt overlapReaders overlapCase overlapSources .omitted).length = 7 :=
  (activity_conserves_evidence overlapReaders overlapCase overlapSources overlapSources_distinct
    overlap_collisionFree).2.2.1

/-- A run of the other mode counts once for each kind its sync asked for,
whatever rows it has: three transactions are counted as one, and a transfer
it does not have as well. -/
theorem omitted_rows_uncounted :
    (buildActivity overlapReaders overlapCase overlapSources).scopeMismatchKinds =
        [.transaction, .transfer, .swap] ∧
      ((buildActivity overlapReaders overlapCase overlapSources).items.map
          (·.observationCount)).sum +
        (buildActivity overlapReaders overlapCase overlapSources).conflictedGroups.flatten.length +
        (buildActivity overlapReaders overlapCase overlapSources).scopeMismatchKinds.length +
        (buildActivity overlapReaders overlapCase overlapSources).invalidProvenanceKinds.length
          ≠ overlapSources.allRows.length := by
  have hcounts := counts_add_up overlapReaders overlapCase overlapSources
  have hmismatch : (buildActivity overlapReaders overlapCase overlapSources).scopeMismatchKinds =
      [.transaction, .transfer, .swap] := by decide +kernel
  have hrows : (rowsAt overlapReaders overlapCase overlapSources .scopeMismatch).length = 1 ∧
      (rowsAt overlapReaders overlapCase overlapSources .omitted).length = 3 := by decide +kernel
  refine ⟨hmismatch, fun heq => ?_⟩
  rw [hmismatch, ← hcounts] at heq
  simp only [List.length_cons, List.length_nil] at heq
  omega

end View

end TonTracker
