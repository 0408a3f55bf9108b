/-
# `Signals.SimilarityFaithful` — what a similarity of one says

Every similarity is between zero and one and does not depend on which wallet
comes first; the order of the selected runs changes no score.  A similarity
of one means equal values, except where a scorer of magnitudes is given
opposite numbers: it takes the sign of a net TON flow for none
(`similarity_faithful_iff`).
-/
import TonTracker.Services.WalletActivityClustering
import TonTracker.Lib.Reordering

namespace TonTracker

open ExceptFold (bind_eq_ok check_eq_ok present_eq_ok mapM_eq_ok)
open Reordering (eq_of_perm_short eraseDups_perm mapM_perm max?_perm min?_perm)
open Similarity (InUnit average_eq_one_iff)

/-! ## One feature -/

variable {x y window : ℚ} {a b : ScorerFeatures} {feature : SimilarityFeature}

theorem ratioSimilarity_eq (h : ¬ (|x| = 0 ∧ |y| = 0)) :
    ratioSimilarity x y = min |x| |y| / max |x| |y| ∧ max |x| |y| ≠ 0 := by
  have hmax : max |x| |y| ≠ 0 := by
    intro hzero
    have hx : |x| ≤ 0 := hzero ▸ le_max_left _ _
    have hy : |y| ≤ 0 := hzero ▸ le_max_right _ _
    exact h ⟨le_antisymm hx (abs_nonneg x), le_antisymm hy (abs_nonneg y)⟩
  refine ⟨?_, hmax⟩
  unfold ratioSimilarity
  dsimp only
  rw [if_neg h, if_neg hmax]

theorem inUnit_ratioSimilarity : InUnit (ratioSimilarity x y) := by
  by_cases h : |x| = 0 ∧ |y| = 0
  · unfold ratioSimilarity
    dsimp only
    rw [if_pos h]
    exact ⟨zero_le_one, le_refl 1⟩
  · rw [(ratioSimilarity_eq h).1]
    exact Similarity.inUnit_ratio (abs_nonneg x) (abs_nonneg y)

theorem ratioSimilarity_comm (x y : ℚ) : ratioSimilarity x y = ratioSimilarity y x := by
  unfold ratioSimilarity
  dsimp only
  rw [min_comm, max_comm]
  exact if_congr and_comm rfl rfl

/-- The scorer compares magnitudes. -/
theorem ratioSimilarity_eq_one_iff : ratioSimilarity x y = 1 ↔ |x| = |y| := by
  by_cases h : |x| = 0 ∧ |y| = 0
  · unfold ratioSimilarity
    dsimp only
    rw [if_pos h]
    exact iff_of_true rfl (h.1.trans h.2.symm)
  · obtain ⟨heq, hmax⟩ := ratioSimilarity_eq h
    rw [heq]
    exact Similarity.ratio_eq_one_iff hmax

theorem timeSimilarity_eq (hw : 0 < window) (x y : ℚ) :
    timeSimilarity x y window = max 0 (1 - |x - y| / window) :=
  if_neg (not_le.mpr hw)

theorem timeSimilarity_comm (x y window : ℚ) :
    timeSimilarity x y window = timeSimilarity y x window := by
  unfold timeSimilarity
  rw [abs_sub_comm]
  exact if_congr Iff.rfl (if_congr eq_comm rfl rfl) rfl

section Jaccard

variable {s t : List Text}

theorem jaccard_eq (h : ¬ (s.toFinset = ∅ ∧ t.toFinset = ∅)) :
    jaccard s t = (s.toFinset ∩ t.toFinset).card / (s.toFinset ∪ t.toFinset).card ∧
      (s.toFinset ∪ t.toFinset).Nonempty := by
  refine ⟨if_neg h, Finset.nonempty_iff_ne_empty.mpr fun hempty => h ?_⟩
  exact Finset.union_eq_empty.mp hempty

theorem inUnit_jaccard : InUnit (jaccard s t) := by
  by_cases h : s.toFinset = ∅ ∧ t.toFinset = ∅
  · have hone : jaccard s t = 1 := if_pos h
    rw [hone]
    exact ⟨zero_le_one, le_refl 1⟩
  · rw [(jaccard_eq h).1]
    exact Similarity.inUnit_overlap

theorem jaccard_comm (s t : List Text) : jaccard s t = jaccard t s := by
  unfold jaccard
  dsimp only
  rw [Finset.inter_comm, Finset.union_comm]
  exact if_congr and_comm rfl rfl

theorem jaccard_eq_one_iff : jaccard s t = 1 ↔ s.toFinset = t.toFinset := by
  by_cases h : s.toFinset = ∅ ∧ t.toFinset = ∅
  · exact iff_of_true (if_pos h) (h.1.trans h.2.symm)
  · obtain ⟨heq, hne⟩ := jaccard_eq h
    rw [heq]
    exact Similarity.overlap_eq_one_iff hne

end Jaccard

/-! ## A pair -/

/-- The two wallets have the same value of a feature. -/
def SameValue (a b : ScorerFeatures) : SimilarityFeature → Prop
  | .buyTime => a.buyTimeOffset = b.buyTimeOffset
  | .entryPrice => a.avgBuyPrice = b.avgBuyPrice
  | .heldTokens => a.commonTokens.toFinset = b.commonTokens.toFinset
  | .partialSellBehavior => a.soldFraction = b.soldFraction
  | .tonBalance => a.tonBalance = b.tonBalance
  | .portfolioValue => a.portfolioValue = b.portfolioValue

/-- Two numbers other than zero of one magnitude and opposite signs. -/
def Opposite (x y : ℚ) : Prop := x = -y ∧ x ≠ 0

/-- A pair with opposite numbers where the scorer compares magnitudes. -/
def OppositePair (a b : ScorerFeatures) : Prop :=
  Opposite a.avgBuyPrice b.avgBuyPrice ∨ Opposite a.tonBalance b.tonBalance ∨
    Opposite a.portfolioValue b.portfolioValue

/-- What the comparison promises of the scores of a pair. -/
structure FaithfulPair (window : ℚ) (a b : ScorerFeatures) : Prop where
  inUnit : ∀ feature, InUnit (featureSimilarity window a b feature)
  symmetric : ∀ feature,
    featureSimilarity window a b feature = featureSimilarity window b a feature
  equal : ∀ feature, featureSimilarity window a b feature = 1 → SameValue a b feature
  full : exactScore window a b = 100 → ∀ feature, SameValue a b feature

theorem featureSimilarity_comm (window : ℚ) (a b : ScorerFeatures) (feature : SimilarityFeature) :
    featureSimilarity window a b feature = featureSimilarity window b a feature := by
  cases feature with
  | buyTime => exact timeSimilarity_comm _ _ _
  | entryPrice => exact ratioSimilarity_comm _ _
  | heldTokens => exact jaccard_comm _ _
  | partialSellBehavior => exact congrArg (1 - ·) (abs_sub_comm _ _)
  | tonBalance => exact ratioSimilarity_comm _ _
  | portfolioValue => exact ratioSimilarity_comm _ _

theorem exactScore_comm (window : ℚ) (a b : ScorerFeatures) :
    exactScore window a b = exactScore window b a := by
  unfold exactScore
  rw [funext (featureSimilarity_comm window a b)]

theorem inUnit_featureSimilarity (hw : 0 < window) (ha : InUnit a.soldFraction)
    (hb : InUnit b.soldFraction) (feature : SimilarityFeature) :
    InUnit (featureSimilarity window a b feature) := by
  cases feature with
  | buyTime =>
      show InUnit (timeSimilarity a.buyTimeOffset b.buyTimeOffset window)
      rw [timeSimilarity_eq hw]
      exact Similarity.inUnit_closeness hw
  | entryPrice => exact inUnit_ratioSimilarity
  | heldTokens => exact inUnit_jaccard
  | partialSellBehavior => exact Similarity.inUnit_one_sub (Similarity.inUnit_dist ha hb)
  | tonBalance => exact inUnit_ratioSimilarity
  | portfolioValue => exact inUnit_ratioSimilarity

theorem same_or_opposite : |x| = |y| ↔ x = y ∨ Opposite x y := by
  rw [abs_eq_abs]
  constructor
  · rintro (h | h)
    · exact .inl h
    · by_cases hx : x = 0
      · left
        rw [hx, eq_comm, ← neg_eq_zero, ← h, hx]
      · exact .inr ⟨h, hx⟩
  · rintro (h | ⟨h, -⟩)
    · exact .inl h
    · exact .inr h

theorem not_eq_of_opposite (h : Opposite x y) : x ≠ y := by
  intro heq
  obtain ⟨hneg, hx⟩ := h
  rw [← heq] at hneg
  exact hx (by linarith)

/-- A ratio of one means equal values, except of opposite ones. -/
theorem ratio_faithful_iff : (ratioSimilarity x y = 1 → x = y) ↔ ¬ Opposite x y := by
  rw [ratioSimilarity_eq_one_iff, same_or_opposite]
  constructor
  · intro h hopposite
    exact not_eq_of_opposite hopposite (h (.inr hopposite))
  · rintro h (heq | hopposite)
    · exact heq
    · exact absurd hopposite h

theorem equal_iff (hw : 0 < window) :
    (∀ feature, featureSimilarity window a b feature = 1 → SameValue a b feature) ↔
      ¬ OppositePair a b := by
  unfold OppositePair
  rw [not_or, not_or, ← ratio_faithful_iff, ← ratio_faithful_iff, ← ratio_faithful_iff]
  constructor
  · intro h
    exact ⟨h .entryPrice, h .tonBalance, h .portfolioValue⟩
  · rintro ⟨hentry, hton, hportfolio⟩ feature h
    cases feature with
    | buyTime =>
        change timeSimilarity a.buyTimeOffset b.buyTimeOffset window = 1 at h
        rw [timeSimilarity_eq hw] at h
        exact (Similarity.closeness_eq_one_iff hw).mp h
    | entryPrice => exact hentry h
    | heldTokens => exact jaccard_eq_one_iff.mp h
    | partialSellBehavior => exact Similarity.one_sub_dist_eq_one_iff.mp h
    | tonBalance => exact hton h
    | portfolioValue => exact hportfolio h

/-- A full score is a similarity of one in every feature. -/
theorem exactScore_eq_iff (h : ∀ feature, InUnit (featureSimilarity window a b feature)) :
    exactScore window a b = 100 ↔ ∀ feature, featureSimilarity window a b feature = 1 := by
  have hall : ∀ feature, feature ∈ similarityFeatures := by
    intro feature
    cases feature <;> decide
  have hweight : ∀ feature ∈ similarityFeatures, 0 < featureWeights feature := by
    intro feature _
    cases feature <;> norm_num [featureWeights]
  have haverage := average_eq_one_iff (l := similarityFeatures) (by decide) hweight
    fun feature _ => (h feature).2
  unfold exactScore
  constructor
  · intro hscore feature
    exact haverage.mp (by linarith) feature (hall feature)
  · intro hone
    rw [haverage.mpr fun feature _ => hone feature, one_mul]

/-- A pair is compared faithfully unless it has opposite numbers. -/
theorem faithfulPair_iff (hw : 0 < window) (ha : InUnit a.soldFraction)
    (hb : InUnit b.soldFraction) : FaithfulPair window a b ↔ ¬ OppositePair a b := by
  rw [← equal_iff hw]
  refine ⟨fun h => h.equal, fun h => ?_⟩
  have hunit := inUnit_featureSimilarity hw ha hb
  exact ⟨hunit, featureSimilarity_comm window a b, h,
    fun hscore feature => h feature ((exactScore_eq_iff hunit).mp hscore feature)⟩

/-! ## A comparison -/

theorem comparisonWindowSeconds_perm {l l' : List ℚ} (h : l.Perm l') :
    comparisonWindowSeconds l = comparisonWindowSeconds l' := by
  unfold comparisonWindowSeconds
  rw [h.length_eq, max?_perm h, min?_perm h]

theorem comparisonWindowSeconds_pos (seconds : List ℚ) : 0 < comparisonWindowSeconds seconds := by
  unfold comparisonWindowSeconds minWindowSeconds defaultWindowSeconds
  split
  · exact lt_max_of_lt_left (by norm_num)
  · norm_num

/-- The sold fraction is a count over a count that includes it. -/
theorem inUnit_fraction (part rest : Nat) :
    InUnit (if rest + part = 0 then 0 else (part : ℚ) / (rest + part : Nat)) := by
  split
  · exact ⟨le_refl 0, zero_le_one⟩
  · exact ⟨div_nonneg (Nat.cast_nonneg _) (Nat.cast_nonneg _),
      div_le_one_of_le₀ (Nat.cast_le.mpr (Nat.le_add_left _ _)) (Nat.cast_nonneg _)⟩

/-- A comparison whose window is positive and whose fractions are. -/
structure WellFormed (comparison : Comparison) : Prop where
  window : 0 < comparison.windowSeconds
  fraction : ∀ wallet ∈ comparison.wallets, InUnit wallet.features.soldFraction

/-- The same wallets, in another order. -/
structure Reordered (comparison comparison' : Comparison) : Prop where
  wallets : comparison.wallets.Perm comparison'.wallets
  window : comparison.windowSeconds = comparison'.windowSeconds

variable {store : ClusterStore} {runs runs' : List (Nat × ClusterRun)} {comparison : Comparison}

theorem wellFormed_canonical (h : compareCanonical store runs = .ok comparison) :
    WellFormed comparison := by
  obtain ⟨reports, -, h⟩ := bind_eq_ok.mp h
  obtain ⟨wallets, hwallets, h⟩ := bind_eq_ok.mp h
  cases h
  refine ⟨comparisonWindowSeconds_pos _, ?_⟩
  refine (ExceptFold.mapM_forall_iff (Q := fun _ => True) hwallets fun report wallet h => ?_).mpr
    fun _ _ => trivial
  refine iff_of_true ?_ trivial
  unfold deriveCanonicalWalletSignals at h
  obtain ⟨mean, -, h⟩ := bind_eq_ok.mp h
  obtain ⟨net, -, h⟩ := bind_eq_ok.mp h
  obtain ⟨netTon, -, h⟩ := bind_eq_ok.mp h
  cases h
  exact inUnit_fraction _ _

theorem wellFormed_fixtures (h : compareFixtures store runs = .ok comparison) :
    WellFormed comparison := by
  obtain ⟨signals, -, h⟩ := bind_eq_ok.mp h
  obtain ⟨seconds, -, h⟩ := bind_eq_ok.mp h
  obtain ⟨firstBuys, -, h⟩ := bind_eq_ok.mp h
  obtain ⟨wallets, hwallets, h⟩ := bind_eq_ok.mp h
  cases h
  refine ⟨comparisonWindowSeconds_pos _, ?_⟩
  refine (ExceptFold.mapM_forall_iff (Q := fun _ => True) hwallets fun s wallet h => ?_).mpr
    fun _ _ => trivial
  refine iff_of_true ?_ trivial
  obtain ⟨features, hfeatures, h⟩ := bind_eq_ok.mp h
  cases h
  unfold scorerFeatures at hfeatures
  obtain ⟨offset, -, hfeatures⟩ := bind_eq_ok.mp hfeatures
  cases hfeatures
  have hfraction := inUnit_fraction s.sellSwapCount s.buySwapCount
  dsimp only
  simp only [Nat.pos_iff_ne_zero, ne_eq, ite_not]
  exact hfraction

theorem reordered_canonical (h : compareCanonical store runs = .ok comparison)
    (hruns : runs.Perm runs') :
    ∃ comparison', compareCanonical store runs' = .ok comparison' ∧
      Reordered comparison comparison' := by
  obtain ⟨reports, hreports, h⟩ := bind_eq_ok.mp h
  obtain ⟨wallets, hwallets, h⟩ := bind_eq_ok.mp h
  cases h
  obtain ⟨reports', hreports', hperm⟩ := mapM_perm hreports hruns
  obtain ⟨wallets', hwallets', hwalletsPerm⟩ := mapM_perm hwallets hperm
  refine ⟨_, bind_eq_ok.mpr ⟨reports', hreports', bind_eq_ok.mpr ⟨wallets', hwallets', rfl⟩⟩,
    hwalletsPerm, ?_⟩
  exact comparisonWindowSeconds_perm (hperm.flatMap_right _)

theorem reordered_fixtures (h : compareFixtures store runs = .ok comparison)
    (hruns : runs.Perm runs') :
    ∃ comparison', compareFixtures store runs' = .ok comparison' ∧
      Reordered comparison comparison' := by
  obtain ⟨signals, hsignals, h⟩ := bind_eq_ok.mp h
  obtain ⟨seconds, hseconds, h⟩ := bind_eq_ok.mp h
  obtain ⟨firstBuys, hfirst, h⟩ := bind_eq_ok.mp h
  obtain ⟨wallets, hwallets, h⟩ := bind_eq_ok.mp h
  cases h
  obtain ⟨signals', hsignals', hperm⟩ := mapM_perm hsignals hruns
  obtain ⟨seconds', hseconds', hsecondsPerm⟩ := mapM_perm hseconds hruns
  obtain ⟨firstBuys', hfirst', hfirstPerm⟩ := mapM_perm hfirst (hperm.filterMap _)
  obtain ⟨wallets', hwallets', hwalletsPerm⟩ := mapM_perm hwallets hperm
  rw [min?_perm hfirstPerm] at hwallets'
  refine ⟨_, bind_eq_ok.mpr ⟨signals', hsignals', bind_eq_ok.mpr ⟨seconds', hseconds',
    bind_eq_ok.mpr ⟨firstBuys', hfirst', bind_eq_ok.mpr ⟨wallets', hwallets', rfl⟩⟩⟩⟩,
    hwalletsPerm, ?_⟩
  exact comparisonWindowSeconds_perm hsecondsPerm.flatten

variable {ids ids' : List Nat}

theorem wellFormed_of_compare (h : compareWalletActivity store ids = .ok comparison) :
    WellFormed comparison := by
  obtain ⟨-, -, h⟩ := bind_eq_ok.mp h
  obtain ⟨-, -, h⟩ := bind_eq_ok.mp h
  obtain ⟨runs, -, h⟩ := bind_eq_ok.mp h
  obtain ⟨-, -, h⟩ := bind_eq_ok.mp h
  split at h
  · exact wellFormed_canonical h
  · exact wellFormed_fixtures h

/-- The same runs selected in another order, or more than once. -/
theorem reordered_of_compare (h : compareWalletActivity store ids = .ok comparison)
    (hids : ∀ runId, runId ∈ ids ↔ runId ∈ ids') :
    ∃ comparison', compareWalletActivity store ids' = .ok comparison' ∧
      Reordered comparison comparison' := by
  obtain ⟨_, hfew, h⟩ := bind_eq_ok.mp h
  obtain ⟨_, hmany, h⟩ := bind_eq_ok.mp h
  obtain ⟨runs, hruns, h⟩ := bind_eq_ok.mp h
  obtain ⟨_, hmodes, h⟩ := bind_eq_ok.mp h
  have hperm := eraseDups_perm hids
  obtain ⟨runs', hruns', hrunsPerm⟩ := mapM_perm hruns hperm
  have hmodesPerm := eraseDups_perm fun mode =>
    (hrunsPerm.map fun run => run.2.dataMode).mem_iff (a := mode)
  have hmodesEq : (runs'.map fun run => run.2.dataMode).eraseDups =
      (runs.map fun run => run.2.dataMode).eraseDups :=
    eq_of_perm_short hmodesPerm (check_eq_ok.mp hmodes)
  have hbranch : ∃ comparison',
      (if (runs'.map fun run => run.2.dataMode).eraseDups = ["real".toList] then
        compareCanonical store runs' else compareFixtures store runs') = .ok comparison' ∧
      Reordered comparison comparison' := by
    rw [hmodesEq]
    split at h
    · next hreal =>
        rw [if_pos hreal]
        exact reordered_canonical h hrunsPerm
    · next hreal =>
        rw [if_neg hreal]
        exact reordered_fixtures h hrunsPerm
  obtain ⟨comparison', hcompare, hreordered⟩ := hbranch
  refine ⟨comparison', ?_, hreordered⟩
  refine bind_eq_ok.mpr ⟨(), check_eq_ok.mpr (hperm.length_eq ▸ check_eq_ok.mp hfew), ?_⟩
  refine bind_eq_ok.mpr ⟨(), check_eq_ok.mpr (hperm.length_eq ▸ check_eq_ok.mp hmany), ?_⟩
  refine bind_eq_ok.mpr ⟨runs', hruns', ?_⟩
  exact bind_eq_ok.mpr ⟨(), check_eq_ok.mpr (hmodesEq ▸ check_eq_ok.mp hmodes), hcompare⟩

/-! ## Pairs -/

/-- The two wallets are compared, in one of the two orders. -/
def Paired (wallets : List ComparedWallet) (a b : ComparedWallet) : Prop :=
  (a, b) ∈ comparedPairs wallets ∨ (b, a) ∈ comparedPairs wallets

variable {wallets wallets' : List ComparedWallet} {u v w : ComparedWallet}

theorem mem_comparedPairs_cons : (u, v) ∈ comparedPairs (w :: wallets) ↔
    u = w ∧ v ∈ wallets ∨ (u, v) ∈ comparedPairs wallets := by
  simp only [comparedPairs, List.mem_append, List.mem_map, Prod.mk.injEq]
  constructor
  · rintro (⟨x, hx, rfl, rfl⟩ | h)
    · exact .inl ⟨rfl, hx⟩
    · exact .inr h
  · rintro (⟨rfl, hv⟩ | h)
    · exact .inl ⟨v, hv, rfl, rfl⟩
    · exact .inr h

theorem mem_of_comparedPairs (h : (u, v) ∈ comparedPairs wallets) : u ∈ wallets ∧ v ∈ wallets := by
  induction wallets with
  | nil => cases h
  | cons w wallets ih =>
      obtain ⟨rfl, hv⟩ | h := mem_comparedPairs_cons.mp h
      · exact ⟨List.mem_cons_self, List.mem_cons_of_mem _ hv⟩
      · exact ⟨List.mem_cons_of_mem _ (ih h).1, List.mem_cons_of_mem _ (ih h).2⟩

theorem paired_cons : Paired (w :: wallets) u v ↔
    u = w ∧ v ∈ wallets ∨ v = w ∧ u ∈ wallets ∨ Paired wallets u v := by
  unfold Paired
  rw [mem_comparedPairs_cons, mem_comparedPairs_cons]
  tauto

theorem paired_of_perm (h : wallets.Perm wallets') : Paired wallets u v ↔ Paired wallets' u v := by
  induction h with
  | nil => exact Iff.rfl
  | cons w h ih => rw [paired_cons, paired_cons, ih, h.mem_iff, h.mem_iff]
  | swap w x wallets =>
      rw [paired_cons, paired_cons, paired_cons, paired_cons, List.mem_cons, List.mem_cons,
        List.mem_cons, List.mem_cons]
      tauto
  | trans _ _ ih ih' => exact ih.trans ih'

/-- Two runs are compared with a score. -/
def HasScore (comparison : Comparison) (runIdA runIdB : Nat) (score : ℚ) : Prop :=
  ∃ pair ∈ comparison.pairs, pair.score = score ∧
    (pair.runIdA = runIdA ∧ pair.runIdB = runIdB ∨ pair.runIdA = runIdB ∧ pair.runIdB = runIdA)

theorem hasScore_iff {runIdA runIdB : Nat} {score : ℚ} : HasScore comparison runIdA runIdB score ↔
    ∃ u v, Paired comparison.wallets u v ∧ u.runId = runIdA ∧ v.runId = runIdB ∧
      pairSimilarity u.features v.features comparison.windowSeconds = score := by
  unfold HasScore Comparison.pairs
  constructor
  · rintro ⟨_, hpair, rfl, hids⟩
    obtain ⟨⟨u, v⟩, huv, rfl⟩ := List.mem_map.mp hpair
    obtain ⟨hu, hv⟩ | ⟨hu, hv⟩ := hids
    · exact ⟨u, v, .inl huv, hu, hv, rfl⟩
    · refine ⟨v, u, .inr huv, hv, hu, ?_⟩
      unfold pairSimilarity
      rw [exactScore_comm]
      rfl
  · rintro ⟨u, v, huv | huv, hu, hv, rfl⟩
    · exact ⟨_, List.mem_map_of_mem huv, rfl, .inl ⟨hu, hv⟩⟩
    · refine ⟨_, List.mem_map_of_mem huv, ?_, .inr ⟨hv, hu⟩⟩
      show pairSimilarity v.features u.features comparison.windowSeconds = _
      unfold pairSimilarity
      rw [exactScore_comm]

theorem hasScore_of_reordered {comparison' : Comparison} (h : Reordered comparison comparison')
    (runIdA runIdB : Nat) (score : ℚ) :
    HasScore comparison runIdA runIdB score ↔ HasScore comparison' runIdA runIdB score := by
  rw [hasScore_iff, hasScore_iff, h.window]
  simp only [paired_of_perm h.wallets]

/-! ## Every comparison -/

/-- What the comparison of the selected runs promises. -/
structure FaithfulComparison (store : ClusterStore) (ids : List Nat) (comparison : Comparison) :
    Prop where
  pairs : ∀ pair ∈ comparedPairs comparison.wallets,
    FaithfulPair comparison.windowSeconds pair.1.features pair.2.features
  orders : ∀ ids', (∀ runId, runId ∈ ids ↔ runId ∈ ids') →
    ∃ comparison', compareWalletActivity store ids' = .ok comparison' ∧
      ∀ runIdA runIdB score, HasScore comparison runIdA runIdB score ↔
        HasScore comparison' runIdA runIdB score

theorem similarity_faithful_iff (store : ClusterStore) (ids : List Nat) (comparison : Comparison)
    (h : compareWalletActivity store ids = .ok comparison) :
    FaithfulComparison store ids comparison ↔
      ∀ pair ∈ comparedPairs comparison.wallets,
        ¬ OppositePair pair.1.features pair.2.features := by
  have hformed := wellFormed_of_compare h
  have hpair : ∀ pair ∈ comparedPairs comparison.wallets,
      (FaithfulPair comparison.windowSeconds pair.1.features pair.2.features ↔
        ¬ OppositePair pair.1.features pair.2.features) := by
    intro pair hmem
    obtain ⟨hu, hv⟩ := mem_of_comparedPairs hmem
    exact faithfulPair_iff hformed.window (hformed.fraction _ hu) (hformed.fraction _ hv)
  constructor
  · intro hfaithful pair hmem
    exact (hpair pair hmem).mp (hfaithful.pairs pair hmem)
  · intro hopposite
    refine ⟨fun pair hmem => (hpair pair hmem).mpr (hopposite pair hmem), fun ids' hids => ?_⟩
    obtain ⟨comparison', hcompare, hreordered⟩ := reordered_of_compare h hids
    exact ⟨comparison', hcompare, hasScore_of_reordered hreordered⟩

/-! ## Opposite flows -/

/-- One wallet that received one TON, and one that sent it. -/
def oppositeFlows : ClusterStore where
  upper := id
  decimal := fun _ => none
  run := fun runId => some ⟨Nat.toDigits 10 runId, "real".toList, [], [], none⟩
  ledger := fun runId => some ⟨"ton-mainnet".toList, Nat.toDigits 10 runId,
    [⟨if runId = 1 then .incoming else .outgoing, "3".toList, 1000000000, 1700000000⟩]⟩

/-- What is compared of the two. -/
theorem oppositeFlows_pairs : ∃ comparison,
    compareWalletActivity oppositeFlows [1, 2] = .ok comparison ∧
      (comparedPairs comparison.wallets).map (fun pair =>
        (featureSimilarity comparison.windowSeconds pair.1.features pair.2.features .tonBalance,
          pair.1.features.tonBalance, pair.2.features.tonBalance)) = [(1, 1, -1)] := by
  have heval : ((compareWalletActivity oppositeFlows [1, 2]).toOption.map fun comparison =>
      (comparedPairs comparison.wallets).map fun pair =>
        (featureSimilarity comparison.windowSeconds pair.1.features pair.2.features .tonBalance,
          pair.1.features.tonBalance, pair.2.features.tonBalance)) = some [(1, 1, -1)] := by
    decide +kernel
  obtain ⟨comparison, hcomparison, hpairs⟩ := Option.map_eq_some_iff.mp heval
  exact ⟨comparison, ExceptFold.eq_ok_of_toOption hcomparison, hpairs⟩

theorem similarity_faithful_iff_opposite : ∃ comparison,
    FaithfulComparison oppositeFlows [1, 2] comparison ↔
      ∀ pair ∈ comparedPairs comparison.wallets,
        ¬ OppositePair pair.1.features pair.2.features := by
  obtain ⟨comparison, hcompare, -⟩ := oppositeFlows_pairs
  exact ⟨comparison, similarity_faithful_iff oppositeFlows [1, 2] comparison hcompare⟩

/-- The two net flows have a similarity of one. -/
theorem opposite_flows_alike : ∃ comparison,
    compareWalletActivity oppositeFlows [1, 2] = .ok comparison ∧
      ¬ FaithfulComparison oppositeFlows [1, 2] comparison := by
  obtain ⟨comparison, hcompare, hpairs⟩ := oppositeFlows_pairs
  refine ⟨comparison, hcompare, fun hfaithful => ?_⟩
  have hmem : ((1 : ℚ), (1 : ℚ), (-1 : ℚ)) ∈ (comparedPairs comparison.wallets).map (fun pair =>
      (featureSimilarity comparison.windowSeconds pair.1.features pair.2.features .tonBalance,
        pair.1.features.tonBalance, pair.2.features.tonBalance)) := by
    rw [hpairs]
    exact List.mem_cons_self
  obtain ⟨pair, hpair, hvalues⟩ := List.mem_map.mp hmem
  simp only [Prod.mk.injEq] at hvalues
  obtain ⟨hone, hleft, hright⟩ := hvalues
  have hsame : pair.1.features.tonBalance = pair.2.features.tonBalance :=
    (hfaithful.pairs pair hpair).equal .tonBalance hone
  rw [hleft, hright] at hsame
  norm_num at hsame

end TonTracker
