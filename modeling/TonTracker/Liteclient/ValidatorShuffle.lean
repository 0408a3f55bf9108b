/-
# `Liteclient.ValidatorShuffle` — the validators of a masterchain block

`compute_masterchain_validator_set` lists the first `main` configured
validators, shuffled or not: every index once, whatever the generator
draws.  Their weights sum to at most `2 ^ 61`, so the sums and products of
the signature check stay below `2 ^ 64`, and the bytes that
`compute_validator_set_hash` hashes are those of one ordered list of keys,
weights and addresses.
-/
import TonTracker.Liteclient.ProofChain
import TonTracker.Lib.InsideOut

namespace TonTracker

open ByteMessages (Bytes littleBytes length_littleBytes littleBytes_inj)
open ExceptFold (check present check_eq_ok bind_eq_ok)

variable {lib : ProofLibrary}

/-! ## The generator -/

/-- A generator after some draws. -/
inductive ValidatorSetPrng.Reached (lib : ProofLibrary) (catchainSeqno : Nat) :
    ValidatorSetPrng → Prop
  | start : Reached lib catchainSeqno ⟨0, catchainSeqno, []⟩
  | draw {g : ValidatorSetPrng} (h : Reached lib catchainSeqno g) (range : Nat) :
      Reached lib catchainSeqno (g.nextRanged lib range).2

theorem bigValue_lt (value : Bytes) : bigValue value < 256 ^ value.length := by
  unfold bigValue
  induction value using List.reverseRecOn with
  | nil => exact Nat.one_pos
  | append_singleton value byte ih =>
      rw [List.foldl_concat, List.length_append, List.length_singleton, Nat.pow_succ]
      have hbyte : byte.toNat < 256 := byte.toNat_lt
      omega

namespace ValidatorSetPrng

variable {g : ValidatorSetPrng} {catchainSeqno : Nat}

theorem refill_lt (g : ValidatorSetPrng) : ∀ value ∈ (g.refill lib).values, value < 2 ^ 64 := by
  intro value hvalue
  obtain ⟨i, -, rfl⟩ := List.mem_map.mp hvalue
  refine Nat.lt_of_lt_of_le (bigValue_lt _) ?_
  calc 256 ^ _ ≤ 256 ^ 8 := Nat.pow_le_pow_right (by decide) (List.length_take_le _ _)
    _ = 2 ^ 64 := by decide

/-- A draw leaves words, and is one itself. -/
theorem nextUlong_lt (h : ∀ value ∈ g.values, value < 2 ^ 64) :
    (g.nextUlong lib).1 < 2 ^ 64 ∧ ∀ value ∈ (g.nextUlong lib).2.values, value < 2 ^ 64 := by
  have filled : ∀ value ∈ (if g.values = [] then g.refill lib else g).values, value < 2 ^ 64 := by
    split
    · exact refill_lt g
    · exact h
  unfold nextUlong
  refine ⟨?_, fun value hvalue => filled value (List.mem_of_mem_tail hvalue)⟩
  cases hvalues : (if g.values = [] then g.refill lib else g).values with
  | nil => simp only [hvalues, List.headD_nil]; decide
  | cons value values =>
      simp only [hvalues, List.headD_cons]
      exact filled value (hvalues ▸ List.mem_cons_self)

theorem Reached.values_lt (h : Reached lib catchainSeqno g) :
    ∀ value ∈ g.values, value < 2 ^ 64 := by
  induction h with
  | start => exact fun _ h => nomatch h
  | draw _ range ih => exact (nextUlong_lt ih).2

/-- `next_ranged(range)` is in the range. -/
theorem Reached.nextRanged_lt (h : Reached lib catchainSeqno g) {range : Nat} (hrange : 0 < range) :
    (g.nextRanged lib range).1 < range := by
  have hword : (g.nextUlong lib).1 < 2 ^ 64 := (nextUlong_lt h.values_lt).1
  show range * (g.nextUlong lib).1 / 2 ^ 64 < range
  refine Nat.div_lt_of_lt_mul ?_
  rw [Nat.mul_comm]
  exact Nat.mul_lt_mul_of_pos_right hword hrange

end ValidatorSetPrng

/-! ## The shuffle -/

/-- The loop after some of its rounds. -/
theorem shuffle_rounds (catchainSeqno main : Nat) : ∀ rounds, rounds ≤ main →
    ∃ indices g, (List.range rounds).foldl (fun (s : List Nat × ValidatorSetPrng) index =>
        let (swap, g) := s.2.nextRanged lib (index + 1)
        ((s.1.set index (s.1.getD swap 0)).set swap index, g))
        (List.replicate main 0, ⟨0, catchainSeqno, []⟩) = (indices, g) ∧
      g.Reached lib catchainSeqno ∧ indices.length = main ∧
        InsideOut.Placed indices (List.range rounds) := by
  intro rounds
  induction rounds with
  | zero =>
      intro _
      exact ⟨_, _, rfl, .start, List.length_replicate, InsideOut.placed_nil _⟩
  | succ rounds ih =>
      intro hrounds
      obtain ⟨indices, g, hloop, hg, hlength, hplaced⟩ := ih (Nat.le_of_succ_le hrounds)
      rw [List.range_succ, List.foldl_concat, hloop]
      refine ⟨_, _, rfl, hg.draw (rounds + 1), ?_, ?_⟩
      · rw [List.length_set, List.length_set, hlength]
      · have room : (List.range rounds).length < indices.length := by
          rw [List.length_range, hlength]
          exact hrounds
        have hchoice : (g.nextRanged lib (rounds + 1)).1 ≤ (List.range rounds).length := by
          rw [List.length_range]
          exact Nat.le_of_lt_succ (hg.nextRanged_lt (Nat.succ_pos rounds))
        have next := @InsideOut.placed_round _ 0 rounds _ _ _ hplaced room hchoice
        rw [List.length_range] at next
        exact next

/-- The shuffle places every index once. -/
theorem shuffledIndices_perm (catchainSeqno main : Nat) :
    (shuffledIndices lib catchainSeqno main).Perm (List.range main) := by
  obtain ⟨indices, g, hloop, -, hlength, -, hperm⟩ :=
    @shuffle_rounds lib catchainSeqno main main le_rfl
  unfold shuffledIndices
  rw [hloop]
  rw [List.length_range, ← hlength, List.take_length, hlength] at hperm
  exact hperm

/-! ## The configured validators -/

/-- The entries of the configuration, by index. -/
def ValidatorSet.Configured (validators : ValidatorSet) (rows : List ValidatorRow) : Prop :=
  rows.length = validators.total.toNat ∧
    ∀ index < validators.total.toNat, rows[index]? = validators.list.lookup (index : Int)

theorem map_some_filterMap {α β : Type} {f : α → Option β} {l : List α}
    (h : ∀ a ∈ l, (f a).isSome = true) : (l.filterMap f).map some = l.map f := by
  induction l with
  | nil => rfl
  | cons a l ih =>
      obtain ⟨ha, hl⟩ := List.forall_mem_cons.mp h
      obtain ⟨b, hb⟩ := Option.isSome_iff_exists.mp ha
      rw [List.filterMap_cons_some hb, List.map_cons, List.map_cons, hb, ih hl]

theorem range_map_getElem? {α : Type} (l : List α) :
    (List.range l.length).map (fun index => l[index]?) = l.map some := by
  refine List.ext_getElem? fun i => ?_
  rw [List.getElem?_map, List.getElem?_map]
  rcases Nat.lt_or_ge i l.length with hlt | hge
  · rw [List.getElem?_range hlt, Option.map_some, List.getElem?_eq_getElem hlt, Option.map_some]
  · rw [List.getElem?_eq_none (by rwa [List.length_range]), List.getElem?_eq_none hge]
    rfl

theorem isSome_lookup {key : Int} {entries : List (Int × ValidatorRow)}
    (h : key ∈ entries.map (·.1)) : (entries.lookup key).isSome = true := by
  obtain ⟨entry, hentry, rfl⟩ := List.mem_map.mp h
  rw [Option.isSome_iff_ne_none]
  intro hnone
  have := List.lookup_eq_none_iff.mp hnone entry hentry
  simp at this

theorem checkedTotalWeight_ok {rows : List ValidatorRow} {total : Int}
    (h : checkedTotalWeight rows = .ok total) :
    total = totalWeight rows ∧ totalWeight rows ≤ 2 ^ 61 ∧
      ∀ row ∈ rows, validatorEntryValid row = true := by
  refine (fun ⟨a, b, c⟩ => ⟨a, a ▸ b, c⟩) <| @ExceptFold.foldlM_inv _ _ _ _ (fun done (t : Int) =>
    t = totalWeight done ∧ t ≤ 2 ^ 61 ∧ ∀ row ∈ done, validatorEntryValid row = true) ?_
    _ [] _ _ h ⟨rfl, by decide, fun _ h => nomatch h⟩
  rintro done row t t' hstep ⟨hweight, -, hvalid⟩
  obtain ⟨_, hentry, hstep⟩ := bind_eq_ok.mp hstep
  obtain ⟨_, hbound, hstep⟩ := bind_eq_ok.mp hstep
  cases hstep
  refine ⟨?_, check_eq_ok.mp hbound, ?_⟩
  · rw [hweight, totalWeight, totalWeight, List.map_append, List.sum_append, List.map_singleton,
      List.sum_singleton]
  · intro other hother
    rcases List.mem_append.mp hother with hother | hother
    · exact hvalid other hother
    · rw [List.mem_singleton.mp hother]
      exact check_eq_ok.mp hentry

theorem validatorEntryValid_iff {row : ValidatorRow} : validatorEntryValid row = true ↔
    (∃ key, row.publicKey = some key ∧ key.length = 32) ∧ 0 < row.weight ∧ row.weight < 2 ^ 64 ∧
      ∀ address, row.adnlAddr = some address → address.length = 32 := by
  simp only [validatorEntryValid, Bool.and_eq_true, decide_eq_true_iff, Option.any_eq_true,
    Option.all_eq_true, and_assoc]

/-- What an accepted configuration is. -/
structure AcceptedValidators (validators : ValidatorSet) (rows : List ValidatorRow) : Prop where
  configured : validators.Configured rows
  main : 1 ≤ validators.main ∧ validators.main.toNat ≤ rows.length
  size : rows.length ≤ 2 ^ 16 - 1
  valid : ∀ row ∈ rows, validatorEntryValid row = true
  weight : totalWeight rows ≤ 2 ^ 61

theorem computeMasterchainValidatorSet_ok {shuffle : Option (Option Bool)}
    {validators : ValidatorSet} {catchainSeqno : Int} {nodes : List ValidatorRow}
    (h : computeMasterchainValidatorSet lib shuffle validators catchainSeqno = .ok nodes) :
    ∃ (rows : List ValidatorRow) (indices : List Nat), AcceptedValidators validators rows ∧
      indices.Perm (List.range validators.main.toNat) ∧
        nodes.map some = indices.map fun index => rows[index]? := by
  obtain ⟨_, hcanonical, h⟩ := bind_eq_ok.mp h
  obtain ⟨total, htotal, h⟩ := bind_eq_ok.mp h
  obtain ⟨_, -, h⟩ := bind_eq_ok.mp h
  obtain ⟨hmain, hle, hsize, -, hkeys⟩ := check_eq_ok.mp hcanonical
  obtain ⟨-, hweight, hvalid⟩ := checkedTotalWeight_ok htotal
  generalize hrows : (List.range validators.total.toNat).filterMap (fun index : Nat =>
    validators.list.lookup (index : Int)) = rows at h hweight hvalid
  have hmap : rows.map some =
      (List.range validators.total.toNat).map fun index : Nat =>
        validators.list.lookup (index : Int) := by
    rw [← hrows]
    exact map_some_filterMap fun index hindex => isSome_lookup (hkeys index hindex)
  have hlength : rows.length = validators.total.toNat := by
    have := congrArg List.length hmap
    rwa [List.length_map, List.length_map, List.length_range] at this
  have configured : validators.Configured rows := by
    refine ⟨hlength, fun index hindex => ?_⟩
    have := congrArg (·[index]?) hmap
    simp only [List.getElem?_map, List.getElem?_range hindex, Option.map_some] at this
    rw [List.getElem?_eq_getElem (hlength.symm ▸ hindex)] at this ⊢
    exact Option.some.inj this
  have accepted : AcceptedValidators validators rows :=
    ⟨configured, ⟨hmain, by omega⟩, by omega, hvalid, hweight⟩
  have htaken : (rows.take validators.main.toNat).length = validators.main.toNat :=
    List.length_take_of_le accepted.main.2
  -- the validators at the places of a list of indices
  have picked : ∀ index < validators.main.toNat,
      (rows.take validators.main.toNat)[index]? = rows[index]? := fun index hindex =>
    List.getElem?_take_of_lt hindex
  have plain : nodes = rows.take validators.main.toNat →
      nodes.map some = (List.range validators.main.toNat).map fun index => rows[index]? := by
    rintro rfl
    rw [← range_map_getElem?, htaken]
    exact List.map_congr_left fun index hindex => picked index (List.mem_range.mp hindex)
  split at h
  · cases h
  · obtain ⟨seqno, -, h⟩ := bind_eq_ok.mp h
    have hperm := @shuffledIndices_perm lib seqno.toNat validators.main.toNat
    have hlt : ∀ index ∈ shuffledIndices lib seqno.toNat validators.main.toNat,
        index < validators.main.toNat := fun index hindex =>
      List.mem_range.mp (hperm.mem_iff.mp hindex)
    refine ⟨rows, _, accepted, hperm, ?_⟩
    cases h
    rw [map_some_filterMap fun index hindex => ?_]
    · exact List.map_congr_left fun index hindex => picked index (hlt index hindex)
    · rw [List.getElem?_eq_getElem (by rw [htaken]; exact hlt index hindex)]
      rfl
  · cases h
    exact ⟨rows, _, accepted, .refl _, plain rfl⟩

/-- The picked validators are the first ones, in some order. -/
theorem perm_of_picked {rows nodes : List ValidatorRow} {indices : List Nat} {main : Nat}
    (hmain : main ≤ rows.length) (hperm : indices.Perm (List.range main))
    (hnodes : nodes.map some = indices.map fun index => rows[index]?) :
    nodes.Perm (rows.take main) := by
  have hmap : (nodes.map some).Perm ((rows.take main).map some) := by
    rw [hnodes, ← range_map_getElem?, List.length_take_of_le hmain]
    refine (hperm.map _).trans (List.Perm.of_eq ?_)
    exact List.map_congr_left fun index hindex =>
      (List.getElem?_take_of_lt (List.mem_range.mp hindex)).symm
  have := hmap.filterMap id
  rwa [List.filterMap_map, List.filterMap_map, Function.id_comp, List.filterMap_some,
    List.filterMap_some] at this

/-! ## Weights -/

theorem totalWeight_nonneg {rows : List ValidatorRow} (h : ∀ row ∈ rows, 0 < row.weight) :
    0 ≤ totalWeight rows := by
  refine List.sum_nonneg fun weight hweight => ?_
  obtain ⟨row, hrow, rfl⟩ := List.mem_map.mp hweight
  exact (h row hrow).le

/-- Some of the rows weigh no more than all of them. -/
theorem totalWeight_le {rows all : List ValidatorRow} (hsub : rows.Subperm all)
    (h : ∀ row ∈ all, 0 < row.weight) : totalWeight rows ≤ totalWeight all := by
  obtain ⟨rows', hperm, hsublist⟩ := hsub
  have heq : totalWeight rows' = totalWeight rows := (hperm.map ValidatorRow.weight).sum_eq
  rw [← heq]
  refine (hsublist.map ValidatorRow.weight).sum_le_sum fun weight hweight => ?_
  obtain ⟨row, hrow, rfl⟩ := List.mem_map.mp hweight
  exact (h row hrow).le

/-- The sums and products of the signature check, for every list of
signatures. -/
structure WeightArithmetic (lib : ProofLibrary) (nodes : List ValidatorRow) : Prop where
  /-- `total_weight += weight`. -/
  total : ∀ before node after map, nodes = before ++ node :: after →
    nodeMap lib before = .ok map →
      0 ≤ map.totalWeight ∧ map.totalWeight + node.weight < 2 ^ 64
  /-- `total_weight * 2`. -/
  doubled : ∀ map, nodeMap lib nodes = .ok map → 0 ≤ map.totalWeight ∧ map.totalWeight * 2 < 2 ^ 64
  /-- `signed_weight * 3`, after any of the signatures. -/
  tripled : ∀ (map : NodeMap) (values : List TlValue) (block : BlockIdExt) (s : SignatureLoop),
    nodeMap lib nodes = .ok map →
    values.foldlM (signatureStep lib map.nodes block) ⟨[], 0⟩ = .ok s →
      0 ≤ s.signedWeight ∧ s.signedWeight * 3 < 2 ^ 64

theorem weightArithmetic {nodes : List ValidatorRow} (hpos : ∀ node ∈ nodes, 0 < node.weight)
    (hbound : totalWeight nodes ≤ 2 ^ 61) : WeightArithmetic lib nodes := by
  refine ⟨?_, ?_, ?_⟩
  · rintro before node after map rfl hmap
    obtain ⟨-, htotal, -, -⟩ := nodeMap_ok hmap
    have hbefore : ∀ row ∈ before, 0 < row.weight := fun row hrow =>
      hpos row (List.mem_append_left _ hrow)
    have hsub : (before ++ [node]).Subperm (before ++ node :: after) :=
      (List.append_cons before node after).symm ▸ (List.sublist_append_left _ _).subperm
    have hle := totalWeight_le hsub hpos
    rw [totalWeight, List.map_append, List.sum_append, List.map_singleton, List.sum_singleton]
      at hle
    change totalWeight before + node.weight ≤ _ at hle
    exact ⟨htotal ▸ totalWeight_nonneg hbefore, by rw [htotal]; omega⟩
  · intro map hmap
    obtain ⟨-, htotal, -, -⟩ := nodeMap_ok hmap
    exact ⟨htotal ▸ totalWeight_nonneg hpos, by rw [htotal]; omega⟩
  · intro map values block s hmap hs
    obtain ⟨hnodes, -, -, -⟩ := nodeMap_ok hmap
    obtain ⟨signers, -, hweight, hnodup, hall⟩ := signatureSteps_ok hnodes hs
    have hmembers : ∀ signer ∈ signers, signer ∈ nodes := fun signer hsigner =>
      (hall signer hsigner).1
    have hle := totalWeight_le ((List.Nodup.of_map _ hnodup).subperm hmembers) hpos
    refine ⟨?_, by rw [hweight]; omega⟩
    rw [hweight]
    exact totalWeight_nonneg fun signer hsigner => hpos signer (hmembers signer hsigner)

/-! ## The hashed document -/

/-- The address, or zeros. -/
def addressOrZero (row : ValidatorRow) : Bytes := row.adnlAddr.getD (List.replicate 32 0)

/-- What the hash says of a validator. -/
def hashedRow (row : ValidatorRow) : Option Bytes × Int × Bytes :=
  (row.publicKey, row.weight, addressOrZero row)

/-- `document`, which `compute_validator_set_hash` hashes. -/
def validatorSetDocument (catchainSeqno : Int) (nodes : List ValidatorRow) :
    Except String Bytes := do
  check (1 ≤ nodes.length ∧ nodes.length ≤ 2 ^ 16 - 1)
    "Computed validator set is empty or too large."
  let catchain ← uint32 catchainSeqno "validator-set catchain"
  let head := littleBytes 4 (2 ^ 32 - 1877581587) ++ littleBytes 4 catchain.toNat ++
    littleBytes 4 nodes.length
  let rows ← nodes.mapM fun node => do
    check (validatorEntryValid node) "Computed validator entry is invalid."
    return node.publicKey.getD [] ++ littleBytes 8 node.weight.toNat ++
      node.adnlAddr.getD (List.replicate 32 0)
  return head ++ rows.flatten

/-- The bytes of one validator. -/
def rowBytes (row : ValidatorRow) : Bytes :=
  row.publicKey.getD [] ++ littleBytes 8 row.weight.toNat ++ addressOrZero row

theorem rowBytes_inj {row row' : ValidatorRow} (h : validatorEntryValid row = true)
    (h' : validatorEntryValid row' = true) (heq : rowBytes row = rowBytes row') :
    hashedRow row = hashedRow row' := by
  obtain ⟨⟨key, hkey, hlen⟩, hpos, hweight, -⟩ := validatorEntryValid_iff.mp h
  obtain ⟨⟨key', hkey', hlen'⟩, hpos', hweight', -⟩ := validatorEntryValid_iff.mp h'
  unfold rowBytes at heq
  rw [hkey, hkey', Option.getD_some, Option.getD_some, List.append_assoc, List.append_assoc] at heq
  obtain ⟨rfl, hrest⟩ := List.append_inj heq (hlen.trans hlen'.symm)
  obtain ⟨hweights, haddress⟩ := List.append_inj hrest
    ((length_littleBytes _ _).trans (length_littleBytes _ _).symm)
  have weights : row.weight.toNat = row'.weight.toNat :=
    @littleBytes_inj 8 _ _ (by omega) (by omega) hweights
  have weight : row.weight = row'.weight := by omega
  rw [hashedRow, hashedRow, hkey, hkey', weight, haddress]

theorem length_rowBytes {row : ValidatorRow} (h : validatorEntryValid row = true) :
    (rowBytes row).length = 72 := by
  obtain ⟨⟨key, hkey, hlen⟩, -, -, haddress⟩ := validatorEntryValid_iff.mp h
  have address : (addressOrZero row).length = 32 := by
    unfold addressOrZero
    cases haddr : row.adnlAddr with
    | none => exact List.length_replicate
    | some address => exact haddress address haddr
  rw [rowBytes, List.length_append, List.length_append, hkey, Option.getD_some, hlen,
    length_littleBytes, address]

theorem validatorSetDocument_ok {catchainSeqno : Int} {nodes : List ValidatorRow}
    {document : Bytes} (h : validatorSetDocument catchainSeqno nodes = .ok document) :
    (∀ node ∈ nodes, validatorEntryValid node = true) ∧ ∃ head : Bytes, head.length = 12 ∧
      document = head ++ (nodes.map rowBytes).flatten := by
  obtain ⟨_, -, h⟩ := bind_eq_ok.mp h
  obtain ⟨catchain, -, h⟩ := bind_eq_ok.mp h
  obtain ⟨rows, hrows, h⟩ := bind_eq_ok.mp h
  cases h
  have hvalue : ∀ node row, (do
      check (validatorEntryValid node) "Computed validator entry is invalid."
      return node.publicKey.getD [] ++ littleBytes 8 node.weight.toNat ++
        node.adnlAddr.getD (List.replicate 32 0) : Except String Bytes) = .ok row →
      validatorEntryValid node = true ∧ row = rowBytes node := by
    intro node row hrow
    obtain ⟨_, hentry, hrow⟩ := bind_eq_ok.mp hrow
    cases hrow
    exact ⟨check_eq_ok.mp hentry, rfl⟩
  refine ⟨?_, littleBytes 4 (2 ^ 32 - 1877581587) ++ littleBytes 4 catchain.toNat ++
    littleBytes 4 nodes.length, ?_, ?_⟩
  · refine (ExceptFold.mapM_forall_iff (P := fun _ => True) hrows fun node row hrow => ?_).mp
      fun _ _ => trivial
    exact iff_of_true trivial (hvalue node row hrow).1
  · simp only [List.length_append, length_littleBytes]
  · have := ExceptFold.map_of_mapM (g := id) (k := rowBytes) hrows fun node row hrow =>
      (hvalue node row hrow).2
    rw [List.map_id] at this
    rw [this]

/-- The document determines its list of validators. -/
theorem validatorSetDocument_inj {catchainSeqno catchainSeqno' : Int}
    {nodes nodes' : List ValidatorRow} {document : Bytes}
    (h : validatorSetDocument catchainSeqno nodes = .ok document)
    (h' : validatorSetDocument catchainSeqno' nodes' = .ok document) :
    nodes.map hashedRow = nodes'.map hashedRow := by
  obtain ⟨hvalid, head, hhead, heq⟩ := validatorSetDocument_ok h
  obtain ⟨hvalid', head', hhead', heq'⟩ := validatorSetDocument_ok h'
  obtain ⟨-, hrows⟩ := List.append_inj (heq.symm.trans heq') (hhead.trans hhead'.symm)
  have lengths : ∀ {nodes : List ValidatorRow}, (∀ node ∈ nodes, validatorEntryValid node = true) →
      (nodes.map rowBytes).map List.length = List.replicate nodes.length 72 := by
    intro nodes hvalid
    rw [List.map_map, List.eq_replicate_iff, List.length_map]
    refine ⟨rfl, fun length hlength => ?_⟩
    obtain ⟨node, hnode, rfl⟩ := List.mem_map.mp hlength
    exact length_rowBytes (hvalid node hnode)
  have total := congrArg List.length hrows
  rw [List.length_flatten, List.length_flatten, lengths hvalid, lengths hvalid',
    List.sum_replicate_nat, List.sum_replicate_nat] at total
  have count : nodes.length = nodes'.length := by omega
  have hmap : nodes.map rowBytes = nodes'.map rowBytes :=
    List.eq_iff_flatten_eq.mpr ⟨hrows, by rw [lengths hvalid, lengths hvalid', count]⟩
  clear heq heq' hrows total lengths h h'
  induction nodes generalizing nodes' with
  | nil => rw [List.eq_nil_of_length_eq_zero count.symm]
  | cons node nodes ih =>
      cases nodes' with
      | nil => cases count
      | cons node' nodes' =>
          obtain ⟨hnode, hnodes⟩ := List.forall_mem_cons.mp hvalid
          obtain ⟨hnode', hnodes'⟩ := List.forall_mem_cons.mp hvalid'
          obtain ⟨hrow, hrest⟩ := List.cons.inj hmap
          rw [List.map_cons, List.map_cons, rowBytes_inj hnode hnode' hrow,
            ih hnodes hnodes' (Nat.succ.inj count) hrest]

/-! ## Repeated calls -/

/-- One configuration, whatever the order of its dictionary. -/
structure SameConfiguration (a b : ValidatorSet) : Prop where
  total : a.total = b.total
  main : a.main = b.main
  totalWeight : a.totalWeight = b.totalWeight
  list : ∀ index, a.list.lookup index = b.list.lookup index

theorem mem_keys_iff {key : Int} {entries : List (Int × ValidatorRow)} :
    key ∈ entries.map (·.1) ↔ (entries.lookup key).isSome = true := by
  refine ⟨isSome_lookup, fun h => ?_⟩
  obtain ⟨row, hrow⟩ := Option.isSome_iff_exists.mp h
  exact List.mem_map_of_mem (mem_of_lookup hrow)

theorem computeMasterchainValidatorSet_congr {a b : ValidatorSet} (h : SameConfiguration a b)
    (shuffle : Option (Option Bool)) (catchainSeqno : Int) :
    computeMasterchainValidatorSet lib shuffle a catchainSeqno =
      computeMasterchainValidatorSet lib shuffle b catchainSeqno := by
  obtain ⟨total, main, list, weight⟩ := a
  obtain ⟨total', main', list', weight'⟩ := b
  obtain ⟨rfl, rfl, rfl, hlist⟩ := h
  have keys : ∀ key, key ∈ list.map (·.1) ↔ key ∈ list'.map (·.1) := fun key => by
    rw [mem_keys_iff, mem_keys_iff]
    exact Eq.congr_left (congrArg Option.isSome (hlist key))
  unfold computeMasterchainValidatorSet
  simp only [keys, hlist]

/-! ## Main theorem -/

/-- What the validators of a block are. -/
structure ValidatorsSound (lib : ProofLibrary) (shuffle : Option (Option Bool))
    (validators : ValidatorSet) (catchainSeqno : Int) (nodes : List ValidatorRow) : Prop where
  /-- Every index of the first configured validators, once. -/
  permutation : ∃ (rows : List ValidatorRow) (indices : List Nat), validators.Configured rows ∧
    indices.Perm (List.range validators.main.toNat) ∧
      (nodes.map some = indices.map fun index => rows[index]?) ∧
        nodes.Perm (rows.take validators.main.toNat)
  /-- Every draw of the generator is in its range. -/
  draws : ∀ (g : ValidatorSetPrng) (range : Nat),
    g.Reached lib (catchainSeqno % 2 ^ 32).toNat → 0 < range → (g.nextRanged lib range).1 < range
  repeated : ∀ validators', SameConfiguration validators' validators →
    computeMasterchainValidatorSet lib shuffle validators' catchainSeqno = .ok nodes
  bounded : totalWeight nodes ≤ 2 ^ 61
  arithmetic : WeightArithmetic lib nodes
  /-- The hashed bytes are those of no other list. -/
  serialized : ∀ seqno seqno' nodes' document, validatorSetDocument seqno nodes = .ok document →
    validatorSetDocument seqno' nodes' = .ok document → nodes'.map hashedRow = nodes.map hashedRow

theorem validator_shuffle_sound (lib : ProofLibrary) (shuffle : Option (Option Bool))
    (validators : ValidatorSet) (catchainSeqno : Int) (nodes : List ValidatorRow)
    (h : computeMasterchainValidatorSet lib shuffle validators catchainSeqno = .ok nodes) :
    ValidatorsSound lib shuffle validators catchainSeqno nodes := by
  obtain ⟨rows, indices, accepted, hindices, hpicked⟩ := computeMasterchainValidatorSet_ok h
  have hperm := perm_of_picked accepted.main.2 hindices hpicked
  have positive : ∀ row ∈ rows, 0 < row.weight := fun row hrow =>
    (validatorEntryValid_iff.mp (accepted.valid row hrow)).2.1
  have hsub : nodes.Subperm rows := hperm.subperm.trans (List.take_sublist _ _).subperm
  have bounded : totalWeight nodes ≤ 2 ^ 61 := (totalWeight_le hsub positive).trans accepted.weight
  refine ⟨⟨rows, indices, accepted.configured, hindices, hpicked, hperm⟩, ?_, ?_, bounded, ?_, ?_⟩
  · exact fun g range hg hrange => hg.nextRanged_lt hrange
  · exact fun validators' hsame =>
      (computeMasterchainValidatorSet_congr hsame shuffle catchainSeqno).trans h
  · exact weightArithmetic (fun node hnode => positive node (hsub.subset hnode)) bounded
  · exact fun seqno seqno' nodes' document hdocument hdocument' =>
      validatorSetDocument_inj hdocument' hdocument

/-- A library whose `sha512` has the digest of the first block of catchain
seqno 7. -/
def shuffleLibrary : ProofLibrary where
  Cell := Unit
  Slice := Unit
  blockFromDict _ := none
  oneFromBoc _ := none
  refs _ := []
  checkProof _ _ := false
  checkBlockHeaderProof _ _ := false
  storedStateHash _ _ := none
  Block := Unit
  deserializeBlock _ := none
  blockInfo _ := none
  extraKeyBlock _ := none
  extraConfig _ := none
  shuffleMcValidators _ := none
  curValidators _ := none
  curTempValidators _ := none
  State := Unit
  deserializeState _ := none
  stateShard _ := none
  stateSeqno _ := 0
  previousBlock _ := none
  nodeIdShort key := key
  fromHex _ := none
  verifySign _ _ _ := false
  sha512 _ :=
    [107, 106, 57, 84, 57, 199, 14, 220, 124, 14, 19, 220, 227, 97, 158, 82,
     115, 194, 31, 244, 127, 1, 77, 194, 40, 83, 89, 238, 247, 250, 16, 81,
     136, 116, 128, 250, 102, 9, 95, 219, 34, 2, 182, 92, 77, 79, 20, 98,
     209, 49, 134, 221, 140, 202, 221, 105, 32, 55, 54, 70, 252, 96, 232, 149]
  chooseKeyBlock best time _ _ := (best, time)

/-- Four validators, of which three are in the set. -/
def sampleValidators : ValidatorSet :=
  ⟨4, 3, [(2, ⟨some (List.replicate 32 2), 20, none⟩), (0, ⟨some (List.replicate 32 0), 5, none⟩),
    (1, ⟨some (List.replicate 32 1), 7, some (List.replicate 32 9)⟩),
    (3, ⟨some (List.replicate 32 3), 1, none⟩)], some 33⟩

def sampleShuffled : List ValidatorRow :=
  [⟨some (List.replicate 32 1), 7, some (List.replicate 32 9)⟩,
    ⟨some (List.replicate 32 2), 20, none⟩, ⟨some (List.replicate 32 0), 5, none⟩]

theorem validator_shuffle_sound_sample :
    ValidatorsSound shuffleLibrary (some (some true)) sampleValidators 7 sampleShuffled :=
  validator_shuffle_sound _ _ _ _ _ (by decide +kernel)

end TonTracker
