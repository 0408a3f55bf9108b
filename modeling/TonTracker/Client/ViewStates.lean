/-
# `Client.ViewStates` — view states survive their URL

The fields of a state are blocks, one for each key, so a key reads back what
its block holds.  What the parser returns, or what has the same shape, comes
back from its search with its lists in canonical order; and a library query
comes back from its path (`view_states_survive`).
-/
import TonTracker.Client.CaseRouting
import TonTracker.Client.InstantSpellings
import TonTracker.Addresses.Codec
import TonTracker.Pnl.AssetIdentity

namespace TonTracker

open FixedDigits
open ExceptFold (bind_eq_ok)
open Option (bind_eq_some_iff)

variable {replaced : List UInt8 → Text}

/-! ## Fields in blocks -/

/-- A name with its values. -/
abbrev FieldBlock : Type := Text × List Text

/-- The fields of some blocks. -/
def blockFields (blocks : List FieldBlock) : SearchParams :=
  blocks.flatMap fun block => block.2.map fun value => (block.1, value)

variable {blocks : List FieldBlock} {name key : Text} {values : List Text} {params : SearchParams}

theorem blockFields_concat (blocks : List FieldBlock) (block : FieldBlock) :
    blockFields (blocks ++ [block]) =
      blockFields blocks ++ block.2.map fun value => (block.1, value) := by
  unfold blockFields
  rw [List.flatMap_append, List.flatMap_singleton]

theorem name_of_mem_blockFields {field : Text × Text} (h : field ∈ blockFields blocks) :
    field.1 ∈ blocks.map (·.1) := by
  obtain ⟨block, hblock, hfield⟩ := List.mem_flatMap.mp h
  obtain ⟨value, -, rfl⟩ := List.mem_map.mp hfield
  exact List.mem_map_of_mem hblock

theorem set_of_new (h : ∀ field ∈ params, field.1 ≠ name) (value : Text) :
    params.set name value = params ++ [(name, value)] := by
  induction params with
  | nil => rfl
  | cons field params ih =>
      rw [List.forall_mem_cons] at h
      show (if field.1 = name then _ else field :: SearchParams.set params name value) = _
      rw [if_neg h.1, ih h.2, List.cons_append]

theorem blockFields_avoid (h : name ∉ blocks.map (·.1)) :
    ∀ field ∈ blockFields blocks, field.1 ≠ name := fun _ hfield heq =>
  h (heq ▸ name_of_mem_blockFields hfield)

theorem set_blockFields (h : name ∉ blocks.map (·.1)) (value : Text) :
    SearchParams.set (blockFields blocks) name value =
      blockFields (blocks ++ [(name, [value])]) := by
  rw [set_of_new (blockFields_avoid h), blockFields_concat]
  rfl

theorem setTruthy_blockFields (h : name ∉ blocks.map (·.1)) (value : Option Text) :
    SearchParams.setTruthy (blockFields blocks) name value =
      blockFields (blocks ++ [(name, (truthyText value).toList)]) := by
  unfold SearchParams.setTruthy
  cases truthyText value with
  | none => rw [blockFields_concat]; exact (List.append_nil _).symm
  | some value => exact set_blockFields h value

theorem setSome_blockFields {name : String} (h : name.toList ∉ blocks.map (·.1))
    (value : Option Text) : SearchParams.setSome (blockFields blocks) name value =
      blockFields (blocks ++ [(name.toList, value.toList)]) := by
  cases value with
  | none => rw [blockFields_concat]; exact (List.append_nil _).symm
  | some value => exact set_blockFields h value

theorem appendAll_blockFields {α : Type} (allowed : ValueSet α) (values : List α) :
    SearchParams.appendAll (blockFields blocks) name allowed values =
      blockFields (blocks ++ [(name, values.map allowed.text)]) := by
  unfold SearchParams.appendAll
  rw [blockFields_concat, List.map_map]
  generalize blockFields blocks = params
  induction values generalizing params with
  | nil => exact (List.append_nil _).symm
  | cons value values ih =>
      rw [List.foldl_cons, ih]
      unfold SearchParams.append
      rw [List.append_assoc]
      rfl

/-- A key reads what its block holds. -/
theorem getAll_blockFields (hmem : (key, values) ∈ blocks) (hnodup : (blocks.map (·.1)).Nodup) :
    SearchParams.getAll (blockFields blocks) key = values := by
  have hblock : ∀ block : FieldBlock, SearchParams.getAll (block.2.map fun value =>
      (block.1, value)) key = if block.1 = key then block.2 else [] := by
    intro block
    unfold SearchParams.getAll
    split
    · next heq =>
        rw [List.filter_eq_self.mpr, List.map_map]
        · exact (List.map_congr_left fun _ _ => rfl).trans (List.map_id _)
        · intro field hfield
          obtain ⟨value, -, rfl⟩ := List.mem_map.mp hfield
          exact decide_eq_true heq
    · next hne =>
        rw [List.filter_eq_nil_iff.mpr, List.map_nil]
        intro field hfield
        obtain ⟨value, -, rfl⟩ := List.mem_map.mp hfield
        exact fun h => hne (of_decide_eq_true h)
  have happend : ∀ params params' : SearchParams, SearchParams.getAll (params ++ params') key =
      SearchParams.getAll params key ++ SearchParams.getAll params' key := by
    intro params params'
    unfold SearchParams.getAll
    rw [List.filter_append, List.map_append]
  induction blocks with
  | nil => cases hmem
  | cons block blocks ih =>
      rw [List.map_cons, List.nodup_cons] at hnodup
      have hsplit : blockFields (block :: blocks) =
          (block.2.map fun value => (block.1, value)) ++ blockFields blocks := List.flatMap_cons
      rw [hsplit, happend, hblock]
      obtain rfl | hmem := List.mem_cons.mp hmem
      · have hrest : SearchParams.getAll (blockFields blocks) key = [] := by
          unfold SearchParams.getAll
          rw [List.filter_eq_nil_iff.mpr, List.map_nil]
          exact fun field hfield h => blockFields_avoid hnodup.1 field hfield (of_decide_eq_true h)
        rw [if_pos rfl, hrest, List.append_nil]
      · rw [if_neg, List.nil_append, ih hmem hnodup.2]
        exact fun heq => hnodup.1 (heq ▸ List.mem_map_of_mem hmem)

theorem ofText_print (replaced : List UInt8 → Text) (params : SearchParams) :
    SearchParams.ofText replaced (FormUrlencoded.print params) = params := by
  have hparse := FormUrlencoded.parse_print replaced params
  cases htext : FormUrlencoded.print params with
  | nil =>
      rw [htext] at hparse
      exact hparse
  | cons c text =>
      have hc : c ≠ '?' := FormUrlencoded.ne_question_of_mem_print
        (htext ▸ List.mem_cons_self : c ∈ FormUrlencoded.print params)
      rw [htext] at hparse
      unfold SearchParams.ofText
      split
      · next heq =>
          cases heq
          exact absurd rfl hc
      · exact hparse

/-- The fields of a search, with its `?` or without. -/
theorem ofText_searchText (params : SearchParams) :
    SearchParams.ofText replaced (searchText params) = params ∧
      SearchParams.ofText replaced (withoutQuestion (searchText params)) = params := by
  have hprint := ofText_print replaced params
  unfold searchText
  cases htext : FormUrlencoded.print params with
  | nil =>
      rw [htext] at hprint
      exact ⟨hprint, hprint⟩
  | cons c text =>
      rw [htext] at hprint
      refine ⟨?_, hprint⟩
      have hparse := FormUrlencoded.parse_print replaced params
      rw [htext] at hparse
      exact hparse

/-! ## Texts -/

/-- Printable ASCII, without a blank. -/
def IsVisible (text : Text) : Prop := ∀ c ∈ text, 33 ≤ c.toNat ∧ c.toNat < 127

theorem jsTrim_of_visible {text : Text} (h : IsVisible text) : jsTrim text = text := by
  have hspace : ∀ l : Text, IsVisible l → l.dropWhile isJsSpace = l := by
    intro l hl
    cases l with
    | nil => rfl
    | cons c l =>
        obtain ⟨hlow, hhigh⟩ := hl c List.mem_cons_self
        refine List.dropWhile_cons_of_neg ?_
        unfold isJsSpace
        simp
        omega
  unfold jsTrim
  rw [hspace text h, hspace text.reverse fun c hc => h c (List.mem_reverse.mp hc),
    List.reverse_reverse]

theorem utf16Length_of_visible {text : Text} (h : IsVisible text) :
    utf16Length text = text.length := by
  unfold utf16Length
  rw [List.map_congr_left (g := fun _ => 1) fun c hc => if_neg (by have := h c hc; omega),
    List.map_const', List.sum_replicate_nat, Nat.mul_one]

theorem jsTrim_jsTrim (text : Text) : jsTrim (jsTrim text) = jsTrim text := by
  unfold jsTrim
  rw [dropWhile_rdropWhile isJsSpace (dropWhile_dropWhile isJsSpace text), List.reverse_reverse,
    dropWhile_dropWhile]

theorem toNat_digit_range {c : Char} (h : isDigit c = true) : 48 ≤ c.toNat ∧ c.toNat ≤ 57 := by
  unfold isDigit at h
  rw [Bool.and_eq_true, decide_eq_true_eq, decide_eq_true_eq] at h
  exact ⟨h.1, h.2⟩

theorem toNat_lowerHex_range {c : Char} (h : isLowerHexDigit c = true) :
    33 ≤ c.toNat ∧ c.toNat < 127 := by
  unfold isLowerHexDigit at h
  rw [Bool.or_eq_true, Bool.and_eq_true, decide_eq_true_eq, decide_eq_true_eq] at h
  obtain h | ⟨hlow, hhigh⟩ := h
  · have := toNat_digit_range h
    omega
  · have h₁ : 97 ≤ c.toNat := hlow
    have h₂ : c.toNat ≤ 102 := hhigh
    omega

/-- A canonical address has from 66 to 76 characters, none of them a blank. -/
theorem rawTonAddress_bounds {text : Text} (h : isCanonicalRawTonAddress text = true) :
    IsVisible text ∧ 66 ≤ text.length ∧ text.length ≤ 76 := by
  unfold isCanonicalRawTonAddress at h
  split at h
  · next workchain c account hspan =>
      rw [Bool.and_eq_true_iff, Bool.and_eq_true_iff, Bool.and_eq_true_iff, beq_iff_eq,
        List.all_eq_true] at h
      obtain ⟨⟨⟨hbounded, hlength⟩, hdigits⟩, -⟩ := h
      have hworkchain : IsVisible workchain ∧ 1 ≤ workchain.length ∧ workchain.length ≤ 11 := by
        have hdecimal : ∀ digits, isBoundedDecimal digits = true →
            IsVisible digits ∧ 1 ≤ digits.length ∧ digits.length ≤ 10 := by
          intro digits hdigits
          unfold isBoundedDecimal at hdigits
          rw [Bool.and_eq_true, decide_eq_true_eq] at hdigits
          cases digits with
          | nil => cases hdigits.1
          | cons d digits =>
              have hall := (Bool.and_eq_true_iff.mp hdigits.1).2
              refine ⟨fun c hc => ?_, by simp, hdigits.2⟩
              have := toNat_digit_range (List.all_eq_true.mp hall c hc)
              omega
        unfold isBoundedWorkchainText at hbounded
        split at hbounded
        · next digits =>
            obtain ⟨hvisible, hpos, hle⟩ := hdecimal digits hbounded
            refine ⟨List.forall_mem_cons.mpr ⟨by decide, hvisible⟩, by simp, ?_⟩
            rw [List.length_cons]
            omega
        · rw [Bool.or_eq_true, beq_iff_eq] at hbounded
          obtain rfl | hbounded := hbounded
          · exact ⟨fun c hc => List.mem_singleton.mp hc ▸ by decide, by decide, by decide⟩
          · obtain ⟨hvisible, hpos, hle⟩ := hdecimal _ hbounded
            exact ⟨hvisible, hpos, by omega⟩
      rw [eq_of_span hspan]
      refine ⟨fun c hc => ?_, ?_, ?_⟩
      · obtain hc | hc := List.mem_append.mp hc
        · exact hworkchain.1 c hc
        · obtain rfl | hc := List.mem_cons.mp hc
          · decide
          · exact toNat_lowerHex_range (hdigits c hc)
      all_goals
        rw [List.length_append, List.length_cons, hlength]
        omega
  · cases h

/-! ## States -/

/-- A state that the parser returns, or that differs from one in the order of
its lists. -/
structure ValidView (state : CaseActivityUrlState) : Prop where
  snapshot : ∀ id ∈ state.snapshot, isUuidV4 id = true
  selected : ∀ id ∈ state.selectedActivityId, isActivityId id = true ∧ state.snapshot.isSome = true
  interval : (state.filters.fromAt = none ∧ state.filters.toAt = none) ∨
    ∃ start stop : InstantSpelling, state.filters.fromAt = some start.text ∧
      state.filters.toAt = some stop.text ∧ start.time < stop.time
  assetId : ∀ id ∈ state.filters.assetId, isAssetId id = true
  protocolId : ∀ id ∈ state.filters.protocolId, id ∈ activityProtocolIds
  counterparty : ∀ address ∈ state.filters.counterparty, isCanonicalRawTonAddress address = true

/-- The blocks of a state. -/
def viewBlocks (state : CaseActivityUrlState) : List FieldBlock :=
  let filters := canonicalizeFilters state.filters
  [("snapshot".toList, (truthyText state.snapshot).toList),
    ("kind".toList, filters.kinds.map kindValues.text),
    ("direction".toList, filters.directions.map directionValues.text),
    ("outcome".toList, filters.outcomes.map outcomeValues.text),
    ("from_at".toList, (truthyText filters.fromAt).toList),
    ("to_at".toList, (truthyText filters.toAt).toList),
    ("asset_id".toList, (truthyText filters.assetId).toList),
    ("protocol_id".toList, (truthyText filters.protocolId).toList),
    ("counterparty".toList, (truthyText filters.counterparty).toList),
    ("data_origin".toList, filters.dataOrigins.map originValues.text),
    ("sort".toList, [filters.sort.text]),
    ("activity".toList, (truthyText state.selectedActivityId).toList)]

theorem viewBlocks_names (state : CaseActivityUrlState) :
    (viewBlocks state).map (·.1) = allowedKeys := rfl

theorem nodup_allowedKeys : allowedKeys.Nodup := by decide

/-- A name that is not among those of some blocks. -/
theorem new_name (names : List Text) (h : blocks.map (·.1) = names) (hname : name ∉ names) :
    name ∉ blocks.map (·.1) := h ▸ hname

/-- The fields of a state are those of its blocks. -/
theorem activityParams_eq (state : CaseActivityUrlState) :
    activityParams state = blockFields (viewBlocks state) := by
  have hempty : ([] : SearchParams) = blockFields [] := rfl
  unfold activityParams
  dsimp only
  rw [hempty, setTruthy_blockFields ?_, appendAll_blockFields, appendAll_blockFields,
    appendAll_blockFields, setTruthy_blockFields ?_, setTruthy_blockFields ?_,
    setTruthy_blockFields ?_, setTruthy_blockFields ?_, setTruthy_blockFields ?_,
    appendAll_blockFields, set_blockFields ?_, setTruthy_blockFields ?_]
  · rfl
  · exact new_name (allowedKeys.take 11) rfl (by decide)
  · exact new_name (allowedKeys.take 10) rfl (by decide)
  · exact new_name (allowedKeys.take 8) rfl (by decide)
  · exact new_name (allowedKeys.take 7) rfl (by decide)
  · exact new_name (allowedKeys.take 6) rfl (by decide)
  · exact new_name (allowedKeys.take 5) rfl (by decide)
  · exact new_name (allowedKeys.take 4) rfl (by decide)
  · exact new_name [] rfl (by decide)

/-! ## Values -/

theorem oneValue_of_getAll {value : Option Text}
    (h : SearchParams.getAll params key = value.toList) : oneValue params key = .ok value := by
  unfold oneValue
  rw [h]
  cases value <;> rfl

/-- A text of a set is that of one value. -/
structure ValueSet.Distinct {α : Type} (allowed : ValueSet α) : Prop where
  nodup : allowed.values.Nodup
  text_inj : ∀ a b, allowed.text a = allowed.text b → a = b
  complete : ∀ a, a ∈ allowed.values

theorem kindValues_distinct : kindValues.Distinct where
  nodup := by decide
  text_inj a b := by cases a <;> cases b <;> decide
  complete a := by cases a <;> decide

theorem directionValues_distinct : directionValues.Distinct where
  nodup := by decide
  text_inj a b := by cases a <;> cases b <;> decide
  complete a := by cases a <;> decide

theorem outcomeValues_distinct : outcomeValues.Distinct where
  nodup := by decide
  text_inj a b := by cases a <;> cases b <;> decide
  complete a := by cases a <;> decide

theorem originValues_distinct : originValues.Distinct where
  nodup := by decide
  text_inj a b := by cases a <;> cases b <;> decide
  complete a := by cases a <;> decide

variable {α : Type} [DecidableEq α] {allowed : ValueSet α} {list : List α}

omit [DecidableEq α] in
theorem mem_text_iff (distinct : allowed.Distinct) {a : α} :
    allowed.text a ∈ list.map allowed.text ↔ a ∈ list := by
  constructor
  · intro h
    obtain ⟨b, hb, heq⟩ := List.mem_map.mp h
    exact distinct.text_inj b a heq ▸ hb
  · exact List.mem_map_of_mem

/-- Printed values are read in canonical order. -/
theorem repeatedValues_print (distinct : allowed.Distinct)
    (h : SearchParams.getAll params key = (allowed.canonical list).map allowed.text) :
    repeatedValues params key allowed = .ok (allowed.canonical list) := by
  have hinvalid : ¬ ((∃ value ∈ (allowed.canonical list).map allowed.text,
      value ∉ allowed.values.map allowed.text) ∨
        ¬ ((allowed.canonical list).map allowed.text).Nodup) := by
    rintro (⟨value, hvalue, hnew⟩ | hrepeated)
    · obtain ⟨a, -, rfl⟩ := List.mem_map.mp hvalue
      exact hnew (List.mem_map_of_mem (distinct.complete a))
    · refine hrepeated (List.Nodup.map (fun a b => distinct.text_inj a b) ?_)
      exact distinct.nodup.filter _
  unfold repeatedValues
  dsimp only
  rw [h, if_neg hinvalid]
  refine congrArg Except.ok (List.filter_congr fun a ha => ?_)
  rw [decide_eq_decide, mem_text_iff distinct]
  exact ⟨fun hmem => of_decide_eq_true (List.mem_filter.mp hmem).2,
    fun hmem => List.mem_filter.mpr ⟨ha, decide_eq_true hmem⟩⟩

/-- What is read is in canonical order. -/
theorem canonical_repeatedValues (h : repeatedValues params key allowed = .ok list) :
    allowed.canonical list = list := by
  unfold repeatedValues at h
  dsimp only at h
  split at h
  · cases h
  · cases h
    unfold ValueSet.canonical
    refine List.filter_congr fun a ha => ?_
    rw [decide_eq_decide, List.mem_filter]
    exact ⟨fun h => of_decide_eq_true h.2, fun h => ⟨ha, decide_eq_true h⟩⟩

/-! ## Instants -/

theorem text_ne_nil (s : InstantSpelling) : s.text ≠ [] := by
  unfold InstantSpelling.text
  simp

theorem instantNanoseconds_text (s : InstantSpelling) (label : String) :
    instantNanoseconds s.text label = .ok s.nanoseconds := by
  unfold instantNanoseconds
  rw [parseInstant_text]

/-- The check of an interval compares the exact times. -/
theorem checkInterval_iff (start stop : InstantSpelling) :
    checkInterval (some start.text) (some stop.text) = .ok () ↔ start.time < stop.time := by
  have htruthy : ∀ s : InstantSpelling, truthyText (some s.text) = some s.text := by
    intro s
    cases htext : s.text with
    | nil => exact absurd htext (text_ne_nil s)
    | cons c text => rfl
  unfold checkInterval
  rw [htruthy, htruthy, ← nanoseconds_lt_iff]
  dsimp only [Option.isNone_some]
  rw [if_neg (by decide), instantNanoseconds_text, ExceptFold.ok_bind, instantNanoseconds_text,
    ExceptFold.ok_bind]
  by_cases hle : stop.nanoseconds ≤ start.nanoseconds
  · rw [if_pos hle]
    exact iff_of_false (fun h => nomatch h) (not_lt.mpr hle)
  · rw [if_neg hle]
    exact iff_of_true rfl (not_le.mp hle)

theorem dateValue_text (s : InstantSpelling) (label : String) :
    dateValue (some s.text) label = .ok (some s.text) := by
  unfold dateValue
  dsimp only
  rw [instantNanoseconds_text]
  rfl

/-- The texts a date may have. -/
theorem dateValue_eq_ok {value date : Option Text} {label : String}
    (h : dateValue value label = .ok date) :
    date = value ∧ ∀ text ∈ value, ∃ s : InstantSpelling, s.text = text := by
  unfold dateValue at h
  cases value with
  | none =>
      cases h
      exact ⟨rfl, fun _ h => nomatch h⟩
  | some value =>
      obtain ⟨nanoseconds, hparse, h⟩ := bind_eq_ok.mp h
      cases h
      refine ⟨rfl, fun text htext => ?_⟩
      cases htext
      unfold instantNanoseconds at hparse
      split at hparse
      · cases hparse
      · next hparsed => exact exists_spelling hparsed

/-- The interval of a state that is read. -/
theorem interval_of_check {fromAt toAt : Option Text}
    (hfrom : ∀ text ∈ fromAt, ∃ s : InstantSpelling, s.text = text)
    (hto : ∀ text ∈ toAt, ∃ s : InstantSpelling, s.text = text)
    (h : checkInterval fromAt toAt = .ok ()) : (fromAt = none ∧ toAt = none) ∨
      ∃ start stop : InstantSpelling, fromAt = some start.text ∧ toAt = some stop.text ∧
        start.time < stop.time := by
  cases fromAt with
  | none =>
      cases toAt with
      | none => exact .inl ⟨rfl, rfl⟩
      | some toAt => cases h
  | some fromAt =>
      cases toAt with
      | none => cases h
      | some toAt =>
          obtain ⟨start, rfl⟩ := hfrom fromAt rfl
          obtain ⟨stop, rfl⟩ := hto toAt rfl
          exact .inr ⟨start, stop, rfl, rfl, (checkInterval_iff start stop).mp h⟩

/-! ## Reading -/

theorem forall_of_all {value : Option Text} {p : Text → Bool} (h : value.all p = true) :
    ∀ text ∈ value, p text = true := by
  rintro text rfl
  exact h

variable {state : CaseActivityUrlState}

/-- What the parser returns is valid, with its lists in canonical order. -/
theorem parse_valid (h : parseActivityParams params = .ok state) :
    ValidView state ∧ canonicalizeFilters state.filters = state.filters := by
  unfold parseActivityParams at h
  split at h
  · cases h
  obtain ⟨snapshot, -, h⟩ := bind_eq_ok.mp h
  obtain ⟨_, hsnapshot, h⟩ := bind_eq_ok.mp h
  obtain ⟨selected, -, h⟩ := bind_eq_ok.mp h
  obtain ⟨_, hselected, h⟩ := bind_eq_ok.mp h
  obtain ⟨_, hexplicit, h⟩ := bind_eq_ok.mp h
  obtain ⟨fromValue, -, h⟩ := bind_eq_ok.mp h
  obtain ⟨fromAt, hfrom, h⟩ := bind_eq_ok.mp h
  obtain ⟨toValue, -, h⟩ := bind_eq_ok.mp h
  obtain ⟨toAt, hto, h⟩ := bind_eq_ok.mp h
  obtain ⟨_, hinterval, h⟩ := bind_eq_ok.mp h
  obtain ⟨assetId, -, h⟩ := bind_eq_ok.mp h
  obtain ⟨_, hasset, h⟩ := bind_eq_ok.mp h
  obtain ⟨sortValue, -, h⟩ := bind_eq_ok.mp h
  obtain ⟨sort, -, h⟩ := bind_eq_ok.mp h
  obtain ⟨protocolValue, -, h⟩ := bind_eq_ok.mp h
  obtain ⟨protocolId, -, h⟩ := bind_eq_ok.mp h
  obtain ⟨_, hprotocol, h⟩ := bind_eq_ok.mp h
  obtain ⟨counterpartyValue, -, h⟩ := bind_eq_ok.mp h
  obtain ⟨counterparty, -, h⟩ := bind_eq_ok.mp h
  obtain ⟨_, hcounterparty, h⟩ := bind_eq_ok.mp h
  obtain ⟨kinds, hkinds, h⟩ := bind_eq_ok.mp h
  obtain ⟨directions, hdirections, h⟩ := bind_eq_ok.mp h
  obtain ⟨outcomes, houtcomes, h⟩ := bind_eq_ok.mp h
  obtain ⟨dataOrigins, horigins, h⟩ := bind_eq_ok.mp h
  cases h
  obtain ⟨rfl, hfromTexts⟩ := dateValue_eq_ok hfrom
  obtain ⟨rfl, htoTexts⟩ := dateValue_eq_ok hto
  have hsnapshot := forall_of_all (ExceptFold.check_eq_ok.mp hsnapshot)
  have hselected := forall_of_all (ExceptFold.check_eq_ok.mp hselected)
  constructor
  · exact {
      snapshot := hsnapshot
      selected := fun id hid => ⟨hselected id hid,
        ExceptFold.check_eq_ok.mp hexplicit (Option.isSome_iff_exists.mpr ⟨id, hid⟩)⟩
      interval := interval_of_check hfromTexts htoTexts hinterval
      assetId := forall_of_all (ExceptFold.check_eq_ok.mp hasset)
      protocolId := ExceptFold.check_eq_ok.mp hprotocol
      counterparty := forall_of_all (ExceptFold.check_eq_ok.mp hcounterparty) }
  · unfold canonicalizeFilters
    dsimp only
    rw [canonical_repeatedValues hkinds, canonical_repeatedValues hdirections,
      canonical_repeatedValues houtcomes, canonical_repeatedValues horigins]

/-! ## Printing -/

theorem truthyText_eq {value : Option Text} (h : ∀ text ∈ value, text ≠ []) :
    truthyText value = value := by
  cases value with
  | none => rfl
  | some text =>
      cases text with
      | nil => exact absurd rfl (h [] rfl)
      | cons c text => rfl

theorem all_of_forall {value : Option Text} {p : Text → Bool} (h : ∀ text ∈ value, p text = true) :
    value.all p = true := by
  cases value with
  | none => rfl
  | some text => exact h text rfl

theorem boundedRangeText_eq {value : Option Text} {label : String} {minimum maximum : Nat}
    (h : ∀ text ∈ value, IsVisible text ∧ text ≠ [] ∧ minimum ≤ text.length ∧
      text.length ≤ maximum) : boundedRangeText value label minimum maximum = .ok value := by
  cases value with
  | none => rfl
  | some text =>
      obtain ⟨hvisible, hne, hmin, hmax⟩ := h text rfl
      refine if_neg ?_
      rw [utf16Length_of_visible hvisible, jsTrim_of_visible hvisible]
      simp only [ne_eq, not_true_eq_false, false_or, hne]
      omega

theorem protocol_bounds {id : Text} (h : id ∈ activityProtocolIds) :
    IsVisible id ∧ id ≠ [] ∧ 0 ≤ id.length ∧ id.length ≤ 32 := by
  have hall : activityProtocolIds.all (fun id => id.all (fun c => 33 ≤ c.toNat && c.toNat < 127) &&
      (id.length ≠ 0 && id.length ≤ 32)) = true := by decide
  have hid := List.all_eq_true.mp hall id h
  rw [Bool.and_eq_true, Bool.and_eq_true, decide_eq_true_eq, decide_eq_true_eq,
    List.all_eq_true] at hid
  refine ⟨fun c hc => ?_, fun hnil => hid.2.1 (hnil ▸ rfl), Nat.zero_le _, hid.2.2⟩
  simpa using hid.1 c hc

theorem interval_checked (h : ValidView state) :
    dateValue state.filters.fromAt "Activity start time" = .ok state.filters.fromAt ∧
    dateValue state.filters.toAt "Activity end time" = .ok state.filters.toAt ∧
    checkInterval state.filters.fromAt state.filters.toAt = .ok () := by
  obtain ⟨hfrom, hto⟩ | ⟨start, stop, hfrom, hto, hlt⟩ := h.interval
  · rw [hfrom, hto]
    exact ⟨rfl, rfl, rfl⟩
  · rw [hfrom, hto]
    exact ⟨dateValue_text _ _, dateValue_text _ _, (checkInterval_iff start stop).mpr hlt⟩

theorem sortOf_text (sort : ActivitySort) : sortOf sort.text = .ok sort := by
  cases sort <;> rfl

/-- A valid state is read from its fields. -/
theorem parse_activityParams (h : ValidView state) :
    parseActivityParams (activityParams state) =
      .ok { state with filters := canonicalizeFilters state.filters } := by
  have hget : ∀ {key values}, (key, values) ∈ viewBlocks state →
      SearchParams.getAll (activityParams state) key = values := by
    intro key values hmem
    rw [activityParams_eq]
    exact getAll_blockFields hmem (viewBlocks_names state ▸ nodup_allowedKeys)
  have hone : ∀ {key : Text} {value : Option Text}, (key, (truthyText value).toList) ∈
      viewBlocks state → (∀ text ∈ value, text ≠ []) →
        oneValue (activityParams state) key = .ok value := by
    intro key value hmem hne
    refine oneValue_of_getAll ?_
    rw [hget hmem, truthyText_eq hne]
  have hallowed : (activityParams state).find? (fun field => field.1 ∉ allowedKeys) = none := by
    refine List.find?_eq_none.mpr fun field hfield => ?_
    rw [activityParams_eq] at hfield
    have hname := name_of_mem_blockFields hfield
    rw [viewBlocks_names] at hname
    simp [hname]
  obtain ⟨hfrom, hto, hinterval⟩ := interval_checked h
  have hat : ∀ n (hn : n < 12), (viewBlocks state).get ⟨n, hn⟩ ∈ viewBlocks state :=
    fun n hn => List.get_mem _ _
  have hne : ∀ {p : Text → Bool} {value : Option Text}, p [] = false →
      (∀ text ∈ value, p text = true) → ∀ text ∈ value, text ≠ [] := by
    rintro p value hp hvalue text htext rfl
    exact absurd (hvalue [] htext) (by rw [hp]; decide)
  have hinstant : ∀ text, text ∈ state.filters.fromAt ∨ text ∈ state.filters.toAt →
      text ≠ [] := by
    obtain ⟨hnone, hnone'⟩ | ⟨start, stop, hstart, hstop, -⟩ := h.interval
    · rw [hnone, hnone']
      rintro text (htext | htext) <;> cases htext
    · rw [hstart, hstop]
      rintro text (htext | htext) <;> cases htext
      · exact text_ne_nil start
      · exact text_ne_nil stop
  have hprotocol : ∀ id ∈ state.filters.protocolId, _ := fun id hid =>
    protocol_bounds (h.protocolId id hid)
  have haddress : ∀ address ∈ state.filters.counterparty, IsVisible address ∧ address ≠ [] ∧
      66 ≤ address.length ∧ address.length ≤ 76 := by
    intro address hmem
    obtain ⟨hvisible, hmin, hmax⟩ := rawTonAddress_bounds (h.counterparty address hmem)
    exact ⟨hvisible, fun hnil => by rw [hnil] at hmin; exact absurd hmin (by decide), hmin, hmax⟩
  have hselected : ∀ id ∈ state.selectedActivityId, isActivityId id = true := fun id hid =>
    (h.selected id hid).1
  have hsort : oneValue (activityParams state) "sort".toList = .ok (some state.filters.sort.text) :=
    oneValue_of_getAll (hget (hat 10 (by decide)))
  unfold parseActivityParams
  rw [hallowed]
  exact bind_eq_ok.mpr ⟨_, hone (hat 0 (by decide)) (hne (by decide) h.snapshot),
    bind_eq_ok.mpr ⟨(), ExceptFold.check_eq_ok.mpr (all_of_forall h.snapshot),
    bind_eq_ok.mpr ⟨_, hone (hat 11 (by decide)) (hne (by decide) hselected),
    bind_eq_ok.mpr ⟨(), ExceptFold.check_eq_ok.mpr (all_of_forall hselected),
    bind_eq_ok.mpr ⟨(), ExceptFold.check_eq_ok.mpr fun hsome => by
      obtain ⟨id, hid⟩ := Option.isSome_iff_exists.mp hsome
      exact (h.selected id hid).2,
    bind_eq_ok.mpr ⟨_, hone (hat 4 (by decide)) fun text htext => hinstant text (.inl htext),
    bind_eq_ok.mpr ⟨_, hfrom,
    bind_eq_ok.mpr ⟨_, hone (hat 5 (by decide)) fun text htext => hinstant text (.inr htext),
    bind_eq_ok.mpr ⟨_, hto, bind_eq_ok.mpr ⟨(), hinterval,
    bind_eq_ok.mpr ⟨_, hone (hat 6 (by decide)) (hne (by decide) h.assetId),
    bind_eq_ok.mpr ⟨(), ExceptFold.check_eq_ok.mpr (all_of_forall h.assetId),
    bind_eq_ok.mpr ⟨_, hsort, bind_eq_ok.mpr ⟨_, sortOf_text state.filters.sort,
    bind_eq_ok.mpr ⟨_, hone (hat 7 (by decide)) fun id hid => (hprotocol id hid).2.1,
    bind_eq_ok.mpr ⟨_, boundedRangeText_eq hprotocol,
    bind_eq_ok.mpr ⟨(), ExceptFold.check_eq_ok.mpr h.protocolId,
    bind_eq_ok.mpr ⟨_, hone (hat 8 (by decide)) fun address hmem => (haddress address hmem).2.1,
    bind_eq_ok.mpr ⟨_, boundedRangeText_eq haddress,
    bind_eq_ok.mpr ⟨(), ExceptFold.check_eq_ok.mpr (all_of_forall h.counterparty),
    bind_eq_ok.mpr ⟨_, repeatedValues_print kindValues_distinct (hget (hat 1 (by decide))),
    bind_eq_ok.mpr ⟨_, repeatedValues_print directionValues_distinct (hget (hat 2 (by decide))),
    bind_eq_ok.mpr ⟨_, repeatedValues_print outcomeValues_distinct (hget (hat 3 (by decide))),
    bind_eq_ok.mpr ⟨_, repeatedValues_print originValues_distinct (hget (hat 9 (by decide))),
      rfl⟩⟩⟩⟩⟩⟩⟩⟩⟩⟩⟩⟩⟩⟩⟩⟩⟩⟩⟩⟩⟩⟩⟩⟩

/-! ## Library queries -/

/-- The blocks of a library query, with its text as it is printed. -/
def libraryBlocks (query : CaseLibraryQuery) (text : Option Text) : List FieldBlock :=
  [("state".toList, if query.state ≠ .active then [query.state.text] else []),
    ("q".toList, text.toList),
    ("network".toList, (query.network.map LibraryNetwork.text).toList),
    ("data_environment".toList, (query.dataEnvironment.map LibraryEnvironment.text).toList)]

theorem libraryBlocks_names (query : CaseLibraryQuery) (text : Option Text) :
    (libraryBlocks query text).map (·.1) = caseLibraryParameters := rfl

theorem caseListPath_eq_ok {query : CaseLibraryQuery} {path : Text}
    (h : caseListPath query = .ok path) : ∃ text, canonicalLibraryQuery query.query = .ok text ∧
      path = "/cases".toList ++ searchText (blockFields (libraryBlocks query text)) := by
  obtain ⟨text, htext, h⟩ := bind_eq_ok.mp h
  refine ⟨text, htext, ?_⟩
  cases h
  have hstate : (if query.state ≠ .active then
      SearchParams.set [] "state".toList query.state.text else []) = blockFields
        [("state".toList, if query.state ≠ .active then [query.state.text] else [])] := by
    split <;> rfl
  rw [hstate, setSome_blockFields ?_, setSome_blockFields ?_, setSome_blockFields ?_]
  · rfl
  · exact new_name (caseLibraryParameters.take 3) rfl (by decide)
  · exact new_name (caseLibraryParameters.take 2) rfl (by decide)
  · exact new_name (caseLibraryParameters.take 1) rfl (by decide)

/-- A path without a `?` before its search. -/
theorem splitPath_append {start : Text} (hstart : ∀ c ∈ start, c ≠ '?') (params : SearchParams) :
    splitPath (start ++ searchText params) = (start, searchText params) := by
  have hpos : ∀ c ∈ start, decide (c ≠ '?') = true := fun c hc => decide_eq_true (hstart c hc)
  have hsearch : (searchText params).takeWhile (· ≠ '?') = [] ∧
      (searchText params).dropWhile (· ≠ '?') = searchText params := by
    unfold searchText
    split <;> exact ⟨rfl, rfl⟩
  unfold splitPath
  rw [List.takeWhile_append_of_pos hpos, List.dropWhile_append_of_pos hpos, hsearch.1, hsearch.2,
    List.append_nil]

theorem libraryQuery_canonical {query text : Option Text}
    (h : canonicalLibraryQuery query = .ok text) :
    text = query.map jsTrim ∧ libraryQuery text = some text := by
  unfold canonicalLibraryQuery at h
  cases query with
  | none =>
      cases h
      exact ⟨rfl, rfl⟩
  | some query =>
      dsimp only at h
      split at h
      · cases h
      · next hvalid =>
          cases h
          push Not at hvalid
          refine ⟨rfl, if_neg ?_⟩
          rw [jsTrim_jsTrim]
          simp only [ne_eq, not_true_eq_false, or_false, not_or]
          exact ⟨hvalid.1, by omega⟩

/-- A library query is read from its fields. -/
theorem parseLibrary_blockFields (query : CaseLibraryQuery) {text : Option Text}
    (htext : libraryQuery text = some text) :
    parseLibrary (blockFields (libraryBlocks query text)) = some { query with query := text } := by
  have hget : ∀ {key values}, (key, values) ∈ libraryBlocks query text →
      SearchParams.getAll (blockFields (libraryBlocks query text)) key = values := fun hmem =>
    getAll_blockFields hmem (libraryBlocks_names query text ▸ by decide)
  have hat : ∀ n (hn : n < 4), (libraryBlocks query text).get ⟨n, hn⟩ ∈ libraryBlocks query text :=
    fun n hn => List.get_mem _ _
  have hone : ∀ value : Option Text, ¬ 1 < value.toList.length := by
    intro value
    cases value <;> simp
  have hvalid : ¬ ((∃ field ∈ blockFields (libraryBlocks query text),
      field.1 ∉ caseLibraryParameters) ∨ ∃ key ∈ caseLibraryParameters,
        1 < (SearchParams.getAll (blockFields (libraryBlocks query text)) key).length) := by
    rintro (⟨field, hfield, hname⟩ | ⟨key, hkey, hlength⟩)
    · exact hname (name_of_mem_blockFields hfield)
    · rw [← libraryBlocks_names query text] at hkey
      obtain ⟨⟨key, values⟩, hblock, rfl⟩ := List.mem_map.mp hkey
      rw [hget hblock] at hlength
      unfold libraryBlocks at hblock
      simp only [List.mem_cons, Prod.mk.injEq, List.not_mem_nil, or_false] at hblock
      obtain ⟨-, rfl⟩ | ⟨-, rfl⟩ | ⟨-, rfl⟩ | ⟨-, rfl⟩ := hblock
      · split at hlength <;> simp at hlength
      all_goals exact hone _ hlength
  have hstate : libraryStates.ofText ((SearchParams.getAll (blockFields (libraryBlocks query text))
      "state".toList).head?.getD "active".toList) = some query.state := by
    rw [hget (hat 0 (by decide))]
    cases query.state <;> decide
  have hquery : libraryQuery (SearchParams.getAll (blockFields (libraryBlocks query text))
      "q".toList).head? = some text := by
    rw [hget (hat 1 (by decide)), Option.head?_toList]
    exact htext
  have hnetwork : libraryNetworks.optional (SearchParams.getAll
      (blockFields (libraryBlocks query text)) "network".toList).head? = some query.network := by
    rw [hget (hat 2 (by decide)), Option.head?_toList]
    rcases query.network with _ | network
    · rfl
    · cases network <;> decide
  have henvironment : libraryEnvironments.optional (SearchParams.getAll
      (blockFields (libraryBlocks query text)) "data_environment".toList).head? =
        some query.dataEnvironment := by
    rw [hget (hat 3 (by decide)), Option.head?_toList]
    rcases query.dataEnvironment with _ | environment
    · rfl
    · cases environment <;> decide
  unfold parseLibrary
  rw [if_neg hvalid]
  exact bind_eq_some_iff.mpr ⟨_, hstate, bind_eq_some_iff.mpr ⟨_, hquery,
    bind_eq_some_iff.mpr ⟨_, hnetwork, bind_eq_some_iff.mpr ⟨_, henvironment, rfl⟩⟩⟩⟩

/-- A library query comes back from its path. -/
theorem parse_caseListPath {query : CaseLibraryQuery} {path : Text}
    (h : caseListPath query = .ok path) :
    parseAppRoute replaced (splitPath path).1 (splitPath path).2 =
      .caseList { query with query := query.query.map jsTrim } := by
  obtain ⟨text, htext, rfl⟩ := caseListPath_eq_ok h
  obtain ⟨rfl, hread⟩ := libraryQuery_canonical htext
  have hstart : ∀ c ∈ "/cases".toList, c ≠ '?' := by
    have hall : "/cases".toList.all (· ≠ '?') = true := by decide
    exact fun c hc => of_decide_eq_true (List.all_eq_true.mp hall c hc)
  rw [splitPath_append hstart]
  unfold parseAppRoute
  dsimp only
  rw [if_neg (by decide), if_pos (.inl rfl), (ofText_searchText _).1,
    parseLibrary_blockFields query hread]

/-! ## The whole -/

/-- View states survive their URL. -/
structure ViewStatesSurvive (replaced : List UInt8 → Text) : Prop where
  /-- A valid state comes back, with its lists in canonical order. -/
  state : ∀ state, ValidView state →
    parseCaseActivitySearch replaced (caseActivitySearch state) =
      .ok { state with filters := canonicalizeFilters state.filters }
  /-- What the parser returns is valid, and comes back as it is. -/
  accepted : ∀ search state, parseCaseActivitySearch replaced search = .ok state →
    ValidView state ∧ parseCaseActivitySearch replaced (caseActivitySearch state) = .ok state
  /-- What is printed of an accepted search is printed again. -/
  printed : ∀ search state, parseCaseActivitySearch replaced search = .ok state →
    (parseCaseActivitySearch replaced (caseActivitySearch state)).map caseActivitySearch =
      .ok (caseActivitySearch state)
  /-- The instants that are accepted are the spellings. -/
  instants : ∀ text label,
    dateValue (some text) label = .ok (some text) ↔ ∃ s : InstantSpelling, s.text = text
  /-- An interval is accepted where the exact times increase. -/
  interval : ∀ start stop : InstantSpelling,
    checkInterval (some start.text) (some stop.text) = .ok () ↔ start.time < stop.time
  /-- A library query comes back from its path, trimmed. -/
  library : ∀ query path, caseListPath query = .ok path →
    parseAppRoute replaced (splitPath path).1 (splitPath path).2 =
      .caseList { query with query := query.query.map jsTrim }

theorem parse_search (replaced : List UInt8 → Text) (h : ValidView state) :
    parseCaseActivitySearch replaced (caseActivitySearch state) =
      .ok { state with filters := canonicalizeFilters state.filters } := by
  unfold parseCaseActivitySearch caseActivitySearch
  rw [(ofText_searchText _).2]
  exact parse_activityParams h

theorem parse_accepted {search : Text} (h : parseCaseActivitySearch replaced search = .ok state) :
    ValidView state ∧ parseCaseActivitySearch replaced (caseActivitySearch state) = .ok state := by
  obtain ⟨hvalid, hcanonical⟩ := parse_valid h
  have hparse := parse_search replaced hvalid
  rw [hcanonical] at hparse
  exact ⟨hvalid, hparse⟩

theorem view_states_survive (replaced : List UInt8 → Text) : ViewStatesSurvive replaced where
  state _ h := parse_search replaced h
  accepted _ _ h := parse_accepted h
  printed _ _ h := by
    rw [(parse_accepted h).2]
    rfl
  instants text label := by
    constructor
    · exact fun h => (dateValue_eq_ok h).2 text rfl
    · rintro ⟨s, rfl⟩
      exact dateValue_text s label
  interval := checkInterval_iff
  library _ _ h := parse_caseListPath h

end TonTracker
