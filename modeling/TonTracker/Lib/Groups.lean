/-
# `Lib.Groups` — a dictionary of groups, filled in one pass

`groups.setdefault(key, new)` and a change of the group, for each observation:
the groups are those of the distinct keys in the order they were first met,
each the fold of the observations of its key (`foldlM_upsertM`,
`foldl_upsert`).
-/
import TonTracker.Lib.Reordering
import Mathlib.Data.List.Induction
import Mathlib.Data.List.Perm.Basic

namespace Groups

open ExceptFold (bind_eq_ok)

variable {κ α β γ ε : Type} [DecidableEq κ]

/-- Changes the group of a key; `change none` is the change of a new group. -/
def upsertM (change : Option α → β → Except ε α) :
    List (κ × α) → κ × β → Except ε (List (κ × α))
  | [], (key, b) => do
      let group ← change none b
      return [(key, group)]
  | (k, group) :: rest, (key, b) =>
      if k = key then do
        let group ← change (some group) b
        return (k, group) :: rest
      else do
        let rest ← upsertM change rest (key, b)
        return (k, group) :: rest

/-- The same, where the change does not raise. -/
def upsert (change : Option α → β → α) : List (κ × α) → κ × β → List (κ × α)
  | [], (key, b) => [(key, change none b)]
  | (k, group) :: rest, (key, b) =>
      if k = key then (k, change (some group) b) :: rest
      else (k, group) :: upsert change rest (key, b)

/-- The observations of a key. -/
def valuesOf (observations : List (κ × β)) (key : κ) : List β :=
  observations.filterMap fun o => if o.1 = key then some o.2 else none

/-- The group of some observations. -/
def collectM (change : Option α → β → Except ε α) (values : List β) : Except ε (Option α) :=
  values.foldlM (fun group b => some <$> change group b) none

def collect (change : Option α → β → α) (values : List β) : Option α :=
  values.foldl (fun group b => some (change group b)) none

/-- The distinct keys, in the order they were first met. -/
def keysOf (observations : List (κ × β)) : List κ := (observations.map (·.1)).eraseDups

variable {change : Option α → β → Except ε α} {observations observations' : List (κ × β)}
  {groups groups' : List (κ × α)} {key k : κ} {b : β} {group : α}

theorem valuesOf_concat : valuesOf (observations ++ [(key, b)]) k =
    if key = k then valuesOf observations k ++ [b] else valuesOf observations k := by
  unfold valuesOf
  rw [List.filterMap_append]
  split
  · next h => simp [h]
  · next h => simp [h]

theorem valuesOf_perm (h : observations.Perm observations') (key : κ) :
    (valuesOf observations key).Perm (valuesOf observations' key) := h.filterMap _

theorem mem_valuesOf : b ∈ valuesOf observations key ↔ (key, b) ∈ observations := by
  unfold valuesOf
  rw [List.mem_filterMap]
  constructor
  · rintro ⟨⟨k, b'⟩, hmem, h⟩
    split at h
    · next heq =>
        cases h
        exact heq ▸ hmem
    · cases h
  · exact fun h => ⟨_, h, if_pos rfl⟩

theorem keysOf_concat : keysOf (observations ++ [(key, b)]) =
    if key ∈ observations.map (·.1) then keysOf observations
    else keysOf observations ++ [key] := by
  unfold keysOf
  rw [List.map_append, List.eraseDups_append]
  split
  · next h => simp [List.removeAll, h]
  · next h =>
      rw [List.map_singleton, List.removeAll, List.filter_singleton]
      simp [h, List.eraseDups_cons]

theorem mem_keysOf : key ∈ keysOf observations ↔ key ∈ observations.map (·.1) :=
  List.mem_eraseDups

theorem nodup_keysOf (observations : List (κ × β)) : (keysOf observations).Nodup :=
  Reordering.nodup_eraseDups _

theorem keysOf_perm (h : observations.Perm observations') :
    (keysOf observations).Perm (keysOf observations') :=
  Reordering.eraseDups_perm fun _ => (h.map (·.1)).mem_iff

theorem collectM_concat (change : Option α → β → Except ε α) (values : List β) (b : β) :
    collectM change (values ++ [b]) =
      collectM change values >>= fun group => some <$> change group b := by
  unfold collectM
  rw [List.foldlM_append]
  simp

theorem collect_concat (change : Option α → β → α) (values : List β) (b : β) :
    collect change (values ++ [b]) = some (change (collect change values) b) := by
  unfold collect
  rw [List.foldl_append]
  rfl

/-! ## One observation -/

theorem keys_upsertM (h : upsertM change groups (key, b) = .ok groups') :
    groups'.map (·.1) =
      if key ∈ groups.map (·.1) then groups.map (·.1) else groups.map (·.1) ++ [key] := by
  induction groups generalizing groups' with
  | nil =>
      obtain ⟨group, -, h⟩ := bind_eq_ok.mp h
      cases h
      rfl
  | cons entry rest ih =>
      obtain ⟨k, group⟩ := entry
      unfold upsertM at h
      split at h
      · next heq =>
          obtain ⟨group, -, h⟩ := bind_eq_ok.mp h
          cases h
          simp [heq]
      · next hne =>
          obtain ⟨rest', hrest, h⟩ := bind_eq_ok.mp h
          cases h
          have hne' : key ≠ k := Ne.symm hne
          rw [List.map_cons, ih hrest]
          split <;> simp_all

/-- A group after the change: of another key, or the changed one. -/
theorem mem_upsertM (nodup : (groups.map (·.1)).Nodup)
    (h : upsertM change groups (key, b) = .ok groups') (hmem : (k, group) ∈ groups') :
    (k ≠ key ∧ (k, group) ∈ groups) ∨
      k = key ∧ ((key ∉ groups.map (·.1) ∧ change none b = .ok group) ∨
        ∃ before, (key, before) ∈ groups ∧ change (some before) b = .ok group) := by
  induction groups generalizing groups' with
  | nil =>
      obtain ⟨group', hchange, h⟩ := bind_eq_ok.mp h
      cases h
      cases List.mem_singleton.mp hmem
      exact .inr ⟨rfl, .inl ⟨List.not_mem_nil, hchange⟩⟩
  | cons entry rest ih =>
      obtain ⟨k', before⟩ := entry
      obtain ⟨hk', nodup⟩ := List.nodup_cons.mp nodup
      unfold upsertM at h
      split at h
      · next heq =>
          subst heq
          obtain ⟨changed, hchange, h⟩ := bind_eq_ok.mp h
          cases h
          obtain heq | hrest := List.mem_cons.mp hmem
          · cases heq
            exact .inr ⟨rfl, .inr ⟨before, List.mem_cons_self, hchange⟩⟩
          · refine .inl ⟨?_, List.mem_cons_of_mem _ hrest⟩
            rintro rfl
            exact hk' (List.mem_map.mpr ⟨_, hrest, rfl⟩)
      · next hne =>
          obtain ⟨rest', hrest, h⟩ := bind_eq_ok.mp h
          cases h
          obtain heq | hmem := List.mem_cons.mp hmem
          · cases heq
            exact .inl ⟨hne, List.mem_cons_self⟩
          · obtain ⟨hk, hmem⟩ | ⟨hk, hnew | ⟨before', hbefore, hchange⟩⟩ := ih nodup hrest hmem
            · exact .inl ⟨hk, List.mem_cons_of_mem _ hmem⟩
            · refine .inr ⟨hk, .inl ⟨?_, hnew.2⟩⟩
              rw [List.map_cons, List.mem_cons, not_or]
              exact ⟨Ne.symm hne, hnew.1⟩
            · exact .inr ⟨hk, .inr ⟨before', List.mem_cons_of_mem _ hbefore, hchange⟩⟩

theorem exists_upsertM
    (hnew : key ∉ groups.map (·.1) → ∃ group, change none b = .ok group)
    (hold : ∀ before, (key, before) ∈ groups → ∃ group, change (some before) b = .ok group) :
    ∃ groups', upsertM change groups (key, b) = .ok groups' := by
  induction groups with
  | nil =>
      obtain ⟨group, hgroup⟩ := hnew List.not_mem_nil
      exact ⟨_, bind_eq_ok.mpr ⟨group, hgroup, rfl⟩⟩
  | cons entry rest ih =>
      obtain ⟨k, before⟩ := entry
      unfold upsertM
      split
      · next heq =>
          obtain ⟨group, hgroup⟩ := hold before (heq ▸ List.mem_cons_self)
          exact ⟨_, bind_eq_ok.mpr ⟨group, hgroup, rfl⟩⟩
      · next hne =>
          obtain ⟨rest', hrest⟩ := ih
            (fun hkey => hnew fun h => by
              obtain heq | h := List.mem_cons.mp h
              · exact hne heq.symm
              · exact hkey h)
            fun before hbefore => hold before (List.mem_cons_of_mem _ hbefore)
          exact ⟨_, bind_eq_ok.mpr ⟨rest', hrest, rfl⟩⟩

/-! ## All observations -/

/-- The groups of some observations. -/
structure Describes (change : Option α → β → Except ε α) (observations : List (κ × β))
    (groups : List (κ × α)) : Prop where
  keys : groups.map (·.1) = keysOf observations
  groups : ∀ entry ∈ groups, collectM change (valuesOf observations entry.1) = .ok (some entry.2)

theorem describes_nil : Describes change ([] : List (κ × β)) [] :=
  ⟨rfl, fun _ h => absurd h List.not_mem_nil⟩

theorem valuesOf_eq_nil (h : key ∉ observations.map (·.1)) : valuesOf observations key = [] := by
  refine List.eq_nil_iff_forall_not_mem.mpr fun b hb => h ?_
  exact List.mem_map.mpr ⟨_, mem_valuesOf.mp hb, rfl⟩

theorem Describes.mem_keys (h : Describes change observations groups) :
    key ∈ groups.map (·.1) ↔ key ∈ observations.map (·.1) := by
  rw [h.keys, mem_keysOf]

theorem Describes.nodup (h : Describes change observations groups) :
    (groups.map (·.1)).Nodup := h.keys ▸ nodup_keysOf observations

/-- The group of a key, or that it has none. -/
theorem Describes.collect_eq (h : Describes change observations groups) :
    (key ∉ groups.map (·.1) → collectM change (valuesOf observations key) = .ok none) := by
  intro hkey
  rw [h.mem_keys] at hkey
  rw [valuesOf_eq_nil hkey]
  rfl

theorem describes_upsertM (h : Describes change observations groups)
    (hupsert : upsertM change groups (key, b) = .ok groups') :
    Describes change (observations ++ [(key, b)]) groups' := by
  refine ⟨?_, fun entry hentry => ?_⟩
  · rw [keys_upsertM hupsert, keysOf_concat, ← h.keys]
    simp only [h.mem_keys]
  · obtain ⟨k, group⟩ := entry
    dsimp only
    rw [valuesOf_concat]
    obtain ⟨hk, hmem⟩ | ⟨rfl, hchanged⟩ := mem_upsertM h.nodup hupsert hentry
    · rw [if_neg (Ne.symm hk)]
      exact h.groups _ hmem
    · rw [if_pos rfl, collectM_concat]
      obtain ⟨hnew, hchange⟩ | ⟨before, hbefore, hchange⟩ := hchanged
      · rw [h.collect_eq hnew, ExceptFold.ok_bind, hchange]
        rfl
      · rw [h.groups _ hbefore, ExceptFold.ok_bind, hchange]
        rfl

/-- The loop over all observations. -/
theorem foldlM_upsertM (h : observations.foldlM (upsertM change) [] = .ok groups) :
    Describes change observations groups := by
  refine ExceptFold.foldlM_inv (fun done groups => Describes change done groups) ?_ h describes_nil
  exact fun done entry _ _ hupsert hdone => describes_upsertM hdone hupsert

/-- A loop none of whose groups raises. -/
theorem exists_foldlM_upsertM
    (h : ∀ key, ∃ group, collectM change (valuesOf observations key) = .ok group) :
    ∃ groups, observations.foldlM (upsertM change) [] = .ok groups := by
  induction observations using List.reverseRecOn with
  | nil => exact ⟨[], rfl⟩
  | append_singleton observations entry ih =>
      obtain ⟨key, b⟩ := entry
      have hbefore : ∀ k, ∃ group, collectM change (valuesOf observations k) = .ok group := by
        intro k
        obtain ⟨group, hgroup⟩ := h k
        rw [valuesOf_concat] at hgroup
        split at hgroup
        · rw [collectM_concat] at hgroup
          obtain ⟨before, hbefore, -⟩ := bind_eq_ok.mp hgroup
          exact ⟨before, hbefore⟩
        · exact ⟨group, hgroup⟩
      obtain ⟨groups, hgroups⟩ := ih hbefore
      have hdescribes := foldlM_upsertM hgroups
      obtain ⟨group, hgroup⟩ := h key
      rw [valuesOf_concat, if_pos rfl, collectM_concat] at hgroup
      obtain ⟨before, hcollect, hgroup⟩ := bind_eq_ok.mp hgroup
      obtain ⟨changed, hchange⟩ : ∃ changed, change before b = .ok changed := by
        cases hchange : change before b with
        | ok changed => exact ⟨changed, rfl⟩
        | error raised =>
            rw [hchange] at hgroup
            cases hgroup
      rw [List.foldlM_append, hgroups, ExceptFold.ok_bind, List.foldlM_cons]
      obtain ⟨groups', hupsert⟩ : ∃ groups', upsertM change groups (key, b) = .ok groups' := by
        apply exists_upsertM
        · intro hnew
          rw [hdescribes.collect_eq hnew] at hcollect
          cases hcollect
          exact ⟨changed, hchange⟩
        · intro found hfound
          rw [hdescribes.groups _ hfound] at hcollect
          cases hcollect
          exact ⟨changed, hchange⟩
      exact ⟨groups', by rw [hupsert]; rfl⟩

/-! ## Where nothing raises -/

theorem upsertM_ok (change : Option α → β → α) (groups : List (κ × α)) (entry : κ × β) :
    upsertM (ε := ε) (fun group b => .ok (change group b)) groups entry =
      .ok (upsert change groups entry) := by
  obtain ⟨key, b⟩ := entry
  induction groups with
  | nil => rfl
  | cons head rest ih =>
      obtain ⟨k, group⟩ := head
      unfold upsertM upsert
      split
      · rfl
      · rw [ih]
        rfl

theorem collectM_ok (change : Option α → β → α) (values : List β) :
    collectM (ε := ε) (fun group b => .ok (change group b)) values =
      .ok (collect change values) := by
  induction values using List.reverseRecOn with
  | nil => rfl
  | append_singleton values b ih =>
      rw [collectM_concat, collect_concat, ih]
      rfl

theorem foldlM_upsertM_ok (change : Option α → β → α) (observations : List (κ × β)) :
    observations.foldlM (upsertM (ε := ε) fun group b => .ok (change group b)) [] =
      .ok (observations.foldl (upsert change) []) := by
  refine ExceptFold.foldlM_eq_foldl (upsert change) (fun _ _ => True) ?_ trivial
  exact fun entry _ groups _ => ⟨upsertM_ok change groups entry, trivial⟩

theorem foldl_upsert (change : Option α → β → α) (observations : List (κ × β)) :
    observations.foldl (upsert change) [] = (keysOf observations).filterMap fun key =>
      (collect change (valuesOf observations key)).map fun group => (key, group) := by
  have hloop : observations.foldlM (upsertM (ε := Empty) fun group b => .ok (change group b)) [] =
      .ok (observations.foldl (upsert change) []) := foldlM_upsertM_ok change observations
  have hdescribes := foldlM_upsertM hloop
  rw [← hdescribes.keys, List.filterMap_map]
  refine Eq.symm (Eq.trans (List.filterMap_congr fun entry hentry => ?_) List.filterMap_some)
  have hgroup := hdescribes.groups entry hentry
  rw [collectM_ok] at hgroup
  show Option.map _ (collect change (valuesOf observations entry.1)) = some entry
  rw [Except.ok.inj hgroup]
  rfl

/-- A group is the fold of the observations of its key. -/
theorem mem_foldl_upsert {change : Option α → β → α} :
    (key, group) ∈ observations.foldl (upsert change) [] ↔
      collect change (valuesOf observations key) = some group := by
  rw [foldl_upsert, List.mem_filterMap]
  constructor
  · rintro ⟨k, -, h⟩
    obtain ⟨found, hfound, heq⟩ := Option.map_eq_some_iff.mp h
    cases heq
    exact hfound
  · intro h
    refine ⟨key, ?_, Option.map_eq_some_iff.mpr ⟨group, h, rfl⟩⟩
    rw [mem_keysOf]
    by_contra hkey
    rw [valuesOf_eq_nil hkey] at h
    cases h

theorem nodup_foldl_upsert {change : Option α → β → α} (observations : List (κ × β)) :
    ((observations.foldl (upsert change) []).map (·.1)).Nodup := by
  have hloop : observations.foldlM (upsertM (ε := Empty) fun group b => .ok (change group b)) [] =
      .ok (observations.foldl (upsert change) []) := foldlM_upsertM_ok change observations
  exact (foldlM_upsertM hloop).nodup

/-- What is read off a group of a key is in another order the same, where it
does not depend on the order of the observations of the key. -/
theorem map_groups_perm {change : Option α → β → α} {row : κ × α → γ}
    (h : observations.Perm observations')
    (hrow : ∀ key,
      (collect change (valuesOf observations key)).map (fun group => row (key, group)) =
        (collect change (valuesOf observations' key)).map fun group => row (key, group)) :
    ((observations.foldl (upsert change) []).map row).Perm
      ((observations'.foldl (upsert change) []).map row) := by
  rw [foldl_upsert, foldl_upsert, List.map_filterMap, List.map_filterMap]
  simp only [Option.map_map, Function.comp_def]
  simp only [hrow]
  exact (keysOf_perm h).filterMap _

/-! ## Lists of observations -/

/-- The values of some keys, where the keys are all there are. -/
theorem flatMap_valuesOf_perm {keys : List κ} (nodup : keys.Nodup) {l : List (κ × β)}
    (covers : ∀ o ∈ l, o.1 ∈ keys) : (keys.flatMap (valuesOf l)).Perm (l.map (·.2)) := by
  induction keys generalizing l with
  | nil =>
      cases l with
      | nil => exact .nil
      | cons o l => exact absurd (covers o List.mem_cons_self) List.not_mem_nil
  | cons key keys ih =>
      obtain ⟨hkey, nodup⟩ := List.nodup_cons.mp nodup
      have others := ih nodup (l := l.filter fun o => !decide (o.1 = key)) fun o ho => by
        obtain ⟨hmem, hne⟩ := List.mem_filter.mp ho
        refine (List.mem_cons.mp (covers o hmem)).resolve_left fun heq => ?_
        simp [heq] at hne
      have same : keys.flatMap (valuesOf (l.filter fun o => !decide (o.1 = key))) =
          keys.flatMap (valuesOf l) := by
        refine List.flatMap_congr fun k hk => ?_
        unfold valuesOf
        rw [List.filterMap_filter]
        refine List.filterMap_congr fun o _ => ?_
        by_cases ho : o.1 = k
        · have hne : o.1 ≠ key := fun heq => hkey (heq ▸ ho ▸ hk)
          simp [hne]
        · simp [ho]
      have first : valuesOf l key = (l.filter fun o => decide (o.1 = key)).map (·.2) := by
        unfold valuesOf
        rw [← List.filterMap_eq_map, List.filterMap_filter]
        exact List.filterMap_congr fun o _ => by simp
      rw [List.flatMap_cons, first, ← same]
      refine (others.append_left _).trans ?_
      rw [← List.map_append]
      exact (List.filter_append_perm _ l).map _

/-- Appending to the list of a key keeps its values. -/
theorem collect_append (values : List β) :
    collect (fun group b => group.getD [] ++ [b]) values =
      if values = [] then none else some values := by
  induction values using List.reverseRecOn with
  | nil => rfl
  | append_singleton values b ih =>
      have hne : values ++ [b] ≠ [] := List.append_ne_nil_of_right_ne_nil _ (List.cons_ne_nil _ _)
      rw [collect_concat, ih, if_neg hne]
      by_cases h : values = []
      · rw [if_pos h, h]
        rfl
      · rw [if_neg h]
        rfl

theorem valuesOf_ne_nil {l : List (κ × β)} {key : κ} (h : key ∈ keysOf l) :
    valuesOf l key ≠ [] := by
  obtain ⟨o, ho, rfl⟩ := List.mem_map.mp (mem_keysOf.mp h)
  exact List.ne_nil_of_mem (mem_valuesOf.mpr ho)

/-- The lists of the keys. -/
theorem foldl_append_eq (l : List (κ × β)) :
    l.foldl (upsert fun group b => group.getD [] ++ [b]) [] =
      (keysOf l).map fun key => (key, valuesOf l key) := by
  rw [foldl_upsert, ← List.filterMap_eq_map]
  refine List.filterMap_congr fun key hkey => ?_
  rw [collect_append, if_neg (valuesOf_ne_nil hkey)]
  rfl

/-- Where no two values share a key, a key has one value at most. -/
theorem length_valuesOf_le_one (f : β → Option κ) {l : List β}
    (nodup : (l.filterMap f).Nodup) (key : κ) :
    (valuesOf (l.filterMap fun b => (f b).map fun k => (k, b)) key).length ≤ 1 := by
  induction l with
  | nil => exact Nat.zero_le _
  | cons b l ih =>
      cases hb : f b with
      | none =>
          rw [List.filterMap_cons_none hb] at nodup
          rw [List.filterMap_cons_none (by rw [hb]; rfl)]
          exact ih nodup
      | some k =>
          rw [List.filterMap_cons_some hb, List.nodup_cons] at nodup
          have hvalues : valuesOf (((b :: l).filterMap fun b => (f b).map fun k => (k, b))) key =
              (if k = key then [b] else []) ++
                valuesOf (l.filterMap fun b => (f b).map fun k => (k, b)) key := by
            rw [List.filterMap_cons_some (by rw [hb]; rfl)]
            unfold valuesOf
            rw [List.filterMap_cons]
            by_cases heq : k = key <;> simp [heq]
          rw [hvalues]
          by_cases heq : k = key
          · subst heq
            rw [if_pos rfl, List.length_append, valuesOf_eq_nil fun hmem => nodup.1 ?_]
            · exact Nat.le_refl 1
            · obtain ⟨entry, hentry, rfl⟩ := List.mem_map.mp hmem
              obtain ⟨other, hother, h⟩ := List.mem_filterMap.mp hentry
              obtain ⟨id, hid, rfl⟩ := Option.map_eq_some_iff.mp h
              exact List.mem_filterMap.mpr ⟨other, hother, hid⟩
          · rw [if_neg heq]
            exact ih nodup.2

end Groups
