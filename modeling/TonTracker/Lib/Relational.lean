/-
# `Lib.Relational` — tables with integer primary keys

A table holds its rows in ascending order of their keys, and an insert
takes the first key past the last one.  Every operation is described by
what it does to a lookup (`get?_insert`, `get?_update`, `get?_delete`),
and that description is all that invariants over rows need.
-/
import Mathlib.Data.List.Pairwise
import Mathlib.Data.List.Sort
import Mathlib.Order.Nat

namespace Relational

/-- The rows of a table, by ascending key. -/
structure Table (α : Type) where
  rows : List (Nat × α)
  ascending : rows.Pairwise fun a b => a.1 < b.1

variable {α : Type}

namespace Table

def empty : Table α := ⟨[], List.Pairwise.nil⟩

/-- The row of a key. -/
def get? (t : Table α) (id : Nat) : Option α := (t.rows.find? fun row => row.1 == id).map (·.2)

/-- The key of the next insert. -/
def nextId (t : Table α) : Nat :=
  match t.rows.getLast? with
  | some row => row.1 + 1
  | none => 1

theorem lt_nextId_of_mem (t : Table α) {row : Nat × α} (h : row ∈ t.rows) : row.1 < t.nextId := by
  unfold nextId
  obtain ⟨rows, ascending⟩ := t
  rcases List.eq_nil_or_concat rows with rfl | ⟨front, last, rfl⟩
  · cases h
  · simp only [List.concat_eq_append] at h ascending ⊢
    rw [List.getLast?_concat]
    rcases List.mem_append.mp h with h | h
    · exact Nat.lt_succ_of_lt
        ((List.pairwise_append.mp ascending).2.2 row h last List.mem_cons_self)
    · rw [List.mem_singleton.mp h]
      exact Nat.lt_succ_self _

/-- `INSERT`. -/
def insert (t : Table α) (value : α) : Table α where
  rows := t.rows ++ [(t.nextId, value)]
  ascending := by
    refine List.pairwise_append.mpr ⟨t.ascending, List.pairwise_singleton _ _, ?_⟩
    intro row h last hlast
    rw [List.mem_singleton.mp hlast]
    exact t.lt_nextId_of_mem h

/-- `UPDATE`: a row the statement selects gets a new value. -/
def update (t : Table α) (f : Nat → α → Option α) : Table α where
  rows := t.rows.map fun row => (row.1, (f row.1 row.2).getD row.2)
  ascending := List.pairwise_map.mpr t.ascending

/-- `DELETE … WHERE p`. -/
def delete (t : Table α) (p : Nat → α → Bool) : Table α where
  rows := t.rows.filter fun row => !p row.1 row.2
  ascending := t.ascending.filter _

/-- `SELECT … WHERE p ORDER BY id`. -/
def select (t : Table α) (p : Nat → α → Bool) : List (Nat × α) :=
  t.rows.filter fun row => p row.1 row.2

/-- `rowcount` of an update or a delete. -/
def rowcount (t : Table α) (p : Nat → α → Bool) : Nat := (t.select p).length

/-- The row a lookup by a unique column returns. -/
def find? (t : Table α) (p : Nat → α → Bool) : Option (Nat × α) :=
  t.rows.find? fun row => p row.1 row.2

/-- `SELECT … WHERE p ORDER BY id DESC LIMIT 1`. -/
def latest? (t : Table α) (p : Nat → α → Bool) : Option (Nat × α) := (t.select p).getLast?

/-! ## Lookups -/

theorem eq_of_mem (t : Table α) {a b : Nat × α} (ha : a ∈ t.rows) (hb : b ∈ t.rows)
    (h : a.1 = b.1) : a = b := by
  have distinct : t.rows.Pairwise fun a b => a.1 ≠ b.1 := t.ascending.imp fun h => Nat.ne_of_lt h
  have : Std.Symm fun a b : Nat × α => a.1 ≠ b.1 := ⟨fun _ _ ne => ne.symm⟩
  by_contra ne
  exact distinct.forall ha hb ne h

theorem mem_rows_iff (t : Table α) {id : Nat} {value : α} :
    (id, value) ∈ t.rows ↔ t.get? id = some value := by
  unfold get?
  constructor
  · intro h
    cases found : t.rows.find? fun row => row.1 == id with
    | none => simpa using List.find?_eq_none.mp found _ h
    | some row =>
        have same := t.eq_of_mem (List.mem_of_find?_eq_some found) h
          (by simpa using List.find?_some found)
        rw [same]
        rfl
  · intro h
    obtain ⟨row, found, rfl⟩ := Option.map_eq_some_iff.mp h
    have key : row.1 = id := by simpa using List.find?_some found
    rw [← key]
    exact List.mem_of_find?_eq_some found

theorem get?_eq_none_iff (t : Table α) {id : Nat} :
    t.get? id = none ↔ ∀ value, (id, value) ∉ t.rows := by
  rw [Option.eq_none_iff_forall_ne_some]
  simp only [mem_rows_iff, ne_eq]

@[simp] theorem get?_empty (id : Nat) : (empty : Table α).get? id = none := rfl

theorem lt_nextId (t : Table α) {id : Nat} {value : α} (h : t.get? id = some value) :
    id < t.nextId :=
  t.lt_nextId_of_mem (t.mem_rows_iff.mpr h)

@[simp] theorem get?_nextId (t : Table α) : t.get? t.nextId = none := by
  rw [get?_eq_none_iff]
  intro value h
  exact Nat.lt_irrefl _ (t.lt_nextId_of_mem h)

theorem get?_insert (t : Table α) (value : α) (id : Nat) :
    (t.insert value).get? id = if id = t.nextId then some value else t.get? id := by
  split
  case isTrue h =>
    subst h
    exact (mem_rows_iff _).mp (List.mem_append_right _ List.mem_cons_self)
  case isFalse h =>
    ext other
    rw [← mem_rows_iff, ← mem_rows_iff]
    constructor
    · intro hmem
      rcases List.mem_append.mp hmem with hmem | hmem
      · exact hmem
      · exact absurd (congrArg Prod.fst (List.mem_singleton.mp hmem)) h
    · exact List.mem_append_left _

theorem nextId_insert (t : Table α) (value : α) : (t.insert value).nextId = t.nextId + 1 := by
  unfold nextId insert
  rw [List.getLast?_concat]
  rfl

/-- Several rows are inserted under consecutive keys. -/
theorem get?_insertAll (t : Table α) (values : List α) (id : Nat) :
    (values.foldl insert t).get? id =
      if id < t.nextId then t.get? id else values[id - t.nextId]? := by
  induction values generalizing t with
  | nil =>
      split
      · rfl
      case isFalse h =>
        cases hid : t.get? id with
        | none => exact hid
        | some value => exact absurd (t.lt_nextId hid) h
  | cons value values ih =>
      rw [List.foldl_cons, ih, nextId_insert, get?_insert]
      rcases Nat.lt_trichotomy id t.nextId with hid | hid | hid
      · rw [if_pos (Nat.lt_succ_of_lt hid), if_neg (Nat.ne_of_lt hid), if_pos hid]
      · rw [if_pos (hid ▸ Nat.lt_succ_self _), if_pos hid, if_neg (hid ▸ Nat.lt_irrefl _), hid,
          Nat.sub_self]
        rfl
      · obtain ⟨more, rfl⟩ := Nat.exists_eq_add_of_lt hid
        rw [if_neg (by omega), if_neg (by omega),
          show t.nextId + more + 1 - t.nextId = more + 1 by omega,
          show t.nextId + more + 1 - (t.nextId + 1) = more by omega, List.getElem?_cons_succ]

theorem get?_update (t : Table α) (f : Nat → α → Option α) (id : Nat) :
    (t.update f).get? id = (t.get? id).map fun value => (f id value).getD value := by
  ext other
  rw [← mem_rows_iff, Option.map_eq_some_iff]
  unfold update
  rw [List.mem_map]
  constructor
  · rintro ⟨row, hrow, heq⟩
    cases heq
    exact ⟨row.2, t.mem_rows_iff.mp hrow, rfl⟩
  · rintro ⟨value, hvalue, rfl⟩
    exact ⟨(id, value), t.mem_rows_iff.mpr hvalue, rfl⟩

/-- An update keeps the keys. -/
@[simp] theorem nextId_update (t : Table α) (f : Nat → α → Option α) :
    (t.update f).nextId = t.nextId := by
  unfold nextId update
  rw [List.getLast?_map]
  cases t.rows.getLast? <;> rfl

theorem get?_delete (t : Table α) (p : Nat → α → Bool) (id : Nat) :
    (t.delete p).get? id = (t.get? id).filter fun value => !p id value := by
  ext other
  rw [← mem_rows_iff, Option.filter_eq_some_iff]
  unfold delete
  rw [List.mem_filter, mem_rows_iff]

/-- An update that selects no row changes nothing. -/
theorem update_eq_self (t : Table α) {f : Nat → α → Option α}
    (h : ∀ id value, t.get? id = some value → f id value = none) : t.update f = t := by
  obtain ⟨rows, ascending⟩ := t
  have same : rows.map (fun row => (row.1, (f row.1 row.2).getD row.2)) = rows := by
    refine (List.map_congr_left fun row hrow => ?_).trans (List.map_id rows)
    rw [h row.1 row.2 ((mem_rows_iff ⟨rows, ascending⟩).mp hrow)]
    rfl
  unfold update
  congr

/-! ## Queries -/

theorem mem_select (t : Table α) {p : Nat → α → Bool} {row : Nat × α} :
    row ∈ t.select p ↔ t.get? row.1 = some row.2 ∧ p row.1 row.2 = true := by
  unfold select
  rw [List.mem_filter, ← mem_rows_iff]

/-- A query of two tables that agree on the rows it selects. -/
theorem select_congr {t t' : Table α} {p q : Nat → α → Bool}
    (h : ∀ id value, t.get? id = some value ∧ p id value = true ↔
      t'.get? id = some value ∧ q id value = true) : t.select p = t'.select q := by
  have : Std.Irrefl fun a b : Nat × α => a.1 < b.1 := ⟨fun a => Nat.lt_irrefl a.1⟩
  have : Std.Antisymm fun a b : Nat × α => a.1 < b.1 := ⟨fun a b h h' => (Nat.lt_asymm h h').elim⟩
  refine List.Pairwise.eq_of_mem_iff (t.ascending.filter _) (t'.ascending.filter _) fun row => ?_
  exact t.mem_select.trans ((h row.1 row.2).trans t'.mem_select.symm)

theorem find?_eq_some (t : Table α) {p : Nat → α → Bool} {row : Nat × α}
    (h : t.find? p = some row) : t.get? row.1 = some row.2 ∧ p row.1 row.2 = true := by
  unfold find? at h
  exact ⟨t.mem_rows_iff.mp (List.mem_of_find?_eq_some h), by simpa using List.find?_some h⟩

theorem find?_eq_head (t : Table α) (p : Nat → α → Bool) : t.find? p = (t.select p).head? :=
  List.head?_filter.symm

/-- A lookup in two tables that agree on the rows it matches. -/
theorem find?_congr {t t' : Table α} {p : Nat → α → Bool}
    (h : ∀ id value, p id value = true → (t.get? id = some value ↔ t'.get? id = some value)) :
    t.find? p = t'.find? p := by
  rw [find?_eq_head, find?_eq_head]
  exact congrArg List.head? (select_congr fun id value => and_congr_left (h id value))

theorem find?_eq_none (t : Table α) {p : Nat → α → Bool} :
    t.find? p = none ↔ ∀ id value, t.get? id = some value → p id value = false := by
  unfold find?
  rw [List.find?_eq_none]
  constructor
  · intro h id value hvalue
    simpa using h (id, value) (t.mem_rows_iff.mpr hvalue)
  · intro h row hrow
    simpa using h row.1 row.2 (t.mem_rows_iff.mp hrow)

theorem select_insert (t : Table α) (value : α) (p : Nat → α → Bool) :
    (t.insert value).select p =
      t.select p ++ if p t.nextId value then [(t.nextId, value)] else [] := by
  unfold select insert
  rw [List.filter_append]
  congr 1
  cases h : p t.nextId value <;> simp [h]

theorem select_ascending (t : Table α) (p : Nat → α → Bool) :
    (t.select p).Pairwise fun a b => a.1 < b.1 := t.ascending.filter _

theorem select_descending (t : Table α) (p : Nat → α → Bool) :
    (t.select p).reverse.Pairwise fun a b => b.1 < a.1 :=
  List.pairwise_reverse.mpr (t.select_ascending p)

theorem latest?_eq_head (t : Table α) (p : Nat → α → Bool) :
    t.latest? p = (t.select p).reverse.head? := by
  unfold latest?
  exact List.head?_reverse.symm

/-- The newest row is one of the selected, and none of them is newer. -/
theorem latest?_eq_some (t : Table α) {p : Nat → α → Bool} {row : Nat × α}
    (h : t.latest? p = some row) : (t.get? row.1 = some row.2 ∧ p row.1 row.2 = true) ∧
      ∀ id value, t.get? id = some value → p id value = true → id ≤ row.1 := by
  unfold latest? at h
  obtain ⟨part, hpart⟩ := List.getLast?_eq_some_iff.mp h
  have ascending := t.select_ascending p
  rw [hpart, List.pairwise_append] at ascending
  refine ⟨t.mem_select.mp (hpart ▸ List.mem_append_right _ List.mem_cons_self), ?_⟩
  intro id value hvalue hp
  have member : (id, value) ∈ part ++ [row] := hpart ▸ t.mem_select.mpr ⟨hvalue, hp⟩
  rcases List.mem_append.mp member with hmem | hmem
  · exact Nat.le_of_lt (ascending.2.2 _ hmem row List.mem_cons_self)
  · exact Nat.le_of_eq (congrArg (·.1) (List.mem_singleton.mp hmem))

theorem latest?_eq_none (t : Table α) {p : Nat → α → Bool} :
    t.latest? p = none ↔ ∀ id value, t.get? id = some value → p id value = false := by
  unfold latest?
  rw [List.getLast?_eq_none_iff, List.eq_nil_iff_forall_not_mem]
  constructor
  · intro h id value hvalue
    by_contra hp
    exact h (id, value) (t.mem_select.mpr ⟨hvalue, Bool.not_eq_false _ ▸ hp⟩)
  · intro h row hrow
    obtain ⟨hvalue, hp⟩ := t.mem_select.mp hrow
    rw [h row.1 row.2 hvalue] at hp
    cases hp

/-- The newest row after an insert. -/
theorem latest?_insert (t : Table α) (value : α) (p : Nat → α → Bool) :
    (t.insert value).latest? p =
      if p t.nextId value then some (t.nextId, value) else t.latest? p := by
  unfold latest?
  rw [select_insert]
  split
  · exact List.getLast?_concat
  · rw [List.append_nil]

/-- A delete of other rows. -/
theorem latest?_delete (t : Table α) {p q : Nat → α → Bool}
    (h : ∀ id value, t.get? id = some value → p id value = true → q id value = false) :
    (t.delete q).latest? p = t.latest? p := by
  unfold latest? select delete
  rw [List.filter_filter]
  congr 1
  refine List.filter_congr fun row hrow => ?_
  cases hp : p row.1 row.2 with
  | false => rfl
  | true => rw [h row.1 row.2 (t.mem_rows_iff.mp hrow) hp]; rfl

/-- A lookup by a column that no two rows share. -/
theorem find?_eq_some_iff (t : Table α) {p : Nat → α → Bool}
    (unique : ∀ a b va vb, t.get? a = some va → t.get? b = some vb → p a va = true →
      p b vb = true → a = b) {id : Nat} {value : α} :
    t.find? p = some (id, value) ↔ t.get? id = some value ∧ p id value = true := by
  constructor
  · exact t.find?_eq_some
  · rintro ⟨hvalue, hp⟩
    cases found : t.find? p with
    | none =>
        have := t.find?_eq_none.mp found id value hvalue
        rw [hp] at this
        cases this
    | some row =>
        obtain ⟨hrow, hprow⟩ := t.find?_eq_some found
        have key := unique row.1 id row.2 value hrow hvalue hprow hp
        obtain ⟨rid, rvalue⟩ := row
        cases key
        rw [hrow] at hvalue
        cases hvalue
        rfl

/-- `rowcount == 1` of an update pinned to one key: that row matched. -/
theorem rowcount_pinned (t : Table α) (id : Nat) (p : α → Bool) :
    t.rowcount (fun key value => key == id && p value) =
      if (t.get? id).any p then 1 else 0 := by
  have pinned : ∀ row ∈ t.rows, (row.1 == id && p row.2) = true →
      t.get? id = some row.2 ∧ p row.2 = true := by
    intro row hrow hp
    rw [Bool.and_eq_true, beq_iff_eq] at hp
    rw [← hp.1]
    exact ⟨t.mem_rows_iff.mp hrow, hp.2⟩
  unfold rowcount select
  cases hid : t.get? id with
  | none =>
      rw [Option.any_none, if_neg (by simp), List.length_eq_zero_iff, List.filter_eq_nil_iff]
      intro row hrow hp
      have := (pinned row hrow hp).1
      rw [hid] at this
      cases this
  | some value =>
      rw [Option.any_some]
      have hmem := t.mem_rows_iff.mpr hid
      split
      case isTrue hp =>
        have only : (t.rows.filter fun row => row.1 == id && p row.2) = [(id, value)] := by
          have nodup : (t.rows.filter fun row => row.1 == id && p row.2).Pairwise
              fun a b => a.1 < b.1 := t.ascending.filter _
          have all : ∀ row ∈ t.rows.filter (fun row => row.1 == id && p row.2),
              row = (id, value) := by
            intro row hrow
            obtain ⟨hrow, hp'⟩ := List.mem_filter.mp hrow
            rw [Bool.and_eq_true, beq_iff_eq] at hp'
            exact t.eq_of_mem hrow hmem hp'.1
          have present : (id, value) ∈ t.rows.filter fun row => row.1 == id && p row.2 :=
            List.mem_filter.mpr ⟨hmem, by simp [hp]⟩
          cases filtered : t.rows.filter fun row => row.1 == id && p row.2 with
          | nil => rw [filtered] at present; cases present
          | cons a rest =>
              rw [filtered] at nodup all
              rw [all a List.mem_cons_self] at nodup ⊢
              cases rest with
              | nil => rfl
              | cons b rest =>
                  have hb := all b (List.mem_cons_of_mem _ List.mem_cons_self)
                  have lt := (List.pairwise_cons.mp nodup).1 b List.mem_cons_self
                  rw [hb] at lt
                  exact absurd lt (Nat.lt_irrefl _)
        rw [only]
        rfl
      case isFalse hp =>
        rw [List.length_eq_zero_iff, List.filter_eq_nil_iff]
        intro row hrow hp'
        obtain ⟨hrow', hp''⟩ := pinned row hrow hp'
        rw [hid] at hrow'
        cases hrow'
        exact hp hp''

end Table

end Relational
