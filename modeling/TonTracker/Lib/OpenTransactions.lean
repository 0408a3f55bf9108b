/-
# `Lib.OpenTransactions` — transactions of sessions over one table

Each session stages rows in a transaction of its own; a commit stores them
and a rollback forgets them.  A unique index refuses a row that collides
with one the session can see, and a row that collides with one another
session has staged waits, or times out.  Whatever the sessions do, no two
rows collide (`Distinct`), what is stored stays, and a session stages and
forgets nothing but its own rows.  A program that stores only as it ends
stores nothing where it fails (`StoresLast`).
-/
import TonTracker.Lib.SessionExtension
import Mathlib.Data.List.Pairwise

namespace OpenTransactions

open Session (Machine Prog System World Move Reaches)

variable {ρ : Type}

/-- The stored rows, and the staged ones with the session that staged them. -/
structure Db (ρ : Type) where
  stored : List ρ
  staged : List (Nat × ρ)

/-- The rows a session has staged. -/
def Db.own (db : Db ρ) (sid : Nat) : List ρ := (db.staged.filter fun row => row.1 = sid).map (·.2)

/-- What a session sees. -/
def Db.visible (db : Db ρ) (sid : Nat) : List ρ := db.stored ++ db.own sid

inductive Statement (ρ : Type) where
  | insert (row : ρ)
  | commit
  | rollback

/-- How a statement ends: an index refuses its row, or the row waits too long
for another session. -/
inductive Outcome where
  | done
  | refused
  | locked
deriving DecidableEq

/-- A statement of a session. -/
def Db.execute (collides : ρ → ρ → Bool) (sid : Nat) : Statement ρ → Db ρ → Outcome × Db ρ
  | .insert row, db =>
      if (db.visible sid).any (collides row) then (.refused, db)
      else if db.staged.any fun other => collides row other.2 then (.locked, db)
      else (.done, { db with staged := db.staged ++ [(sid, row)] })
  | .commit, db =>
      (.done, ⟨db.stored ++ db.own sid, db.staged.filter fun row => row.1 ≠ sid⟩)
  | .rollback, db => (.done, ⟨db.stored, db.staged.filter fun row => row.1 ≠ sid⟩)

variable {collides : ρ → ρ → Bool} {db : Db ρ} {sid other : Nat} {row : ρ}

/-! ## Rows -/

theorem Db.mem_own : row ∈ db.own sid ↔ (sid, row) ∈ db.staged := by
  unfold Db.own
  rw [List.mem_map]
  constructor
  · rintro ⟨⟨owner, row⟩, h, rfl⟩
    obtain ⟨hmem, howner⟩ := List.mem_filter.mp h
    have howner : owner = sid := of_decide_eq_true howner
    exact howner ▸ hmem
  · exact fun h => ⟨(sid, row), List.mem_filter.mpr ⟨h, decide_eq_true rfl⟩, rfl⟩

theorem Db.mem_visible : row ∈ db.visible sid ↔ row ∈ db.stored ∨ (sid, row) ∈ db.staged := by
  rw [Db.visible, List.mem_append, Db.mem_own]

/-- The rows a session loses, and no other. -/
theorem own_filter (staged : List (Nat × ρ)) (sid other : Nat) :
    ((staged.filter fun row => row.1 ≠ sid).filter fun row => row.1 = other).map (·.2) =
      if other = sid then [] else (staged.filter fun row => row.1 = other).map (·.2) := by
  rw [List.filter_filter]
  split
  · next h =>
      rw [List.map_eq_nil_iff, List.filter_eq_nil_iff]
      intro row _
      simp [h]
  · next h =>
      congr 1
      refine List.filter_congr fun row _ => ?_
      by_cases heq : row.1 = other <;> simp [heq, h]

/-- What an insert does. -/
theorem execute_insert (collides : ρ → ρ → Bool) (sid : Nat) (row : ρ) (db : Db ρ) :
    (∃ outcome, outcome ≠ .done ∧ db.execute collides sid (.insert row) = (outcome, db)) ∨
      (∀ seen ∈ db.stored, collides row seen = false) ∧
      (∀ seen ∈ db.staged, collides row seen.2 = false) ∧
      db.execute collides sid (.insert row) =
        (.done, { db with staged := db.staged ++ [(sid, row)] }) := by
  by_cases hvisible : (db.visible sid).any (collides row) = true
  · exact .inl ⟨.refused, nofun, if_pos hvisible⟩
  · by_cases hstaged : (db.staged.any fun other => collides row other.2) = true
    · exact .inl ⟨.locked, nofun, (if_neg hvisible).trans (if_pos hstaged)⟩
    · refine .inr ⟨fun seen h => ?_, fun seen h => ?_, (if_neg hvisible).trans (if_neg hstaged)⟩
      · rw [Bool.not_eq_true, List.any_eq_false] at hvisible
        exact Bool.eq_false_iff.mpr (hvisible seen (Db.mem_visible.mpr (.inl h)))
      · rw [Bool.not_eq_true, List.any_eq_false] at hstaged
        exact Bool.eq_false_iff.mpr (hstaged seen h)

theorem own_commit (db : Db ρ) (sid other : Nat) :
    (db.execute collides sid .commit).2.own other = if other = sid then [] else db.own other :=
  own_filter db.staged sid other

theorem own_rollback (db : Db ρ) (sid other : Nat) :
    (db.execute collides sid .rollback).2.own other = if other = sid then [] else db.own other :=
  own_filter db.staged sid other

/-- A session keeps its rows whatever the others do. -/
theorem own_execute_other (statement : Statement ρ) (h : sid ≠ other) :
    (db.execute collides sid statement).2.own other = db.own other := by
  cases statement with
  | insert row =>
      obtain ⟨outcome, -, heq⟩ | ⟨-, -, heq⟩ := execute_insert collides sid row db
      · rw [heq]
      · rw [heq]
        unfold Db.own
        rw [List.filter_append, List.filter_cons_of_neg (by simpa using h), List.filter_nil,
          List.append_nil]
  | commit => rw [own_commit, if_neg h.symm]
  | rollback => rw [own_rollback, if_neg h.symm]

/-- What is stored stays, and only a commit stores. -/
theorem stored_execute (statement : Statement ρ) :
    (db.execute collides sid statement).2.stored = db.stored ∨
      statement = .commit ∧
        (db.execute collides sid statement).2.stored = db.stored ++ db.own sid := by
  cases statement with
  | insert row =>
      obtain ⟨outcome, -, heq⟩ | ⟨-, -, heq⟩ := execute_insert collides sid row db <;>
        exact .inl (by rw [heq])
  | commit => exact .inr ⟨rfl, rfl⟩
  | rollback => exact .inl rfl

/-! ## Rows that do not collide -/

/-- No two rows collide. -/
def Distinct (collides : ρ → ρ → Bool) (db : Db ρ) : Prop :=
  (db.stored ++ db.staged.map (·.2)).Pairwise fun a b => collides a b = false

theorem Distinct.perm {other : Db ρ} (symmetric : ∀ a b : ρ, collides a b = collides b a)
    (h : Distinct collides db)
    (hperm : (db.stored ++ db.staged.map (·.2)).Perm (other.stored ++ other.staged.map (·.2))) :
    Distinct collides other :=
  (hperm.pairwise_iff fun hab => (symmetric _ _).trans hab).mp h

theorem Distinct.execute (symmetric : ∀ a b : ρ, collides a b = collides b a)
    (statement : Statement ρ) (h : Distinct collides db) :
    Distinct collides (db.execute collides sid statement).2 := by
  cases statement with
  | insert row =>
      obtain ⟨outcome, -, heq⟩ | ⟨hstored, hstaged, heq⟩ := execute_insert collides sid row db
      · rw [heq]
        exact h
      · rw [heq]
        unfold Distinct
        rw [List.map_append, List.map_singleton, ← List.append_assoc]
        refine List.pairwise_append.mpr ⟨h, List.pairwise_singleton _ _, ?_⟩
        intro a ha b hb
        obtain rfl := List.mem_singleton.mp hb
        rw [symmetric]
        obtain ha | ha := List.mem_append.mp ha
        · exact hstored a ha
        · obtain ⟨seen, hseen, rfl⟩ := List.mem_map.mp ha
          exact hstaged seen hseen
  | commit =>
      refine h.perm symmetric ?_
      show (db.stored ++ db.staged.map (·.2)).Perm (db.stored ++ db.own sid ++ _)
      rw [List.append_assoc]
      have hsplit : db.staged.Perm ((db.staged.filter fun row => row.1 = sid) ++
          db.staged.filter fun row => row.1 ≠ sid) := by
        simpa using (List.filter_append_perm (fun row : Nat × ρ => decide (row.1 = sid))
          db.staged).symm
      refine List.Perm.append_left _ ?_
      unfold Db.own
      rw [← List.map_append]
      exact hsplit.map _
  | rollback =>
      refine h.sublist (List.Sublist.append_left (List.Sublist.map _ ?_) _)
      exact List.filter_sublist

/-- Two rows that collide are in one place. -/
theorem Distinct.ne_of_mem (h : Distinct collides db) {a b : ρ} (ha : a ∈ db.stored)
    (hb : (sid, b) ∈ db.staged) : collides a b = false :=
  (List.pairwise_append.mp h).2.2 a ha b (List.mem_map_of_mem hb)

theorem Distinct.ne_of_staged (symmetric : ∀ a b : ρ, collides a b = collides b a)
    (h : Distinct collides db) {a b : ρ} (hne : sid ≠ other) (ha : (sid, a) ∈ db.staged)
    (hb : (other, b) ∈ db.staged) : collides a b = false := by
  have hstaged := List.pairwise_map.mp (List.pairwise_append.mp h).2.1
  have : Std.Symm fun x y : Nat × ρ => collides x.2 y.2 = false :=
    ⟨fun x y hxy => (symmetric _ _).trans hxy⟩
  exact hstaged.forall ha hb fun heq => hne (congrArg (·.1) heq)

/-! ## Programs that store last -/

section StoresLast

variable {M : Machine} {α β ε : Type} {stores : M.Write → Prop} {Q : α → Prop}

/-- After a write that stores the program returns one of `Q`. -/
def StoresLast (stores : M.Write → Prop) (Q : α → Prop) : Prog M α → Prop
  | .done _ => True
  | .ask _ next => ∀ answer, StoresLast stores Q (next answer)
  | .read next => ∀ s, StoresLast stores Q (next s)
  | .write w next => ∀ result, StoresLast stores Q (next result) ∧
      (stores w → ∃ value, next result = .done value ∧ Q value)

/-- What follows a program that stores last goes on from what it returns. -/
theorem storesLast_bind {P : β → Prop} {p : Prog M β} {f : β → Prog M α}
    (hp : StoresLast stores P p) (hf : ∀ value, StoresLast stores Q (f value))
    (hlast : ∀ value, P value → ∃ value', f value = .done value' ∧ Q value') :
    StoresLast stores Q (p >>= f) := by
  induction p with
  | done value => exact hf value
  | ask query next ih => exact fun answer => ih answer (hp answer)
  | read next ih => exact fun s => ih s (hp s)
  | write w next ih =>
      refine fun result => ⟨ih result (hp result).1, fun hw => ?_⟩
      obtain ⟨value, hnext, hvalue⟩ := (hp result).2 hw
      obtain ⟨value', hdone, hQ⟩ := hlast value hvalue
      refine ⟨value', ?_, hQ⟩
      show (next result).bind f = _
      rw [hnext]
      exact hdone

/-- The same after a program that does not store, and may raise. -/
theorem storesLast_bindExcept {Q : Except ε α → Prop} {p : ExceptT ε (Prog M) β}
    {f : β → ExceptT ε (Prog M) α} (hp : StoresLast stores (fun _ => False) p.run)
    (hf : ∀ value, StoresLast stores Q (f value).run) : StoresLast stores Q (p >>= f).run := by
  refine storesLast_bind hp (fun result => ?_) fun _ h => h.elim
  cases result with
  | ok value => exact hf value
  | error error => trivial

theorem storesLast_tryCatch {Q : Except ε α → Prop} {p : ExceptT ε (Prog M) α}
    {f : ε → ExceptT ε (Prog M) α} (hp : StoresLast stores Q p.run)
    (hf : ∀ error, StoresLast stores Q (f error).run) (hQ : ∀ error, ¬ Q (.error error)) :
    StoresLast stores Q (tryCatch p f).run := by
  refine storesLast_bind hp (fun result => ?_) fun result hresult => ?_
  · cases result with
    | ok value => exact trivial
    | error error => exact hf error
  · cases result with
    | ok value => exact ⟨.ok value, rfl, hresult⟩
    | error error => exact (hQ error hresult).elim

/-- A step of such a program stores nothing, or it was the last. -/
theorem storesLast_advance {p : Prog M α} (hp : StoresLast stores Q p)
    (answers : (q : M.Query) → M.Answer q) (s : M.State) :
    StoresLast stores Q (p.advance answers s).1 ∧
      ∀ w, p.pending = some w → stores w → ∃ value,
        (p.advance answers s).1 = .done value ∧ Q value := by
  cases p with
  | done value => exact ⟨trivial, fun _ h => nomatch h⟩
  | ask query next => exact ⟨hp _, fun _ h => nomatch h⟩
  | read next => exact ⟨hp s, fun _ h => nomatch h⟩
  | write w next =>
      refine ⟨(hp _).1, fun w' hw hstores => ?_⟩
      cases hw
      exact (hp _).2 hstores

/-- What every program starts with and each of its steps keeps, every session
of a run has. -/
theorem sessions_reached {S : System M} {I : Nat → Prog M S.Reply → Prop}
    (programs : ∀ sid entry, I sid (S.program sid entry))
    (advance : ∀ sid p answers s, I sid p → I sid (Prog.advance answers s p).1)
    {world world' : World S}
    (start : ∀ (sid : Nat) (p : Prog M S.Reply), world.sessions[sid]? = some p → I sid p)
    (reached : Reaches world world') :
    ∀ (sid : Nat) (p : Prog M S.Reply), world'.sessions[sid]? = some p → I sid p := by
  induction reached with
  | refl => exact start
  | step run move _ ih =>
      intro sid p hp
      obtain ⟨hold, -⟩ | ⟨entry, -, rfl⟩ | ⟨answers, q, -, hq, rfl⟩ := World.sessions_step hp
      · exact ih sid p hold
      · exact programs sid entry
      · exact advance sid q answers _ (ih sid q hq)

theorem returns_advance {p : Prog M α} (h : p.Returns Q) (answers : (q : M.Query) → M.Answer q)
    (s : M.State) : (p.advance answers s).1.Returns Q := by
  cases p with
  | done value => exact h
  | ask query next => exact h _
  | read next => exact h s
  | write w next => exact h _

end StoresLast

/-- A session that has replied has replied for good. -/
theorem done_step {M : Machine} {S : System M} {world : World S} (move : Move S) {sid : Nat}
    {value : S.Reply} (h : world.sessions[sid]? = some (.done value)) :
    (world.step move).sessions[sid]? = some (.done value) := by
  obtain ⟨hlt, -⟩ := List.getElem?_eq_some_iff.mp h
  cases move with
  | launch entry => exact (List.getElem?_append_left hlt).trans h
  | run runner answers =>
      cases hq : world.sessions[runner]? with
      | none =>
          have same : world.step (.run runner answers) = world := by simp only [World.step, hq]
          rw [same]
          exact h
      | some q =>
          rw [World.step_run hq]
          by_cases hsid : runner = sid
          · subst hsid
            cases hq.symm.trans h
            exact List.getElem?_set_self hlt
          · rw [List.getElem?_set_ne hsid]
            exact h

theorem done_reaches {M : Machine} {S : System M} {world world' : World S}
    (reached : Reaches world world') {sid : Nat} {value : S.Reply}
    (h : world.sessions[sid]? = some (.done value)) :
    world'.sessions[sid]? = some (.done value) := by
  induction reached with
  | refl => exact h
  | step run move _ ih => exact done_step move ih

end OpenTransactions
