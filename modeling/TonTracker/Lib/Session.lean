/-
# `Lib.Session` — programs that share one store

A program asks its environment questions, reads the store, and commits
writes; between two of its steps any other session may commit.  A run is a
list of moves, so it can be evaluated, and what a session is entitled to
rely on is a relation between stores.  `wp` is the weakest precondition of
a program under interference: `wp_bind` and `wp_of_stable` are the rules a
proof about a program uses, `Protocol.sound` is what it gets for every
interleaving of every session.
-/
import Mathlib.Logic.Relation
import Mathlib.Data.List.Basic

namespace Session

/-- What programs run against. -/
structure Machine where
  State : Type
  Query : Type
  Answer : Query → Type
  Write : Type
  Result : Write → Type
  commit : (w : Write) → State → Result w × State

/-- A program; its reads and writes are atomic, what is between them is
not. -/
inductive Prog (M : Machine) (α : Type) : Type where
  | done (value : α)
  | ask (query : M.Query) (next : M.Answer query → Prog M α)
  | read (next : M.State → Prog M α)
  | write (w : M.Write) (next : M.Result w → Prog M α)

variable {M : Machine} {α β ε : Type}

namespace Prog

def bind : Prog M α → (α → Prog M β) → Prog M β
  | .done value, f => f value
  | .ask query next, f => .ask query fun answer => (next answer).bind f
  | .read next, f => .read fun s => (next s).bind f
  | .write w next, f => .write w fun result => (next result).bind f

instance : Monad (Prog M) where
  pure := .done
  bind := bind

/-- The write a program is about to commit. -/
def pending : Prog M α → Option M.Write
  | .write w _ => some w
  | _ => none

/-- One step of a program. -/
def advance (answers : (q : M.Query) → M.Answer q) (s : M.State) :
    Prog M α → Prog M α × M.State
  | .done value => (.done value, s)
  | .ask query next => (next (answers query), s)
  | .read next => (next s, s)
  | .write w next => (next (M.commit w s).1, (M.commit w s).2)

/-- Every write of the program, whatever it is answered, is one of `P`, as
long as what it reads is a store of `inv`. -/
def All (inv : M.State → Prop) (P : M.Write → Prop) : Prog M α → Prop
  | .done _ => True
  | .ask _ next => ∀ answer, (next answer).All inv P
  | .read next => ∀ s, inv s → (next s).All inv P
  | .write w next => P w ∧ ∀ result, (next result).All inv P

variable {inv : M.State → Prop} {P Q : M.Write → Prop}

theorem all_bind {p : Prog M α} {f : α → Prog M β} (hp : p.All inv P)
    (hf : ∀ value, (f value).All inv P) : (p >>= f).All inv P := by
  induction p with
  | done value => exact hf value
  | ask query next ih => exact fun answer => ih answer (hp answer)
  | read next ih => exact fun s hs => ih s (hp s hs)
  | write w next ih => exact ⟨hp.1, fun result => ih result (hp.2 result)⟩

theorem all_mono (h : ∀ w, P w → Q w) {p : Prog M α} (hp : p.All inv P) : p.All inv Q := by
  induction p with
  | done value => trivial
  | ask query next ih => exact fun answer => ih answer (hp answer)
  | read next ih => exact fun s hs => ih s (hp s hs)
  | write w next ih => exact ⟨h w hp.1, fun result => ih result (hp.2 result)⟩

/-- The same for programs that may raise. -/
theorem all_bindExcept {p : ExceptT ε (Prog M) α} {f : α → ExceptT ε (Prog M) β}
    (hp : p.run.All inv P) (hf : ∀ value, (f value).run.All inv P) :
    (p >>= f).run.All inv P := by
  refine all_bind hp fun value => ?_
  cases value with
  | ok value => exact hf value
  | error error => trivial

theorem all_tryCatch {p : ExceptT ε (Prog M) α} {f : ε → ExceptT ε (Prog M) α}
    (hp : p.run.All inv P) (hf : ∀ error, (f error).run.All inv P) :
    (tryCatch p f).run.All inv P := by
  refine all_bind hp fun value => ?_
  cases value with
  | ok value => trivial
  | error error => exact hf error

/-- Whatever the program is answered and reads, its result is one of `Q`. -/
def Returns (Q : α → Prop) : Prog M α → Prop
  | .done value => Q value
  | .ask _ next => ∀ answer, (next answer).Returns Q
  | .read next => ∀ s, (next s).Returns Q
  | .write _ next => ∀ result, (next result).Returns Q

theorem returns_bind {p : Prog M α} {f : α → Prog M β} {Q : β → Prop}
    (hf : ∀ value, (f value).Returns Q) : (p >>= f).Returns Q := by
  induction p with
  | done value => exact hf value
  | ask query next ih => exact fun answer => ih answer
  | read next ih => exact fun s => ih s
  | write w next ih => exact fun result => ih result

/-- The same for programs that may raise. -/
theorem returns_bindExcept {p : ExceptT ε (Prog M) α} {f : α → ExceptT ε (Prog M) β}
    {Q : β → Prop} (hf : ∀ value, (f value).run.Returns fun result => ∀ b, result = .ok b → Q b) :
    (p >>= f).run.Returns fun result => ∀ b, result = .ok b → Q b := by
  refine returns_bind fun value => ?_
  cases value with
  | ok value => exact hf value
  | error error => exact fun b h => nomatch h

/-! ## Programs that commit last -/

section CommitsLast

variable {Q : α → Prop} {P : (w : M.Write) → (M.Result w → α) → Prop}

/-- Questions and reads, and at most one write, whose result decides what
the program returns; without a write it returns one of `Q`. -/
def CommitsLast (Q : α → Prop) (P : (w : M.Write) → (M.Result w → α) → Prop) : Prog M α → Prop
  | .done value => Q value
  | .ask _ next => ∀ answer, (next answer).CommitsLast Q P
  | .read next => ∀ s, (next s).CommitsLast Q P
  | .write w next => ∃ reply, P w reply ∧ ∀ result, next result = .done (reply result)

/-- What precedes the write. -/
theorem commitsLast_bind {p : Prog M β} {f : β → Prog M α}
    (hp : p.All (fun _ => True) fun _ => False) (hf : ∀ value, (f value).CommitsLast Q P) :
    (p >>= f).CommitsLast Q P := by
  induction p with
  | done value => exact hf value
  | ask query next ih => exact fun answer => ih answer (hp answer)
  | read next ih => exact fun s => ih s (hp s trivial)
  | write w next ih => exact hp.1.elim

/-- The same for programs that may raise. -/
theorem commitsLast_bindExcept {Q : Except ε α → Prop}
    {P : (w : M.Write) → (M.Result w → Except ε α) → Prop} {p : ExceptT ε (Prog M) β}
    {f : β → ExceptT ε (Prog M) α} (hp : p.run.All (fun _ => True) fun _ => False)
    (hraise : ∀ error, Q (.error error)) (hf : ∀ value, (f value).run.CommitsLast Q P) :
    (p >>= f).run.CommitsLast Q P := by
  refine commitsLast_bind hp fun value => ?_
  cases value with
  | ok value => exact hf value
  | error error => exact hraise error

theorem commitsLast_map {g : β → α} {p : Prog M β}
    (hp : p.CommitsLast (fun value => Q (g value)) fun w reply =>
      P w fun result => g (reply result)) : (g <$> p).CommitsLast Q P := by
  induction p with
  | done value => exact hp
  | ask query next ih => exact fun answer => ih answer (hp answer)
  | read next ih => exact fun s => ih s (hp s)
  | write w next ih =>
      obtain ⟨reply, hw, hreply⟩ := hp
      refine ⟨fun result => g (reply result), hw, fun result => ?_⟩
      show g <$> next result = _
      rw [hreply]
      rfl

/-- A step either changes nothing and leaves such a program, or it is the
write, and the program returns. -/
theorem commitsLast_advance {p : Prog M α} (hp : p.CommitsLast Q P)
    (answers : (q : M.Query) → M.Answer q) (s : M.State) :
    ((p.advance answers s).2 = s ∧ (p.advance answers s).1.CommitsLast Q P) ∨
      ∃ w reply, P w reply ∧
        p.advance answers s = (.done (reply (M.commit w s).1), (M.commit w s).2) := by
  cases p with
  | done value => exact .inl ⟨rfl, hp⟩
  | ask query next => exact .inl ⟨rfl, hp _⟩
  | read next => exact .inl ⟨rfl, hp s⟩
  | write w next =>
      obtain ⟨reply, hw, hreply⟩ := hp
      refine .inr ⟨w, reply, hw, ?_⟩
      show (next _, _) = _
      rw [hreply]

end CommitsLast

end Prog

/-! ## Weakest preconditions under interference -/

section Wp

variable {rely : M.State → M.State → Prop} {allowed guarantee : M.Write → M.State → Prop}

/-- Before each read and each write of the program the store moves by
`rely`; every write it commits satisfies `guarantee`, as long as the run
has only writes that are `allowed`. -/
def wp (rely : M.State → M.State → Prop) (allowed guarantee : M.Write → M.State → Prop) :
    Prog M α → (α → M.State → Prop) → M.State → Prop
  | .done value, post, s => post value s
  | .ask _ next, post, s => ∀ answer, wp rely allowed guarantee (next answer) post s
  | .read next, post, s => ∀ s', rely s s' → wp rely allowed guarantee (next s') post s'
  | .write w next, post, s => ∀ s', rely s s' → guarantee w s' ∧
      (allowed w s' → wp rely allowed guarantee (next (M.commit w s').1) post (M.commit w s').2)

theorem wp_mono {post post' : α → M.State → Prop} (h : ∀ value s, post value s → post' value s)
    {p : Prog M α} : ∀ {s : M.State}, wp rely allowed guarantee p post s →
      wp rely allowed guarantee p post' s := by
  induction p with
  | done value => intro s hp; exact h value s hp
  | ask query next ih => intro s hp answer; exact ih answer (hp answer)
  | read next ih => intro s hp s' hs'; exact ih s' (hp s' hs')
  | write w next ih =>
      intro s hp s' hs'
      obtain ⟨hw, hnext⟩ := hp s' hs'
      exact ⟨hw, fun hallowed => ih _ (hnext hallowed)⟩

theorem wp_bind {f : α → Prog M β} {post : β → M.State → Prop} {p : Prog M α} :
    ∀ {s : M.State},
      wp rely allowed guarantee p (fun value => wp rely allowed guarantee (f value) post) s →
        wp rely allowed guarantee (p >>= f) post s := by
  induction p with
  | done value => intro s hp; exact hp
  | ask query next ih => intro s hp answer; exact ih answer (hp answer)
  | read next ih => intro s hp s' hs'; exact ih s' (hp s' hs')
  | write w next ih =>
      intro s hp s' hs'
      obtain ⟨hw, hnext⟩ := hp s' hs'
      exact ⟨hw, fun hallowed => ih _ (hnext hallowed)⟩

/-- What a program returns anyway it returns under interference. -/
theorem wp_returns {Q : α → Prop} {post : α → M.State → Prop} {p : Prog M α}
    (hQ : p.Returns Q) : ∀ {s : M.State}, wp rely allowed guarantee p post s →
      wp rely allowed guarantee p (fun value s' => post value s' ∧ Q value) s := by
  induction p with
  | done value => intro s hp; exact ⟨hp, hQ⟩
  | ask query next ih => intro s hp answer; exact ih answer (hQ answer) (hp answer)
  | read next ih => intro s hp s' hs'; exact ih s' (hQ s') (hp s' hs')
  | write w next ih =>
      intro s hp s' hs'
      obtain ⟨hw, hnext⟩ := hp s' hs'
      exact ⟨hw, fun hallowed => ih _ (hQ _) (hnext hallowed)⟩

/-- An assertion that survives interference, and every write of the
program, survives the program. -/
theorem wp_of_stable {inv A : M.State → Prop} (hinv : ∀ s s', rely s s' → inv s')
    (stable : ∀ s s', rely s s' → A s → A s') {p : Prog M α}
    (hp : p.All inv fun w => ∀ s, A s →
      guarantee w s ∧ (allowed w s → A (M.commit w s).2)) :
    ∀ {s : M.State}, A s → wp rely allowed guarantee p (fun _ => A) s := by
  induction p with
  | done value => intro s hA; exact hA
  | ask query next ih => intro s hA answer; exact ih answer (hp answer) hA
  | read next ih =>
      intro s hA s' hs'
      exact ih s' (hp s' (hinv s s' hs')) (stable s s' hs' hA)
  | write w next ih =>
      intro s hA s' hs'
      obtain ⟨hw, hA'⟩ := hp.1 s' (stable s s' hs' hA)
      exact ⟨hw, fun hallowed => ih _ (hp.2 _) (hA' hallowed)⟩

/-- A step of a program whose precondition held at a store from which the
present one is reached by interference. -/
theorem wp_advance {p : Prog M α} {post : α → M.State → Prop} {s₀ s : M.State} (hs : rely s₀ s)
    (refl : rely s s)
    (refl_commit : ∀ w, allowed w s → guarantee w s → rely (M.commit w s).2 (M.commit w s).2)
    (hp : wp rely allowed guarantee p post s₀) (answers : (q : M.Query) → M.Answer q) :
    (∀ w, p.pending = some w → guarantee w s) ∧
      ((∀ w, p.pending = some w → allowed w s) →
        ∃ s₁, rely s₁ (p.advance answers s).2 ∧
          wp rely allowed guarantee (p.advance answers s).1 post s₁) := by
  cases p with
  | done value => exact ⟨fun w h => (nomatch h), fun _ => ⟨s₀, hs, hp⟩⟩
  | ask query next => exact ⟨fun w h => (nomatch h), fun _ => ⟨s₀, hs, hp _⟩⟩
  | read next => exact ⟨fun w h => (nomatch h), fun _ => ⟨s, refl, hp s hs⟩⟩
  | write w next =>
      obtain ⟨hw, hnext⟩ := hp s hs
      refine ⟨fun w' h => ?_, fun hallowed => ?_⟩
      · cases h
        exact hw
      · have ok := hallowed w rfl
        exact ⟨(M.commit w s).2, refl_commit w ok hw, hnext ok⟩

end Wp

/-! ## Runs -/

/-- Sessions, numbered in the order they start, of which each runs the
program of its entry point. -/
structure System (M : Machine) where
  Entry : Type
  Reply : Type
  program : Nat → Entry → Prog M Reply

variable {S : System M}

structure World (S : System M) where
  state : M.State
  sessions : List (Prog M S.Reply)

inductive Move (S : System M) where
  | launch (entry : S.Entry)
  | run (sid : Nat) (answers : (q : M.Query) → M.Answer q)

namespace World

def step (world : World S) : Move S → World S
  | .launch entry =>
      { world with sessions := world.sessions ++ [S.program world.sessions.length entry] }
  | .run sid answers =>
      match world.sessions[sid]? with
      | none => world
      | some p =>
          { state := (p.advance answers world.state).2
            sessions := world.sessions.set sid (p.advance answers world.state).1 }

/-- The session and the write of a move that commits. -/
def commits (world : World S) : Move S → Option (Nat × M.Write)
  | .launch _ => none
  | .run sid _ => (world.sessions[sid]?.bind Prog.pending).map fun w => (sid, w)

theorem step_run {world : World S} {sid : Nat} {p : Prog M S.Reply}
    (hp : world.sessions[sid]? = some p) (answers : (q : M.Query) → M.Answer q) :
    world.step (.run sid answers) =
      ⟨(p.advance answers world.state).2,
        world.sessions.set sid (p.advance answers world.state).1⟩ := by
  simp only [step, hp]

theorem commits_run {world : World S} {sid : Nat} {p : Prog M S.Reply}
    (hp : world.sessions[sid]? = some p) (answers : (q : M.Query) → M.Answer q) :
    world.commits (.run sid answers) = p.pending.map fun w => (sid, w) := by
  simp only [commits, hp, Option.bind_some]

/-- A session after a move: as before, just launched, or the one that
moved. -/
theorem sessions_step {world : World S} {move : Move S} {sid : Nat} {p : Prog M S.Reply}
    (hp : (world.step move).sessions[sid]? = some p) :
    (world.sessions[sid]? = some p ∧ ∀ answers, move ≠ .run sid answers) ∨
      (∃ entry, move = .launch entry ∧ p = S.program sid entry) ∨
      ∃ answers q, move = .run sid answers ∧ world.sessions[sid]? = some q ∧
        p = (q.advance answers world.state).1 := by
  cases move with
  | launch entry =>
      have hp : (world.sessions ++ [S.program world.sessions.length entry])[sid]? = some p := hp
      rcases Nat.lt_trichotomy sid world.sessions.length with hlt | heq | hgt
      · rw [List.getElem?_append_left hlt] at hp
        exact .inl ⟨hp, fun _ h => nomatch h⟩
      · subst heq
        cases List.getElem?_concat_length.symm.trans hp
        exact .inr (.inl ⟨entry, rfl, rfl⟩)
      · refine absurd ((List.getElem?_eq_some_iff.mp hp).1) (Nat.not_lt.mpr ?_)
        exact List.length_append ▸ hgt
  | run runner answers =>
      cases hrunner : world.sessions[runner]? with
      | none =>
          have same : world.step (.run runner answers) = world := by
            simp only [step, hrunner]
          rw [same] at hp
          refine .inl ⟨hp, ?_⟩
          rintro answers' h
          cases h
          rw [hrunner] at hp
          cases hp
      | some q =>
          rw [step_run hrunner] at hp
          by_cases hsid : runner = sid
          · subst hsid
            rw [List.getElem?_set_self (List.getElem?_eq_some_iff.mp hrunner).1] at hp
            cases hp
            exact .inr (.inr ⟨answers, q, rfl, hrunner, rfl⟩)
          · rw [List.getElem?_set_ne hsid] at hp
            refine .inl ⟨hp, ?_⟩
            rintro answers' h
            cases h
            exact hsid rfl

/-- A move changes the store only by the write it commits. -/
theorem state_step (world : World S) (move : Move S) :
    (world.step move).state =
      match world.commits move with
      | some (_, w) => (M.commit w world.state).2
      | none => world.state := by
  cases move with
  | launch entry => rfl
  | run sid answers =>
      cases hp : world.sessions[sid]? with
      | none => simp only [step, commits, hp, Option.bind_none, Option.map_none]
      | some p =>
          rw [step_run hp, commits_run hp]
          cases p <;> rfl

end World

/-- `P sid w s`: session `sid` may commit `w` on the store `s`. -/
inductive Run (P : Nat → M.Write → M.State → Prop) : World S → World S → Prop where
  | refl (world : World S) : Run P world world
  | step {world world' : World S} (run : Run P world world') (move : Move S)
      (allowed : ∀ sid w, world'.commits move = some (sid, w) → P sid w world'.state) :
      Run P world (world'.step move)

/-- Any run. -/
def Reaches : World S → World S → Prop := Run fun _ _ _ => True

variable {P Q : Nat → M.Write → M.State → Prop}

theorem Run.mono (h : ∀ sid w s, P sid w s → Q sid w s) {a b : World S} (run : Run P a b) :
    Run Q a b := by
  induction run with
  | refl => exact .refl _
  | step run move allowed ih =>
      exact ih.step move fun sid w hcommit => h sid w _ (allowed sid w hcommit)

theorem Run.trans {a b c : World S} (first : Run P a b) (second : Run P b c) : Run P a c := by
  induction second with
  | refl => exact first
  | step run move allowed ih => exact ih.step move allowed

/-- What every allowed write keeps, every run keeps. -/
theorem Run.inv (I : M.State → Prop)
    (keep : ∀ sid w s, P sid w s → I s → I (M.commit w s).2) {a b : World S}
    (run : Run P a b) (ha : I a.state) : I b.state := by
  induction run with
  | refl => exact ha
  | step run move allowed ih =>
      rw [World.state_step]
      split
      next sid w hcommit => exact keep sid w _ (allowed sid w hcommit) ih
      next => exact ih

/-- Whether every write a list of moves commits passes a test. -/
def World.commitsAll (test : Nat → M.Write → M.State → Bool) (world : World S) :
    List (Move S) → Bool
  | [] => true
  | move :: moves =>
      (world.commits move).all (fun commit => test commit.1 commit.2 world.state) &&
        (world.step move).commitsAll test moves

/-- A list of moves whose writes pass the test is a run. -/
theorem run_foldl (test : Nat → M.Write → M.State → Bool)
    (hP : ∀ sid w s, test sid w s = true → P sid w s) (moves : List (Move S)) (world : World S)
    (h : world.commitsAll test moves = true) : Run P world (moves.foldl World.step world) := by
  induction moves generalizing world with
  | nil => exact .refl _
  | cons move moves ih =>
      rw [World.commitsAll, Bool.and_eq_true] at h
      refine Run.trans (Run.step (.refl world) move fun sid w hcommit => ?_) (ih _ h.2)
      have pass := h.1
      rw [hcommit] at pass
      exact hP sid w _ pass

/-- A list of moves is a run. -/
theorem reaches_foldl (moves : List (Move S)) (world : World S) :
    Reaches world (moves.foldl World.step world) := by
  induction moves generalizing world with
  | nil => exact .refl _
  | cons move moves ih =>
      exact Run.trans (Run.step (.refl world) move fun _ _ _ => trivial) (ih (world.step move))

/-! ## Rely and guarantee -/

/-- What the sessions owe each other, in runs that have only writes that
are `allowed`. -/
structure Protocol (M : Machine) where
  inv : M.State → Prop
  allowed : Nat → M.Write → M.State → Prop
  may : Nat → M.Write → M.State → Prop
  preserved : ∀ sid w s, inv s → allowed sid w s → may sid w s → inv (M.commit w s).2

namespace Protocol

variable (R : Protocol M)

/-- One write of another session. -/
def Interferes (sid : Nat) (s s' : M.State) : Prop :=
  ∃ other w, other ≠ sid ∧ R.inv s ∧ R.allowed other w s ∧ R.may other w s ∧
    s' = (M.commit w s).2

/-- What other sessions may have done since. -/
def rely (sid : Nat) (s s' : M.State) : Prop :=
  R.inv s' ∧ Relation.ReflTransGen (R.Interferes sid) s s'

/-- The precondition of a program of session `sid`. -/
def pre {α : Type} (sid : Nat) (p : Prog M α) (post : α → M.State → Prop) : M.State → Prop :=
  wp (R.rely sid) (R.allowed sid) (R.may sid) p post

/-- No write of another session makes the assertion false. -/
def Stable (sid : Nat) (A : M.State → Prop) : Prop :=
  ∀ s other w, other ≠ sid → R.inv s → R.allowed other w s → R.may other w s → A s →
    A (M.commit w s).2

variable {R}

theorem Stable.rely {sid : Nat} {A : M.State → Prop} (h : R.Stable sid A) {s s' : M.State}
    (hs : R.rely sid s s') (hA : A s) : A s' := by
  obtain ⟨-, hs⟩ := hs
  induction hs with
  | refl => exact hA
  | tail hs hstep ih =>
      obtain ⟨other, w, hother, hinv, hallowed, hmay, rfl⟩ := hstep
      exact h _ other w hother hinv hallowed hmay ih

theorem rely_refl {sid : Nat} {s : M.State} (h : R.inv s) : R.rely sid s s := ⟨h, .refl⟩

theorem rely_tail {sid other : Nat} {s s' : M.State} {w : M.Write} (hs : R.rely sid s s')
    (hother : other ≠ sid) (hallowed : R.allowed other w s') (hmay : R.may other w s') :
    R.rely sid s (M.commit w s').2 :=
  ⟨R.preserved other w s' hs.1 hallowed hmay,
    hs.2.tail ⟨other, w, hother, hs.1, hallowed, hmay, rfl⟩⟩

/-- From a store where `A` holds the program keeps to the protocol, and
`B` holds of its result and the store it leaves. -/
def Triple {α : Type} (R : Protocol M) (sid : Nat) (A : M.State → Prop) (p : Prog M α)
    (B : α → M.State → Prop) : Prop :=
  ∀ s, R.inv s → A s → R.pre sid p (fun value s' => R.inv s' ∧ B value s') s

section Triple

variable {sid : Nat} {ε α β : Type} {A B C : M.State → Prop}

theorem triple_done {value : α} {B : α → M.State → Prop} (h : ∀ s, A s → B value s) :
    R.Triple sid A (.done value) B := fun s hs hA => ⟨hs, h s hA⟩

theorem triple_mono {A A' : M.State → Prop} {B B' : α → M.State → Prop} {p : Prog M α}
    (hA : ∀ s, A' s → A s) (hB : ∀ value s, B value s → B' value s)
    (h : R.Triple sid A p B) : R.Triple sid A' p B' := fun s hs hA' =>
  wp_mono (fun value s' hs' => ⟨hs'.1, hB value s' hs'.2⟩) (h s hs (hA s hA'))

theorem triple_bind {p : Prog M α} {f : α → Prog M β} {C : α → M.State → Prop}
    {B : β → M.State → Prop} (hp : R.Triple sid A p C)
    (hf : ∀ value, R.Triple sid (C value) (f value) B) : R.Triple sid A (p >>= f) B := by
  intro s hs hA
  exact wp_bind (wp_mono (fun value s' hs' => hf value s' hs'.1 hs'.2) (hp s hs hA))

/-- The same for programs that may raise. -/
theorem triple_bindExcept {p : ExceptT ε (Prog M) α} {f : α → ExceptT ε (Prog M) β}
    {C : α → M.State → Prop} {B : Except ε β → M.State → Prop}
    (hp : R.Triple sid A p.run fun result s => match result with
      | .ok value => C value s
      | .error error => B (.error error) s)
    (hf : ∀ value, R.Triple sid (C value) (f value).run B) :
    R.Triple sid A (p >>= f).run B := by
  refine triple_bind hp fun result => ?_
  cases result with
  | ok value => exact hf value
  | error error => exact triple_done fun s h => h

/-- A step that keeps an assertion whatever it returns. -/
theorem triple_step {p : ExceptT ε (Prog M) α} {f : α → ExceptT ε (Prog M) β}
    (hp : R.Triple sid A p.run fun _ => C) (hraise : ∀ s, C s → B s)
    (hf : ∀ value, R.Triple sid C (f value).run fun _ => B) :
    R.Triple sid A (p >>= f).run fun _ => B :=
  triple_bindExcept (triple_mono (fun _ h => h) (fun result s h => match result with
    | .ok _ => h
    | .error _ => hraise s h) hp) hf

theorem triple_tryCatch {p : ExceptT ε (Prog M) α} {f : ε → ExceptT ε (Prog M) α}
    {C : ε → M.State → Prop} {B : Except ε α → M.State → Prop}
    (hp : R.Triple sid A p.run fun result s => match result with
      | .ok value => B (.ok value) s
      | .error error => C error s)
    (hf : ∀ error, R.Triple sid (C error) (f error).run B) :
    R.Triple sid A (tryCatch p f).run B := by
  refine triple_bind hp fun result => ?_
  cases result with
  | ok value => exact triple_done fun s h => h
  | error error => exact hf error

/-- A program whose writes are allowed, and keep `A`, wherever `A` holds. -/
theorem triple_of_all (stable : R.Stable sid A) {p : Prog M α}
    (hp : p.All R.inv fun w => ∀ s, R.inv s → A s →
      R.may sid w s ∧ (R.allowed sid w s → A (M.commit w s).2)) :
    R.Triple sid A p fun _ => A := by
  intro s hs hA
  have both : ∀ s s', R.rely sid s s' → R.inv s ∧ A s → R.inv s' ∧ A s' :=
    fun s s' hs' h => ⟨hs'.1, stable.rely hs' h.2⟩
  refine wp_of_stable (fun _ _ h => h.1) both (Prog.all_mono ?_ hp) ⟨hs, hA⟩
  intro w hw s h
  obtain ⟨hmay, hafter⟩ := hw s h.1 h.2
  exact ⟨hmay, fun ok => ⟨R.preserved sid w s h.1 ok hmay, hafter ok⟩⟩

theorem triple_returns {p : Prog M α} {B : α → M.State → Prop} {Q : α → Prop}
    (hp : R.Triple sid A p B) (hQ : p.Returns Q) :
    R.Triple sid A p fun value s => B value s ∧ Q value := fun s hs hA =>
  wp_mono (fun _ _ h => ⟨h.1.1, h.1.2, h.2⟩) (wp_returns hQ (hp s hs hA))

/-- A transaction. -/
theorem triple_write (stable : R.Stable sid A) {w : M.Write}
    {B : M.Result w → M.State → Prop}
    (h : ∀ s, R.inv s → A s → R.may sid w s ∧
      (R.allowed sid w s → B (M.commit w s).1 (M.commit w s).2)) :
    R.Triple sid A (.write w .done) B := by
  intro s hs hA s' hs'
  obtain ⟨hmay, hB⟩ := h s' hs'.1 (stable.rely hs' hA)
  exact ⟨hmay, fun ok => ⟨R.preserved sid w s' hs'.1 ok hmay, hB ok⟩⟩

/-- A read. -/
theorem triple_read (stable : R.Stable sid A) {p : M.State → Prog M α}
    {B : α → M.State → Prop} (h : ∀ s, R.inv s → A s → R.Triple sid (fun s' => s' = s) (p s) B) :
    R.Triple sid A (.read p) B := by
  intro s hs hA s' hs'
  exact h s' hs'.1 (stable.rely hs' hA) s' hs'.1 rfl

theorem stable_true : R.Stable sid fun _ => True := fun _ _ _ _ _ _ _ _ => trivial

/-- The program keeps to the protocol from any store of the invariant. -/
def Safe {α : Type} (R : Protocol M) (sid : Nat) (p : Prog M α) : Prop :=
  R.Triple sid (fun _ => True) p fun _ _ => True

theorem safe_of_all {p : Prog M α} (hp : p.All R.inv fun w => ∀ s, R.inv s → R.may sid w s) :
    R.Safe sid p :=
  triple_of_all stable_true (Prog.all_mono (fun _ hw s hs _ => ⟨hw s hs, fun _ => trivial⟩) hp)

theorem safe_bindExcept {p : ExceptT ε (Prog M) α} {f : α → ExceptT ε (Prog M) β}
    (hp : R.Safe sid p.run) (hf : ∀ value, R.Safe sid (f value).run) :
    R.Safe sid (p >>= f).run :=
  triple_step hp (fun _ h => h) hf

theorem safe_tryCatch {p : ExceptT ε (Prog M) α} {f : ε → ExceptT ε (Prog M) α}
    (hp : R.Safe sid p.run) (hf : ∀ error, R.Safe sid (f error).run) :
    R.Safe sid (tryCatch p f).run :=
  triple_tryCatch (triple_mono (fun _ h => h) (fun result _ h => match result with
    | .ok _ => h
    | .error _ => h) hp) hf

end Triple

/-- The sessions keep to the protocol from here on; `fresh sid` is known of
a session that has not started. -/
structure Covers (R : Protocol M) (fresh : Nat → M.State → Prop) (world : World S) : Prop where
  inv : R.inv world.state
  unborn : ∀ sid, world.sessions.length ≤ sid → fresh sid world.state
  alive : ∀ sid p, world.sessions[sid]? = some p →
    ∃ s, R.rely sid s world.state ∧ R.pre sid p (fun _ _ => True) s

variable {fresh : Nat → M.State → Prop}

theorem Covers.advance {world : World S} (h : R.Covers fresh world) {sid : Nat}
    {p : Prog M S.Reply} (hp : world.sessions[sid]? = some p)
    (answers : (q : M.Query) → M.Answer q) :
    (∀ w, p.pending = some w → R.may sid w world.state) ∧
      ((∀ w, p.pending = some w → R.allowed sid w world.state) →
        ∃ s, R.rely sid s (p.advance answers world.state).2 ∧
          R.pre sid (p.advance answers world.state).1 (fun _ _ => True) s) := by
  obtain ⟨s, hs, hwp⟩ := h.alive sid p hp
  exact wp_advance hs (rely_refl h.inv)
    (fun w hallowed hw => rely_refl (R.preserved sid w _ h.inv hallowed hw)) hwp answers

/-- The next commit keeps to the protocol. -/
theorem Covers.may {world : World S} (h : R.Covers fresh world) {move : Move S} {sid : Nat}
    {w : M.Write} (hcommit : world.commits move = some (sid, w)) :
    R.may sid w world.state := by
  cases move with
  | launch entry => cases hcommit
  | run runner answers =>
      cases hp : world.sessions[runner]? with
      | none => simp only [World.commits, hp, Option.bind_none, Option.map_none, reduceCtorEq]
                  at hcommit
      | some p =>
          rw [World.commits_run hp] at hcommit
          obtain ⟨w', hw, hpair⟩ := Option.map_eq_some_iff.mp hcommit
          cases hpair
          exact (h.advance hp answers).1 w hw

theorem Covers.step (stable : ∀ sid, R.Stable sid (fresh sid))
    (hprogram : ∀ sid entry,
      R.Triple sid (fresh sid) (S.program sid entry) fun _ _ => True)
    {world : World S} (h : R.Covers fresh world) (move : Move S)
    (allowed : ∀ sid w, world.commits move = some (sid, w) → R.allowed sid w world.state) :
    R.Covers fresh (world.step move) := by
  cases move with
  | launch entry =>
      refine ⟨h.inv, ?_, ?_⟩
      · intro sid hsid
        exact h.unborn sid (Nat.le_trans (List.length_append ▸ Nat.le_add_right _ _) hsid)
      · intro sid p hp
        rcases Nat.lt_trichotomy sid world.sessions.length with hlt | heq | hgt
        · exact h.alive sid p ((List.getElem?_append_left hlt).symm.trans hp)
        · subst heq
          cases List.getElem?_concat_length.symm.trans hp
          exact ⟨world.state, rely_refl h.inv, wp_mono (fun _ _ _ => trivial)
            (hprogram _ entry _ h.inv (h.unborn _ (Nat.le_refl _)))⟩
        · refine absurd ((List.getElem?_eq_some_iff.mp hp).1) (Nat.not_lt.mpr ?_)
          exact List.length_append ▸ hgt
  | run runner answers =>
      cases hrunner : world.sessions[runner]? with
      | none =>
          have same : world.step (.run runner answers) = world := by
            simp only [World.step, hrunner]
          rw [same]
          exact h
      | some q =>
          have ok : ∀ w, q.pending = some w → R.allowed runner w world.state := by
            intro w hw
            exact allowed runner w (by rw [World.commits_run hrunner, hw]; rfl)
          obtain ⟨hmay, hnext⟩ := h.advance hrunner answers
          obtain ⟨s₁, hs₁, hwp⟩ := hnext ok
          -- a store the runner leaves behind is one the others rely on
          have keep : ∀ sid s, sid ≠ runner → R.rely sid s world.state →
              R.rely sid s (q.advance answers world.state).2 := by
            intro sid s hne hs
            cases q with
            | write w next => exact rely_tail hs hne.symm (ok w rfl) (hmay w rfl)
            | _ => exact hs
          rw [World.step_run hrunner]
          refine ⟨hs₁.1, ?_, ?_⟩
          · intro sid hsid
            rw [List.length_set] at hsid
            have hne : sid ≠ runner := by
              rintro rfl
              exact absurd ((List.getElem?_eq_some_iff.mp hrunner).1) (Nat.not_lt.mpr hsid)
            exact (stable sid).rely (keep sid _ hne (rely_refl h.inv)) (h.unborn sid hsid)
          · intro sid p hp
            by_cases hsid : runner = sid
            · subst hsid
              rw [List.getElem?_set_self (List.getElem?_eq_some_iff.mp hrunner).1] at hp
              cases hp
              exact ⟨s₁, hs₁, hwp⟩
            · rw [List.getElem?_set_ne hsid] at hp
              obtain ⟨s, hs, hwp'⟩ := h.alive sid p hp
              exact ⟨s, keep sid s (Ne.symm hsid) hs, hwp'⟩

/-- Every run of sessions that keep to the protocol. -/
theorem Covers.run (stable : ∀ sid, R.Stable sid (fresh sid))
    (hprogram : ∀ sid entry,
      R.Triple sid (fresh sid) (S.program sid entry) fun _ _ => True)
    {world world' : World S} (h : R.Covers fresh world) (run : Run R.allowed world world') :
    R.Covers fresh world' := by
  induction run with
  | refl => exact h
  | step run move allowed ih => exact ih.step stable hprogram move allowed

/-- A run of sessions that keep to the protocol is one in which every
write keeps to it. -/
theorem Covers.guarantee (stable : ∀ sid, R.Stable sid (fresh sid))
    (hprogram : ∀ sid entry,
      R.Triple sid (fresh sid) (S.program sid entry) fun _ _ => True)
    {P : Nat → M.Write → M.State → Prop} (hP : ∀ sid w s, P sid w s → R.allowed sid w s)
    {world world' : World S} (h : R.Covers fresh world) (run : Run P world world') :
    Run (fun sid w s => P sid w s ∧ R.inv s ∧ R.may sid w s) world world' ∧
      R.Covers fresh world' := by
  induction run with
  | refl => exact ⟨.refl _, h⟩
  | step run move allowed ih =>
      obtain ⟨run', covers⟩ := ih
      exact ⟨run'.step move fun sid w hcommit =>
          ⟨allowed sid w hcommit, covers.inv, covers.may hcommit⟩,
        covers.step stable hprogram move fun sid w hcommit =>
          hP sid w _ (allowed sid w hcommit)⟩

/-- Before the first session. -/
theorem covers_start {s : M.State} (hinv : R.inv s) (hfresh : ∀ sid, fresh sid s) :
    R.Covers fresh (⟨s, []⟩ : World S) :=
  ⟨hinv, fun sid _ => hfresh sid, fun _ _ hp => (nomatch hp)⟩

end Protocol

end Session
