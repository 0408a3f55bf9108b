/-
# `Lib.SessionHistory` — runs that remember what they did

`Recorded` is a run together with its history: which session entered
where, and which session committed which write on which store.  A program
that commits at most once before it replies (`Once`) leaves in the history
nothing, or its one write; what it replies afterwards follows from that
write and from what the others keep of the store (`Recorded.status`).
-/
import TonTracker.Lib.Session

namespace Session

variable {M : Machine} {S : System M} {α β ε : Type}

/-- What a move leaves in the history. -/
inductive Event (S : System M) where
  | launched (sid : Nat) (entry : S.Entry)
  | committed (sid : Nat) (w : M.Write) (s : M.State)

namespace World

def event (world : World S) : Move S → Option (Event S)
  | .launch entry => some (.launched world.sessions.length entry)
  | .run sid answers =>
      (world.commits (.run sid answers)).map fun commit =>
        .committed commit.1 commit.2 world.state

/-- The history of a list of moves, oldest first. -/
def history (world : World S) : List (Move S) → List (Event S)
  | [] => []
  | move :: moves => (world.event move).toList ++ (world.step move).history moves

theorem history_append (world : World S) (first second : List (Move S)) :
    world.history (first ++ second) =
      world.history first ++ (first.foldl step world).history second := by
  induction first generalizing world with
  | nil => rfl
  | cons move first ih => simp only [history, List.cons_append, List.foldl_cons, ih,
      List.append_assoc]

theorem mem_history_launch (world : World S) (first second : List (Move S)) (entry : S.Entry) :
    Event.launched (first.foldl step world).sessions.length entry ∈
      world.history (first ++ .launch entry :: second) := by
  rw [history_append]
  exact List.mem_append_right _ (List.mem_append_left _ (List.mem_singleton_self _))

/-- The entries of a list of moves. -/
def entries (moves : List (Move S)) : List S.Entry :=
  moves.filterMap fun move => match move with
    | .launch entry => some entry
    | .run _ _ => none

/-- Only the entries of the moves are launched. -/
theorem mem_entries {world : World S} {moves : List (Move S)} {sid : Nat} {entry : S.Entry}
    (h : Event.launched sid entry ∈ world.history moves) : entry ∈ entries moves := by
  induction moves generalizing world with
  | nil => cases h
  | cons move moves ih =>
      rcases List.mem_append.mp h with h | h
      · cases move with
        | launch entry' =>
            cases List.mem_singleton.mp h
            exact List.mem_cons_self
        | run runner answers =>
            obtain ⟨commit, -, heq⟩ := Option.map_eq_some_iff.mp (Option.mem_toList.mp h)
            cases heq
      · cases move with
        | launch entry' => exact List.mem_cons_of_mem _ (ih h)
        | run runner answers => exact ih h

/-- The session has replied. -/
def Replied (world : World S) (sid : Nat) : Prop :=
  ∃ reply, world.sessions[sid]? = some (.done reply)

end World

/-- A run of no session from a store on; `P history world move` allows a
move. -/
inductive Recorded (P : List (Event S) → World S → Move S → Prop) (s : M.State) :
    List (Event S) → World S → Prop where
  | start : Recorded P s [] ⟨s, []⟩
  | step {history : List (Event S)} {world : World S} (run : Recorded P s history world)
      (move : Move S) (allowed : P history world move) :
      Recorded P s (history ++ (world.event move).toList) (world.step move)

/-- What a session committed, and on which stores. -/
def commitsOf (sid : Nat) (history : List (Event S)) : List (M.Write × M.State) :=
  history.filterMap fun event => match event with
    | .launched _ _ => none
    | .committed other w s => if other = sid then some (w, s) else none

section History

variable {P : List (Event S) → World S → Move S → Prop} {s : M.State}
  {history : List (Event S)} {world : World S}

theorem mem_commitsOf {sid : Nat} {w : M.Write} {t : M.State} :
    (w, t) ∈ commitsOf sid history ↔ Event.committed sid w t ∈ history := by
  unfold commitsOf
  rw [List.mem_filterMap]
  constructor
  · rintro ⟨event, hevent, h⟩
    cases event with
    | launched other entry => cases h
    | committed other w' s' =>
        simp only [Option.ite_none_right_eq_some, Option.some.injEq, Prod.mk.injEq] at h
        obtain ⟨rfl, rfl, rfl⟩ := h
        exact hevent
  · exact fun h => ⟨_, h, if_pos rfl⟩

theorem commitsOf_append (sid : Nat) (first second : List (Event S)) :
    commitsOf sid (first ++ second) = commitsOf sid first ++ commitsOf sid second :=
  List.filterMap_append

theorem commitsOf_event (sid : Nat) (world : World S) (move : Move S) :
    commitsOf sid (world.event move).toList = match world.commits move with
      | some (runner, w) => if runner = sid then [(w, world.state)] else []
      | none => [] := by
  cases move with
  | launch entry => rfl
  | run runner answers =>
      have left : world.event (.run runner answers) =
          (world.commits (.run runner answers)).map fun commit =>
            .committed commit.1 commit.2 world.state := rfl
      rw [left]
      cases world.commits (.run runner answers) with
      | none => rfl
      | some commit =>
          show commitsOf sid [Event.committed commit.1 commit.2 world.state] = _
          unfold commitsOf
          by_cases h : commit.1 = sid <;> simp [h]

/-- Only the sessions that have entered commit. -/
theorem Recorded.committed_lt (run : Recorded P s history world) {sid : Nat} {w : M.Write}
    {t : M.State} (h : Event.committed sid w t ∈ history) : sid < world.sessions.length := by
  induction run with
  | start => cases h
  | @step history world run move allowed ih =>
      rcases List.mem_append.mp h with h | h
      · refine Nat.lt_of_lt_of_le (ih h) ?_
        cases move with
        | launch entry => simp [World.step]
        | run runner answers =>
            simp only [World.step]
            split <;> simp
      · cases move with
        | launch entry =>
            cases List.mem_singleton.mp h
        | run runner answers =>
            obtain ⟨⟨runner', w'⟩, hcommit, heq⟩ :=
              Option.map_eq_some_iff.mp (Option.mem_toList.mp h)
            cases heq
            cases hq : world.sessions[runner]? with
            | none => simp [World.commits, hq] at hcommit
            | some q =>
                rw [World.commits_run hq] at hcommit
                obtain ⟨_, -, hpair⟩ := Option.map_eq_some_iff.mp hcommit
                cases hpair
                rw [World.step_run hq, List.length_set]
                exact (List.getElem?_eq_some_iff.mp hq).1

/-- A move changes the store only by the write that its event names. -/
theorem World.state_event (world : World S) (move : Move S) :
    (∃ sid w, world.event move = some (.committed sid w world.state) ∧
      (world.step move).state = (M.commit w world.state).2) ∨
      ((world.step move).state = world.state ∧
        ∀ sid w t, world.event move ≠ some (.committed sid w t)) := by
  rw [World.state_step]
  cases move with
  | launch entry => exact .inr ⟨rfl, fun _ _ _ h => nomatch h⟩
  | run sid answers =>
      cases hcommit : world.commits (.run sid answers) with
      | none =>
          refine .inr ⟨rfl, fun _ _ _ h => ?_⟩
          simp only [World.event, hcommit, Option.map_none, reduceCtorEq] at h
      | some commit =>
          exact .inl ⟨commit.1, commit.2, by simp only [World.event, hcommit, Option.map_some], rfl⟩

/-- A commit in the history, at the store it was made on. -/
theorem Recorded.at_commit (run : Recorded P s history world) {past later : List (Event S)}
    {sid : Nat} {w : M.Write} {t : M.State}
    (h : history = past ++ Event.committed sid w t :: later) :
    ∃ world', Recorded P s past world' ∧ world'.state = t := by
  induction run generalizing later with
  | start => simp at h
  | @step history world run move allowed ih =>
      rcases List.eq_nil_or_concat later with rfl | ⟨later, last, rfl⟩
      · cases hevent : world.event move with
        | none =>
            rw [hevent, Option.toList_none, List.append_nil] at h
            exact ih h
        | some event =>
            rw [hevent, Option.toList_some] at h
            obtain ⟨rfl, heq⟩ := List.append_inj' h rfl
            cases List.cons.inj heq |>.1
            rcases world.state_event move with ⟨sid', w', hcommitted, -⟩ | ⟨-, hnone⟩
            · cases hevent.symm.trans hcommitted
              exact ⟨world, run, rfl⟩
            · exact absurd hevent (hnone _ _ _)
      · cases hevent : world.event move with
        | none =>
            rw [hevent, Option.toList_none, List.append_nil] at h
            exact ih h
        | some event =>
            rw [hevent, Option.toList_some, List.concat_eq_append, ← List.cons_append,
              ← List.append_assoc] at h
            exact ih (List.append_inj' h rfl).1

/-- What a commit establishes and every later one keeps holds at the end. -/
theorem Recorded.since (run : Recorded P s history world) {past later : List (Event S)}
    {sid : Nat} {w : M.Write} {t : M.State}
    (h : history = past ++ Event.committed sid w t :: later)
    (holds : M.State → Prop) (starts : holds (M.commit w t).2)
    (continues : ∀ sid' w' t', Event.committed sid' w' t' ∈ later → holds t' →
      holds (M.commit w' t').2) : holds world.state := by
  induction run generalizing later with
  | start => simp at h
  | @step history world run move allowed ih =>
      rcases List.eq_nil_or_concat later with rfl | ⟨later, last, rfl⟩
      · rcases world.state_event move with ⟨sid', w', hevent, hstate⟩ | ⟨hstate, hnone⟩
        · rw [hevent, Option.toList_some] at h
          cases (List.cons.inj (List.append_inj' h rfl).2).1
          rw [hstate]
          exact starts
        · cases hevent : world.event move with
          | none =>
              rw [hevent, Option.toList_none, List.append_nil] at h
              rw [hstate]
              exact ih h continues
          | some event =>
              rw [hevent, Option.toList_some] at h
              cases (List.cons.inj (List.append_inj' h rfl).2).1
              exact absurd hevent (hnone _ _ _)
      · cases hevent : world.event move with
        | none =>
            rw [hevent, Option.toList_none, List.append_nil] at h
            rcases world.state_event move with ⟨sid', w', hcommitted, -⟩ | ⟨hstate, -⟩
            · cases hevent.symm.trans hcommitted
            · rw [hstate]
              exact ih h continues
        | some event =>
            rw [hevent, Option.toList_some, List.concat_eq_append, ← List.cons_append,
              ← List.append_assoc] at h
            obtain ⟨hhistory, hlast⟩ := List.append_inj' h rfl
            cases (List.cons.inj hlast).1
            have before := ih hhistory fun sid' w' t' hmem =>
              continues sid' w' t' (by simp [hmem])
            rcases world.state_event move with ⟨sid', w', hcommitted, hstate⟩ | ⟨hstate, -⟩
            · rw [hstate]
              cases hevent.symm.trans hcommitted
              exact continues sid' _ _ (by simp) before
            · rw [hstate]
              exact before

/-- The stores of a run: its first one, and what each commit left. -/
def Visited (s : M.State) (history : List (Event S)) (t : M.State) : Prop :=
  t = s ∨ ∃ sid w u, Event.committed sid w u ∈ history ∧ t = (M.commit w u).2

theorem Recorded.visited (run : Recorded P s history world) : Visited s history world.state := by
  induction run with
  | start => exact .inl rfl
  | @step history world run move allowed ih =>
      rcases world.state_event move with ⟨sid, w, hevent, hstate⟩ | ⟨hstate, -⟩
      · refine .inr ⟨sid, w, world.state, List.mem_append_right _ ?_, hstate⟩
        rw [hevent]
        exact List.mem_singleton_self _
      · rw [hstate]
        exact ih.imp_right fun ⟨sid, w, u, hmem, heq⟩ =>
          ⟨sid, w, u, List.mem_append_left _ hmem, heq⟩

/-- What its own steps and the commits of the others keep of the commits of a
session, its program and the store holds wherever the session stands. -/
theorem Recorded.tracks (run : Recorded P s history world) {inv : M.State → Prop}
    {I : List (M.Write × M.State) → Prog M S.Reply → M.State → Prop} {sid : Nat} {entry : S.Entry}
    (hinv : ∀ t, Visited s history t → inv t) (hstart : ∀ t, I [] (S.program sid entry) t)
    (hown : ∀ commits p t (answers : (q : M.Query) → M.Answer q), inv t → I commits p t →
      I (commits ++ (p.pending.map fun w => (w, t)).toList) (p.advance answers t).1
        (p.advance answers t).2)
    (hother : ∀ history world move p runner v, P history world move →
      world.sessions[sid]? = some p → world.commits move = some (runner, v) →
      I (commitsOf sid history) p world.state →
      I (commitsOf sid history) p (M.commit v world.state).2)
    (launched : Event.launched sid entry ∈ history) :
    ∃ p, world.sessions[sid]? = some p ∧ I (commitsOf sid history) p world.state := by
  induction run with
  | start => cases launched
  | @step history world run move allowed ih =>
      have visited : ∀ t, Visited s history t → inv t := fun t ht => hinv t
        (ht.imp_right fun ⟨sid, w, u, hmem, heq⟩ => ⟨sid, w, u, List.mem_append_left _ hmem, heq⟩)
      rw [commitsOf_append, commitsOf_event]
      rcases List.mem_append.mp launched with launched | launched
      · obtain ⟨p, hp, hI⟩ := ih visited launched
        cases move with
        | launch entry' =>
            refine ⟨p, (List.getElem?_append_left (List.getElem?_eq_some_iff.mp hp).1).trans hp, ?_⟩
            exact (List.append_nil (commitsOf sid history)).symm ▸ hI
        | run runner answers =>
            cases hq : world.sessions[runner]? with
            | none =>
                have same : world.step (.run runner answers) = world := by
                  simp only [World.step, hq]
                rw [same]
                exact ⟨p, hp, by simpa [World.commits, hq] using hI⟩
            | some q =>
                rw [World.commits_run hq, World.step_run hq]
                by_cases hsid : runner = sid
                · subst hsid
                  cases hp.symm.trans hq
                  refine ⟨_, List.getElem?_set_self (List.getElem?_eq_some_iff.mp hp).1, ?_⟩
                  have next := hown _ _ world.state answers (visited _ run.visited) hI
                  cases hpending : p.pending with
                  | none => simpa [hpending] using next
                  | some w => simpa [hpending] using next
                · refine ⟨p, by rwa [List.getElem?_set_ne hsid], ?_⟩
                  cases q with
                  | write v next =>
                      have kept := hother history world _ p runner v allowed hp
                        (by rw [World.commits_run hq]; rfl) hI
                      rw [Prog.pending, Option.map_some]
                      simp only [if_neg hsid, List.append_nil]
                      exact kept
                  | _ => exact (List.append_nil (commitsOf sid history)).symm ▸ hI
      · cases move with
        | run runner answers =>
            obtain ⟨commit, -, heq⟩ := Option.map_eq_some_iff.mp (Option.mem_toList.mp launched)
            cases heq
        | launch entry' =>
            cases List.mem_singleton.mp launched
            have none : commitsOf world.sessions.length history = [] := by
              rw [List.eq_nil_iff_forall_not_mem]
              rintro ⟨w, t⟩ hmem
              exact absurd (run.committed_lt (mem_commitsOf.mp hmem)) (Nat.lt_irrefl _)
            refine ⟨_, List.getElem?_concat_length, ?_⟩
            simpa [World.commits, none] using hstart _

/-- Every commit of a session is a write of its program, on what it may
read in the run. -/
theorem Recorded.commits_of_all (run : Recorded P s history world) {inv : M.State → Prop}
    {W : M.Write → Prop} (hinv : ∀ t, Visited s history t → inv t) {sid : Nat} {entry : S.Entry}
    (launched : Event.launched sid entry ∈ history) (hall : (S.program sid entry).All inv W) :
    (∃ p, world.sessions[sid]? = some p ∧ p.All inv W) ∧
      ∀ w t, Event.committed sid w t ∈ history → W w := by
  have hown : ∀ (commits : List (M.Write × M.State)) (p : Prog M S.Reply) (t : M.State)
      (answers : (q : M.Query) → M.Answer q), inv t → (p.All inv W ∧ ∀ c ∈ commits, W c.1) →
      (p.advance answers t).1.All inv W ∧
        ∀ c ∈ commits ++ (p.pending.map fun w => (w, t)).toList, W c.1 := by
    rintro commits p t answers ht ⟨hrest, hcommits⟩
    cases p with
    | done value => exact ⟨hrest, by simpa [Prog.pending] using hcommits⟩
    | ask query next => exact ⟨hrest _, by simpa [Prog.pending] using hcommits⟩
    | read next => exact ⟨hrest _ ht, by simpa [Prog.pending] using hcommits⟩
    | write w next =>
        refine ⟨hrest.2 _, fun c hc => ?_⟩
        rcases List.mem_append.mp hc with hc | hc
        · exact hcommits c hc
        · cases List.mem_singleton.mp hc
          exact hrest.1
  obtain ⟨p, hp, hrest, hcommits⟩ := run.tracks
    (I := fun commits p _ => p.All inv W ∧ ∀ c ∈ commits, W c.1) hinv
    (fun _ => ⟨hall, fun _ hc => nomatch hc⟩) hown (fun _ _ _ _ _ _ _ _ _ h => h) launched
  exact ⟨⟨p, hp, hrest⟩, fun w t hmem => hcommits (w, t) (mem_commitsOf.mpr hmem)⟩

end History

namespace Prog

/-- Questions and reads only, and where it reads stores of `A`, a reply of
`R`. -/
def Replies (A : M.State → Prop) (R : α → Prop) : Prog M α → Prop
  | .done value => R value
  | .ask _ next => ∀ answer, (next answer).Replies A R
  | .read next => ∀ s, A s → (next s).Replies A R
  | .write _ _ => False

/-- At most one write `w`, of `W`; a reply of `Q` without it, and after it
one of `R w`, as long as the stores read since are of `A w`. -/
def Once (Q : α → Prop) (W : M.Write → Prop) (A : (w : M.Write) → M.Result w → M.State → Prop)
    (R : (w : M.Write) → M.Result w → α → Prop) : Prog M α → Prop
  | .done value => Q value
  | .ask _ next => ∀ answer, (next answer).Once Q W A R
  | .read next => ∀ s, (next s).Once Q W A R
  | .write w next => W w ∧ ∀ result, (next result).Replies (A w result) (R w result)

variable {Q : α → Prop} {W : M.Write → Prop} {A : (w : M.Write) → M.Result w → M.State → Prop}
  {R : (w : M.Write) → M.Result w → α → Prop} {B : M.State → Prop}

theorem replies_bind {q : β → Prop} {r : α → Prop} {p : Prog M β} {f : β → Prog M α}
    (hp : p.Replies B q) (hf : ∀ value, q value → (f value).Replies B r) :
    (p >>= f).Replies B r := by
  induction p with
  | done value => exact hf value hp
  | ask query next ih => exact fun answer => ih answer (hp answer)
  | read next ih => exact fun s hs => ih s (hp s hs)
  | write w next ih => exact hp.elim

/-- The same for programs that may raise. -/
theorem replies_bindExcept {q : β → Prop} {r : Except ε α → Prop} {p : ExceptT ε (Prog M) β}
    {f : β → ExceptT ε (Prog M) α}
    (hp : p.run.Replies B fun result => match result with
      | .ok value => q value
      | .error error => r (.error error))
    (hf : ∀ value, q value → (f value).run.Replies B r) : (p >>= f).run.Replies B r := by
  refine replies_bind hp fun value hvalue => ?_
  cases value with
  | ok value => exact hf value hvalue
  | error error => exact hvalue

/-- The writes of a program that first asks and reads. -/
theorem all_bindReplies {q : β → Prop} {P : M.Write → Prop} {p : Prog M β} {f : β → Prog M α}
    (hp : p.Replies B q) (hf : ∀ value, q value → (f value).All B P) : (p >>= f).All B P := by
  induction p with
  | done value => exact hf value hp
  | ask query next ih => exact fun answer => ih answer (hp answer)
  | read next ih => exact fun s hs => ih s (hp s hs)
  | write w next ih => exact hp.elim

/-- The same for programs that may raise. -/
theorem all_bindExceptReplies {q : β → Prop} {P : M.Write → Prop} {p : ExceptT ε (Prog M) β}
    {f : β → ExceptT ε (Prog M) α}
    (hp : p.run.Replies B fun result => ∀ value, result = .ok value → q value)
    (hf : ∀ value, q value → (f value).run.All B P) : (p >>= f).run.All B P := by
  refine all_bindReplies hp fun result hresult => ?_
  cases result with
  | ok value => exact hf value (hresult value rfl)
  | error error => trivial

/-- What precedes the write. -/
theorem once_of_replies {p : Prog M α} (hp : p.Replies (fun _ => True) Q) : p.Once Q W A R := by
  induction p with
  | done value => exact hp
  | ask query next ih => exact fun answer => ih answer (hp answer)
  | read next ih => exact fun s => ih s (hp s trivial)
  | write w next ih => exact hp.elim

theorem once_bind {q : β → Prop} {r : (w : M.Write) → M.Result w → β → Prop} {p : Prog M β}
    {f : β → Prog M α} (hp : p.Once q W A r) (hf : ∀ value, q value → (f value).Once Q W A R)
    (hafter : ∀ w result value, W w → r w result value →
      (f value).Replies (A w result) (R w result)) : (p >>= f).Once Q W A R := by
  induction p with
  | done value => exact hf value hp
  | ask query next ih => exact fun answer => ih answer (hp answer)
  | read next ih => exact fun s => ih s (hp s)
  | write w next ih =>
      exact ⟨hp.1, fun result =>
        replies_bind (hp.2 result) fun value hvalue => hafter w result value hp.1 hvalue⟩

/-- The same for programs that may raise. -/
theorem once_bindExcept {Q : Except ε α → Prop} {q : β → Prop}
    {R : (w : M.Write) → M.Result w → Except ε α → Prop} {p : ExceptT ε (Prog M) β}
    {f : β → ExceptT ε (Prog M) α}
    (hp : p.run.Replies (fun _ => True) fun result => match result with
      | .ok value => q value
      | .error error => Q (.error error))
    (hf : ∀ value, q value → (f value).run.Once Q W A R) : (p >>= f).run.Once Q W A R := by
  refine once_bind (r := fun _ _ _ => False) (once_of_replies hp) (fun value hvalue => ?_)
    fun _ _ _ _ h => h.elim
  cases value with
  | ok value => exact hf value hvalue
  | error error => exact hvalue

end Prog

/-- How far such a program has come, after what it committed. -/
inductive Status (Q : α → Prop) (W : M.Write → Prop)
    (A : (w : M.Write) → M.Result w → M.State → Prop)
    (R : (w : M.Write) → M.Result w → α → Prop) :
    List (M.Write × M.State) → Prog M α → M.State → Prop
  | before {p : Prog M α} {s : M.State} (h : p.Once Q W A R) : Status Q W A R [] p s
  | after {p : Prog M α} {s t : M.State} {w : M.Write} (hw : W w)
      (h : p.Replies (A w (M.commit w t).1) (R w (M.commit w t).1))
      (hs : (∃ reply, p = .done reply) ∨ A w (M.commit w t).1 s) :
      Status Q W A R [(w, t)] p s

section Status

variable {Q : α → Prop} {W : M.Write → Prop} {A : (w : M.Write) → M.Result w → M.State → Prop}
  {R : (w : M.Write) → M.Result w → α → Prop} {commits : List (M.Write × M.State)} {p : Prog M α}
  {s s' : M.State}

/-- One of its own steps. -/
theorem Status.advance (establishes : ∀ w t, W w → A w (M.commit w t).1 (M.commit w t).2)
    (h : Status Q W A R commits p s) (answers : (q : M.Query) → M.Answer q) :
    Status Q W A R (commits ++ (p.pending.map fun w => (w, s)).toList) (p.advance answers s).1
      (p.advance answers s).2 := by
  cases h with
  | before h =>
      cases p with
      | done value => exact .before h
      | ask query next => exact .before (h _)
      | read next => exact .before (h s)
      | write w next => exact .after h.1 (h.2 _) (.inr (establishes w s h.1))
  | after hw h hs =>
      cases p with
      | done value => exact .after hw h hs
      | ask query next =>
          exact .after hw (h _) (.inr (hs.resolve_left fun ⟨_, heq⟩ => nomatch heq))
      | read next =>
          have hA := hs.resolve_left fun ⟨_, heq⟩ => nomatch heq
          exact .after hw (h s hA) (.inr hA)
      | write w next => exact h.elim

/-- A step of another session. -/
theorem Status.other (h : Status Q W A R commits p s)
    (keeps : ∀ w t, commits = [(w, t)] → (¬ ∃ reply, p = .done reply) →
      A w (M.commit w t).1 s → A w (M.commit w t).1 s') :
    Status Q W A R commits p s' := by
  cases h with
  | before h => exact .before h
  | @after _ _ t w hw h hs =>
      refine .after hw h ?_
      by_cases hdone : ∃ reply, p = .done reply
      · exact .inl hdone
      · exact .inr (keeps w t rfl hdone (hs.resolve_left hdone))

end Status

section Runs

variable {P : List (Event S) → World S → Move S → Prop} {s : M.State}
  {history : List (Event S)} {world : World S} {Q : Nat → S.Entry → S.Reply → Prop}
  {W : Nat → S.Entry → M.Write → Prop}
  {A : Nat → S.Entry → (w : M.Write) → M.Result w → M.State → Prop}
  {R : Nat → S.Entry → (w : M.Write) → M.Result w → S.Reply → Prop} {entries : S.Entry → Prop}

/-- Where every session of these entries stands in a run whose other
commits keep what it still has to read. -/
theorem Recorded.status
    (hprogram : ∀ sid entry, entries entry →
      (S.program sid entry).Once (Q sid entry) (W sid entry) (A sid entry) (R sid entry))
    (establishes : ∀ sid entry w t, entries entry → W sid entry w →
      A sid entry w (M.commit w t).1 (M.commit w t).2)
    (keeps : ∀ history world move, P history world move → ∀ sid entry w t runner v,
      entries entry → W sid entry w → Event.committed sid w t ∈ history → ¬ world.Replied sid →
      world.commits move = some (runner, v) → A sid entry w (M.commit w t).1 world.state →
      A sid entry w (M.commit w t).1 (M.commit v world.state).2)
    (run : Recorded P s history world) {sid : Nat} {entry : S.Entry} (hentry : entries entry)
    (launched : Event.launched sid entry ∈ history) :
    ∃ p, world.sessions[sid]? = some p ∧ Status (Q sid entry) (W sid entry) (A sid entry)
      (R sid entry) (commitsOf sid history) p world.state := by
  refine run.tracks (fun _ _ => trivial) (fun _ => .before (hprogram _ _ hentry))
    (fun commits p t answers _ status => status.advance
      (fun w t hw => establishes _ entry w t hentry hw) answers) ?_ launched
  -- what another session's commit leaves of the status
  intro history world move p runner v allowed hp hcommit status
  refine status.other fun w t hcommits hdone hA => ?_
  have hmem : Event.committed sid w t ∈ history :=
    mem_commitsOf.mp (hcommits ▸ List.mem_singleton_self _)
  have hw : W sid entry w := by
    rw [hcommits] at status
    cases status with
    | after hw h hs => exact hw
  refine keeps history world move allowed sid entry w t runner v hentry hw hmem ?_ hcommit hA
  rintro ⟨reply, hreply⟩
  rw [hp] at hreply
  exact hdone ⟨reply, Option.some.inj hreply⟩

end Runs

/-- Whether every move of a list passes a test, given what came before it. -/
def World.recordsAll (test : List (Event S) → World S → Move S → Bool) (history : List (Event S))
    (world : World S) : List (Move S) → Bool
  | [] => true
  | move :: moves => test history world move &&
      (world.step move).recordsAll test (history ++ (world.event move).toList) moves

/-- A list of moves that pass the test is a run with its history. -/
theorem recorded_foldl {P : List (Event S) → World S → Move S → Prop} {s : M.State}
    (test : List (Event S) → World S → Move S → Bool)
    (hP : ∀ history world move, test history world move = true → P history world move)
    (moves : List (Move S)) {history : List (Event S)} {world : World S}
    (run : Recorded P s history world) (h : world.recordsAll test history moves = true) :
    Recorded P s (history ++ world.history moves) (moves.foldl World.step world) := by
  induction moves generalizing history world with
  | nil => exact (List.append_nil _).symm ▸ run
  | cons move moves ih =>
      rw [World.recordsAll, Bool.and_eq_true] at h
      have next := ih (run.step move (hP history world move h.1)) h.2
      rw [List.append_assoc] at next
      exact next

end Session
