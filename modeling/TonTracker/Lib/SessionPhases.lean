/-
# `Lib.SessionPhases` — what a recorded run knows of each commit

A run with its history keeps to a protocol of `Lib.Session` commit by
commit (`Recorded.guarantee`), so an induction on the run has at each step
what its programs guarantee.  A program that writes of `P` until one write
of `C`, and after that of `Q` of that write (`Phased`), leaves its commits
in the history in that order (`Recorded.phased`).
-/
import TonTracker.Lib.SessionHistory

namespace Session

variable {M : Machine} {S : System M} {α β ε : Type}

/-- A move that commits nothing but writes of `Q`. -/
def Keeping (Q : Nat → M.Write → M.State → Prop) (_ : List (Event S)) (world : World S)
    (move : Move S) : Prop :=
  ∀ sid w, world.commits move = some (sid, w) → Q sid w world.state

section Runs

variable {P : List (Event S) → World S → Move S → Prop} {s : M.State}
  {history : List (Event S)} {world : World S}

theorem Recorded.mono {P' : List (Event S) → World S → Move S → Prop}
    (h : ∀ history world move, P history world move → P' history world move)
    (run : Recorded P s history world) : Recorded P' s history world := by
  induction run with
  | start => exact .start
  | step run move allowed ih => exact ih.step move (h _ _ _ allowed)

/-- What holds of the history and the store, launch by launch and commit by
commit. -/
theorem Recorded.along {Q : Nat → M.Write → M.State → Prop} {I : List (Event S) → M.State → Prop}
    (start : I [] s) (launched : ∀ history sid entry t, I history t →
      I (history ++ [.launched sid entry]) t)
    (committed : ∀ history sid w t, Q sid w t → I history t →
      I (history ++ [.committed sid w t]) (M.commit w t).2)
    (run : Recorded (Keeping Q) s history world) : I history world.state := by
  induction run with
  | start => exact start
  | @step history world run move allowed ih =>
      rw [World.state_step]
      cases move with
      | launch entry => exact launched _ _ _ _ ih
      | run sid answers =>
          cases hcommit : world.commits (.run sid answers) with
          | none =>
              have nothing : world.event (.run sid answers) = none := by
                rw [World.event, hcommit, Option.map_none]
              rw [nothing, Option.toList_none, List.append_nil]
              exact ih
          | some commit =>
              have event : world.event (.run sid answers) =
                  some (.committed commit.1 commit.2 world.state) := by
                rw [World.event, hcommit, Option.map_some]
              rw [event, Option.toList_some]
              exact committed _ _ _ _ (allowed _ _ hcommit) ih

/-- What is known of every commit is known of those of the history. -/
theorem Recorded.committed {Q : Nat → M.Write → M.State → Prop}
    (run : Recorded (Keeping Q) s history world) :
    ∀ sid w t, Event.committed sid w t ∈ history → Q sid w t := by
  refine run.along (I := fun history _ => ∀ sid w t, Event.committed sid w t ∈ history → Q sid w t)
    (fun _ _ _ h => nomatch h) (fun history sid entry t h sid' w' t' hmem => ?_)
    fun history sid w t hQ h sid' w' t' hmem => ?_
  · rcases List.mem_append.mp hmem with hmem | hmem
    · exact h _ _ _ hmem
    · cases List.mem_singleton.mp hmem
  · rcases List.mem_append.mp hmem with hmem | hmem
    · exact h _ _ _ hmem
    · cases List.mem_singleton.mp hmem
      exact hQ

/-- Every commit of a run of sessions that keep to the protocol keeps to
it. -/
theorem Recorded.guarantee {R : Protocol M} {F : Nat → M.State → Prop}
    {Q : Nat → M.Write → M.State → Prop} (stable : ∀ sid, R.Stable sid (F sid))
    (hprogram : ∀ sid entry, R.Triple sid (F sid) (S.program sid entry) fun _ _ => True)
    (hQ : ∀ sid w t, Q sid w t → R.allowed sid w t) (hinv : R.inv s) (hfresh : ∀ sid, F sid s)
    (run : Recorded (Keeping Q) s history world) :
    Recorded (Keeping fun sid w t => Q sid w t ∧ R.inv t ∧ R.may sid w t) s history world ∧
      R.Covers F world := by
  induction run with
  | start => exact ⟨.start, Protocol.covers_start hinv hfresh⟩
  | step run move allowed ih =>
      obtain ⟨run', covers⟩ := ih
      exact ⟨run'.step move fun sid w hcommit =>
          ⟨allowed sid w hcommit, covers.inv, covers.may hcommit⟩,
        covers.step stable hprogram move fun sid w hcommit => hQ _ _ _ (allowed sid w hcommit)⟩

end Runs

namespace Prog

/-- Writes of `P` and a reply of `A`; or after those one write of `C`, and
from it on writes of `Q` and a reply of `B`. -/
def Phased (P C Q : M.Write → Prop) (A B : α → Prop) : Prog M α → Prop
  | .done value => A value
  | .ask _ next => ∀ answer, (next answer).Phased P C Q A B
  | .read next => ∀ s, (next s).Phased P C Q A B
  | .write w next => (P w ∧ ∀ result, (next result).Phased P C Q A B) ∨
      (C w ∧ ∀ result, (next result).All (fun _ => True) Q ∧ (next result).Returns B)

variable {P C Q : M.Write → Prop} {A B : α → Prop} {A' B' : β → Prop}

theorem all_bindReturns {W : M.Write → Prop} {p : Prog M β} {f : β → Prog M α}
    (hp : p.All (fun _ => True) W) (hB : p.Returns B')
    (hf : ∀ value, B' value → (f value).All (fun _ => True) W) :
    (p >>= f).All (fun _ => True) W := by
  induction p with
  | done value => exact hf value hB
  | ask query next ih => exact fun answer => ih answer (hp answer) (hB answer)
  | read next ih => exact fun s hs => ih s (hp s hs) (hB s)
  | write w next ih => exact ⟨hp.1, fun result => ih result (hp.2 result) (hB result)⟩

theorem returns_bindReturns {p : Prog M β} {f : β → Prog M α} (hB : p.Returns B')
    (hf : ∀ value, B' value → (f value).Returns B) : (p >>= f).Returns B := by
  induction p with
  | done value => exact hf value hB
  | ask query next ih => exact fun answer => ih answer (hB answer)
  | read next ih => exact fun s => ih s (hB s)
  | write w next ih => exact fun result => ih result (hB result)

theorem returns_true (p : Prog M α) : p.Returns fun _ => True := by
  induction p with
  | done value => trivial
  | ask query next ih => exact ih
  | read next ih => exact ih
  | write w next ih => exact ih

theorem phased_bind {p : Prog M β} {f : β → Prog M α} (hp : p.Phased P C Q A' B')
    (hf : ∀ value, A' value → (f value).Phased P C Q A B)
    (hafter : ∀ value, B' value → (f value).All (fun _ => True) Q ∧ (f value).Returns B) :
    (p >>= f).Phased P C Q A B := by
  induction p with
  | done value => exact hf value hp
  | ask query next ih => exact fun answer => ih answer (hp answer)
  | read next ih => exact fun s => ih s (hp s)
  | write w next ih =>
      rcases hp with ⟨hw, hnext⟩ | ⟨hw, hnext⟩
      · exact .inl ⟨hw, fun result => ih result (hnext result)⟩
      · exact .inr ⟨hw, fun result =>
          ⟨all_bindReturns (hnext result).1 (hnext result).2 fun value h => (hafter value h).1,
            returns_bindReturns (hnext result).2 fun value h => (hafter value h).2⟩⟩

/-- The same for programs that may raise. -/
theorem phased_bindRaises {A' B' : Except ε β → Prop} {A B : Except ε α → Prop}
    {p : ExceptT ε (Prog M) β} {f : β → ExceptT ε (Prog M) α} (hp : p.run.Phased P C Q A' B')
    (hraise : ∀ error, A (.error error)) (hraise' : ∀ error, B (.error error))
    (hf : ∀ value, A' (.ok value) → (f value).run.Phased P C Q A B)
    (hafter : ∀ value, B' (.ok value) →
      (f value).run.All (fun _ => True) Q ∧ (f value).run.Returns B) :
    (p >>= f).run.Phased P C Q A B := by
  refine phased_bind hp (fun result hresult => ?_) fun result hresult => ?_
  · cases result with
    | ok value => exact hf value hresult
    | error error => exact hraise error
  · cases result with
    | ok value => exact hafter value hresult
    | error error => exact ⟨trivial, hraise' error⟩

/-- What precedes the write of `C`. -/
theorem phased_bindBefore {p : Prog M β} {f : β → Prog M α} (hp : p.All (fun _ => True) P)
    (hf : ∀ value, (f value).Phased P C Q A B) : (p >>= f).Phased P C Q A B := by
  induction p with
  | done value => exact hf value
  | ask query next ih => exact fun answer => ih answer (hp answer)
  | read next ih => exact fun s => ih s (hp s trivial)
  | write w next ih => exact .inl ⟨hp.1, fun result => ih result (hp.2 result)⟩

/-- What such a program returns anyway. -/
theorem phased_returns {R : α → Prop} {p : Prog M α} (hp : p.Phased P C Q A B)
    (hR : p.Returns R) :
    p.Phased P C Q (fun value => A value ∧ R value) fun value => B value ∧ R value := by
  have both : ∀ q : Prog M α, q.Returns B → q.Returns R →
      q.Returns fun value => B value ∧ R value := by
    intro q hB hR
    induction q with
    | done value => exact ⟨hB, hR⟩
    | ask query next ih => exact fun answer => ih answer (hB answer) (hR answer)
    | read next ih => exact fun s => ih s (hB s) (hR s)
    | write w next ih => exact fun result => ih result (hB result) (hR result)
  induction p with
  | done value => exact ⟨hp, hR⟩
  | ask query next ih => exact fun answer => ih answer (hp answer) (hR answer)
  | read next ih => exact fun s => ih s (hp s) (hR s)
  | write w next ih =>
      rcases hp with ⟨hw, hnext⟩ | ⟨hw, hnext⟩
      · exact .inl ⟨hw, fun result => ih result (hnext result) (hR result)⟩
      · exact .inr ⟨hw, fun result => ⟨(hnext result).1, both _ (hnext result).2 (hR result)⟩⟩

/-- The same before a program that may raise. -/
theorem phased_bindExcept {A B : Except ε α → Prop} {p : ExceptT ε (Prog M) β}
    {f : β → ExceptT ε (Prog M) α} (hp : p.run.All (fun _ => True) P)
    (hraise : ∀ error, A (.error error)) (hf : ∀ value, (f value).run.Phased P C Q A B) :
    (p >>= f).run.Phased P C Q A B := by
  refine phased_bindBefore hp fun result => ?_
  cases result with
  | ok value => exact hf value
  | error error => exact hraise error

/-- A program that has written what `commits` says, and is now `p`. -/
inductive Phase (P C Q : M.Write → Prop) (A B : α → Prop) :
    List (M.Write × M.State) → Prog M α → Prop
  | before {commits : List (M.Write × M.State)} {p : Prog M α} (hcommits : ∀ c ∈ commits, P c.1)
      (h : p.Phased P C Q A B) : Phase P C Q A B commits p
  | after {before rest : List (M.Write × M.State)} {c : M.Write × M.State} {p : Prog M α}
      (hbefore : ∀ c ∈ before, P c.1) (hc : C c.1) (hrest : ∀ c ∈ rest, Q c.1)
      (h : p.All (fun _ => True) Q) : Phase P C Q A B (before ++ c :: rest) p

theorem Phase.advance {commits : List (M.Write × M.State)} {p : Prog M α}
    (h : Phase P C Q A B commits p) (answers : (q : M.Query) → M.Answer q) (t : M.State) :
    Phase P C Q A B (commits ++ (p.pending.map fun w => (w, t)).toList)
      (p.advance answers t).1 := by
  cases h with
  | before hcommits h =>
      cases p with
      | done value => exact (List.append_nil commits).symm ▸ .before hcommits h
      | ask query next => exact (List.append_nil commits).symm ▸ .before hcommits (h _)
      | read next => exact (List.append_nil commits).symm ▸ .before hcommits (h t)
      | write w next =>
          rcases h with ⟨hw, hnext⟩ | ⟨hw, hnext⟩
          · refine .before (fun c hc => ?_) (hnext _)
            rcases List.mem_append.mp hc with hc | hc
            · exact hcommits c hc
            · cases List.mem_singleton.mp hc
              exact hw
          · exact .after hcommits hw (fun _ hc => nomatch hc) (hnext _).1
  | @after before rest c p hbefore hc hrest h =>
      rw [List.append_assoc, List.cons_append]
      refine .after hbefore hc (fun c' hc' => ?_) ?_
      · rcases List.mem_append.mp hc' with hc' | hc'
        · exact hrest c' hc'
        · cases p with
          | write w next =>
              cases List.mem_singleton.mp hc'
              exact h.1
          | _ => cases hc'
      · cases p with
        | done value => exact h
        | ask query next => exact h _
        | read next => exact h t trivial
        | write w next => exact h.2 _

end Prog

/-- The commits of a session whose program is phased. -/
theorem Recorded.phased {P : List (Event S) → World S → Move S → Prop} {s : M.State}
    {history : List (Event S)} {world : World S} {sid : Nat} {entry : S.Entry}
    {W C Q : M.Write → Prop} {A B : S.Reply → Prop}
    (h : (S.program sid entry).Phased W C Q A B) (run : Recorded P s history world)
    (launched : Event.launched sid entry ∈ history) :
    (∀ c ∈ commitsOf sid history, W c.1) ∨ ∃ before c rest,
      commitsOf sid history = before ++ c :: rest ∧ (∀ c ∈ before, W c.1) ∧ C c.1 ∧
        ∀ c ∈ rest, Q c.1 := by
  obtain ⟨p, -, phase⟩ := run.tracks (I := fun commits p _ => Prog.Phase W C Q A B commits p)
    (fun _ _ => trivial) (fun _ => .before (fun _ hc => nomatch hc) h)
    (fun _ _ t answers _ h => h.advance answers t) (fun _ _ _ _ _ _ _ _ _ h => h) launched
  generalize commitsOf sid history = commits at phase ⊢
  cases phase with
  | before hcommits h => exact .inl hcommits
  | after hbefore hc hrest h => exact .inr ⟨_, _, _, rfl, hbefore, hc, hrest⟩

end Session
