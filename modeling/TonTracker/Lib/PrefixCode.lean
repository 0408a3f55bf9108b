/-
# `Lib.PrefixCode` — codes that are told apart by what follows them

A code need not be prefix free to be read: it is enough that it can be told
apart where a delimiter follows, or nothing (`Told`).  Runs of other
characters are such codes (`run_inj`), and so is a separated list of them up
to its closing bracket (`joined_inj`).
-/
import Mathlib.Data.List.Basic

namespace PrefixCode

variable {α β : Type} {delimiter : α → Prop} {good : β → Prop} {code : β → List α}

/-- Nothing is left, or a delimiter comes next. -/
def Ends (delimiter : α → Prop) (rest : List α) : Prop := ∀ c ∈ rest.head?, delimiter c

theorem ends_nil : Ends delimiter [] := fun _ h => nomatch h

theorem ends_cons {c : α} {rest : List α} (h : delimiter c) : Ends delimiter (c :: rest) := by
  intro d hd
  rw [List.head?_cons, Option.mem_some_iff] at hd
  exact hd ▸ h

/-- Where it ends, the code of `v` is that of no other value. -/
def Told (delimiter : α → Prop) (good : β → Prop) (code : β → List α) (v : β) : Prop :=
  ∀ v' rest rest', good v' → Ends delimiter rest → Ends delimiter rest' →
    code v ++ rest = code v' ++ rest' → v = v' ∧ rest = rest'

/-- A run of characters up to the first delimiter. -/
theorem run_inj {run run' rest rest' : List α} (hrun : ∀ c ∈ run, ¬ delimiter c)
    (hrun' : ∀ c ∈ run', ¬ delimiter c) (hrest : Ends delimiter rest)
    (hrest' : Ends delimiter rest') (h : run ++ rest = run' ++ rest') :
    run = run' ∧ rest = rest' := by
  induction run generalizing run' with
  | nil =>
      cases run' with
      | nil => exact ⟨rfl, h⟩
      | cons c run' =>
          cases h
          exact absurd (hrest c rfl) (hrun' c List.mem_cons_self)
  | cons c run ih =>
      cases run' with
      | nil =>
          cases h
          exact absurd (hrest' c rfl) (hrun c List.mem_cons_self)
      | cons c' run' =>
          obtain ⟨rfl, htail⟩ := List.cons.inj h
          obtain ⟨rfl, hsame⟩ := ih (fun d hd => hrun d (List.mem_cons_of_mem _ hd))
            (fun d hd => hrun' d (List.mem_cons_of_mem _ hd)) htail
          exact ⟨rfl, hsame⟩

/-! ## Separated lists -/

variable {comma close : α}

/-- Texts with a separator between them. -/
def joined (comma : α) : List (List α) → List α
  | [] => []
  | [text] => text
  | text :: texts => text ++ comma :: joined comma texts

/-- What follows the first text. -/
def joinedTail (comma : α) (texts : List (List α)) : List α :=
  if texts = [] then [] else comma :: joined comma texts

theorem joined_cons (text : List α) (texts : List (List α)) :
    joined comma (text :: texts) = text ++ joinedTail comma texts := by
  cases texts with
  | nil => exact (List.append_nil text).symm
  | cons next texts => rfl

theorem ends_joinedTail (hcomma : delimiter comma) (hclose : delimiter close)
    (texts : List (List α)) (rest : List α) :
    Ends delimiter (joinedTail comma texts ++ close :: rest) := by
  unfold joinedTail
  split
  · exact ends_cons hclose
  · exact ends_cons hcomma

theorem mem_joined {c : α} {texts : List (List α)} (h : c ∈ joined comma texts) :
    c = comma ∨ ∃ text ∈ texts, c ∈ text := by
  induction texts with
  | nil => cases h
  | cons text texts ih =>
      rw [joined_cons, joinedTail] at h
      rcases List.mem_append.mp h with h | h
      · exact .inr ⟨text, List.mem_cons_self, h⟩
      · split at h
        · cases h
        · rcases List.mem_cons.mp h with rfl | h
          · exact .inl rfl
          · exact (ih h).imp_right fun ⟨later, hmem, hc⟩ => ⟨later, List.mem_cons_of_mem _ hmem, hc⟩

/-- A separated list ends at its bracket, and its items are told apart. -/
theorem joined_inj (hcomma : delimiter comma) (hclose : delimiter close) (hne : comma ≠ close)
    (starts : ∀ v, good v → ∃ c text, code v = c :: text ∧ c ≠ close) {vs vs' : List β}
    (hvs : ∀ v ∈ vs, good v ∧ Told delimiter good code v) (hvs' : ∀ v ∈ vs', good v)
    {rest rest' : List α}
    (h : joined comma (vs.map code) ++ close :: rest =
      joined comma (vs'.map code) ++ close :: rest') : vs = vs' ∧ rest = rest' := by
  have empty : ∀ {v : β} {ws : List β} {rest rest' : List α}, good v →
      close :: rest ≠ joined comma ((v :: ws).map code) ++ close :: rest' := by
    intro v ws rest rest' hv heq
    obtain ⟨c, text, hcode, hc⟩ := starts v hv
    rw [List.map_cons, joined_cons, hcode] at heq
    exact hc (List.cons.inj heq).1.symm
  induction vs generalizing vs' with
  | nil =>
      cases vs' with
      | nil => exact ⟨rfl, (List.cons.inj h).2⟩
      | cons v' vs' => exact absurd h (empty (hvs' v' List.mem_cons_self))
  | cons v vs ih =>
      cases vs' with
      | nil => exact absurd h.symm (empty (hvs v List.mem_cons_self).1)
      | cons v' vs' =>
          rw [List.map_cons, List.map_cons, joined_cons, joined_cons, List.append_assoc,
            List.append_assoc] at h
          obtain ⟨rfl, htail⟩ := (hvs v List.mem_cons_self).2 v' _ _ (hvs' v' List.mem_cons_self)
            (ends_joinedTail hcomma hclose _ _) (ends_joinedTail hcomma hclose _ _) h
          have hrest : vs = vs' ∧ rest = rest' := by
            cases vs with
            | nil =>
                cases vs' with
                | nil => exact ⟨rfl, (List.cons.inj htail).2⟩
                | cons w' vs' => exact absurd (List.cons.inj htail).1.symm hne
            | cons w vs =>
                cases vs' with
                | nil => exact absurd (List.cons.inj htail).1 hne
                | cons w' vs' =>
                    exact ih (fun u hu => hvs u (List.mem_cons_of_mem _ hu))
                      (fun u hu => hvs' u (List.mem_cons_of_mem _ hu)) (List.cons.inj htail).2
          exact ⟨by rw [hrest.1], hrest.2⟩

end PrefixCode
