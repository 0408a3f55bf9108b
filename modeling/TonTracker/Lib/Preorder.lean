/-
# `Lib.Preorder` — ordered trees, listed and walked from the root

A forest is listed in preorder, each node with its place, its parent and
its depth.  Two programs are measured against that listing.  A reader that
is given a list of nodes keeps the path to the last of them, cuts it at the
depth of the next one and asks that its parent be where the path ends: it
accepts exactly the listings of one tree (`accepts_iff`).  A walk that pops
a stack and pushes the children it finds does what the recursion does
(`stackWalk_eq`).
-/
import Mathlib.Data.List.Induction

namespace Preorder

variable {α κ σ ε : Type}

/-- The first tree's root, its children, and the trees after it. -/
inductive Forest (α : Type) where
  | nil
  | cons (root : α) (children siblings : Forest α)

/-- A node, where the listing has it, its parent and its depth. -/
structure Place (α : Type) where
  index : Nat
  label : α
  parent : Option (Nat × α)
  depth : Nat

namespace Forest

def size : Forest α → Nat
  | nil => 0
  | cons _ children siblings => 1 + children.size + siblings.size

/-- The listing of trees below one parent, from a place on. -/
def listing (index : Nat) (parent : Option (Nat × α)) (depth : Nat) : Forest α → List (Place α)
  | nil => []
  | cons root children siblings =>
      ⟨index, root, parent, depth⟩ ::
        (children.listing (index + 1) (some (index, root)) (depth + 1) ++
          siblings.listing (index + 1 + children.size) parent depth)

/-- The forest with one more tree at its end. -/
def snoc : Forest α → α → Forest α → Forest α
  | nil, root, children => cons root children nil
  | cons root' children' siblings, root, children =>
      cons root' children' (siblings.snoc root children)

theorem size_snoc (trees : Forest α) (root : α) (children : Forest α) :
    (trees.snoc root children).size = trees.size + 1 + children.size := by
  induction trees with
  | nil => simp only [snoc, size]; omega
  | cons root' children' siblings _ ih => simp only [snoc, size, ih]; omega

theorem length_listing (index : Nat) (parent : Option (Nat × α)) (depth : Nat)
    (trees : Forest α) : (trees.listing index parent depth).length = trees.size := by
  induction trees generalizing index parent depth with
  | nil => rfl
  | cons root children siblings ihc ihs =>
      simp only [listing, size, List.length_cons, List.length_append, ihc, ihs]
      omega

theorem listing_snoc (index : Nat) (parent : Option (Nat × α)) (depth : Nat) (root : α)
    (trees children : Forest α) : (trees.snoc root children).listing index parent depth =
      trees.listing index parent depth ++ ⟨index + trees.size, root, parent, depth⟩ ::
        children.listing (index + trees.size + 1) (some (index + trees.size, root))
          (depth + 1) := by
  induction trees generalizing index with
  | nil => simp only [snoc, listing, size, Nat.add_zero, List.append_nil, List.nil_append]
  | cons root' children' siblings _ ih =>
      have place : index + 1 + children'.size + siblings.size =
          index + (1 + children'.size + siblings.size) := by omega
      simp only [snoc, listing, size, ih, List.cons_append, List.append_assoc, place]

/-- The indices count the listing. -/
theorem map_index_listing (index : Nat) (parent : Option (Nat × α)) (depth : Nat)
    (trees : Forest α) :
    (trees.listing index parent depth).map (·.index) = List.range' index trees.size := by
  induction trees generalizing index parent depth with
  | nil => rfl
  | cons root children siblings ihc ihs =>
      have size : 1 + children.size + siblings.size = children.size + siblings.size + 1 := by omega
      rw [listing, List.map_cons, List.map_append, ihc, ihs, Forest.size, size, List.range'_succ,
        ← List.range'_append_1]

end Forest

/-- A rooted tree. -/
structure Tree (α : Type) where
  root : α
  children : Forest α

namespace Tree

def forest (tree : Tree α) : Forest α := .cons tree.root tree.children .nil

def size (tree : Tree α) : Nat := tree.forest.size

/-- The listing of the tree. -/
def listing (tree : Tree α) : List (Place α) := tree.forest.listing 0 none 0

end Tree

/-! ## Listings -/

/-- What a listing shows of a place, whatever the indices. -/
def outline (place : Place α) : α × Nat := (place.label, place.depth)

/-- Siblings, and what follows them, are above the children before them. -/
theorem head_lt {siblings : Forest α} {index d : Nat} {parent : Option (Nat × α)}
    {rest : List (α × Nat)} (hrest : ∀ entry ∈ rest.head?, entry.2 < d) :
    ∀ entry ∈ ((siblings.listing index parent d).map outline ++ rest).head?, entry.2 < d + 1 := by
  intro entry hentry
  cases siblings with
  | nil => exact Nat.lt_succ_of_lt (hrest entry hentry)
  | cons root children siblings =>
      cases hentry
      exact Nat.lt_succ_self d

/-- Labels and depths determine the trees, and where they end. -/
theorem listing_inj {trees trees' : Forest α} {index index' d : Nat}
    {parent parent' : Option (Nat × α)} {rest rest' : List (α × Nat)}
    (hrest : ∀ entry ∈ rest.head?, entry.2 < d) (hrest' : ∀ entry ∈ rest'.head?, entry.2 < d)
    (h : (trees.listing index parent d).map outline ++ rest =
      (trees'.listing index' parent' d).map outline ++ rest') : trees = trees' ∧ rest = rest' := by
  induction trees generalizing trees' index index' d parent parent' rest rest' with
  | nil =>
      cases trees' with
      | nil => exact ⟨rfl, h⟩
      | cons root' children' siblings' =>
          have h : rest = _ := h
          exact absurd (hrest (root', d) (by rw [h]; rfl)) (Nat.lt_irrefl d)
  | cons root children siblings ihc ihs =>
      cases trees' with
      | nil =>
          have h : _ = rest' := h
          exact absurd (hrest' (root, d) (by rw [← h]; rfl)) (Nat.lt_irrefl d)
      | cons root' children' siblings' =>
          simp only [Forest.listing, List.map_cons, List.map_append, List.cons_append,
            List.append_assoc, List.cons.injEq] at h
          obtain ⟨hroot, hlists⟩ := h
          obtain ⟨rfl, hnext⟩ := ihc (head_lt hrest) (head_lt hrest') hlists
          obtain ⟨rfl, rfl⟩ := ihs hrest hrest' hnext
          exact ⟨congrArg (Forest.cons · children siblings) (congrArg Prod.fst hroot), rfl⟩

/-- The fields of a node are those of its place. -/
def Fits (key : α → κ) (parentKey : α → Option κ) (depth : α → Nat) (place : Place α) : Prop :=
  depth place.label = place.depth ∧ parentKey place.label = place.parent.map fun at' => key at'.2

/-- The tree lists the nodes, and their fields are those of their places. -/
def Lists (key : α → κ) (parentKey : α → Option κ) (depth : α → Nat) (tree : Tree α)
    (nodes : List α) : Prop :=
  tree.listing.map (·.label) = nodes ∧ ∀ place ∈ tree.listing, Fits key parentKey depth place

theorem Lists.unique {key : α → κ} {parentKey : α → Option κ} {depth : α → Nat}
    {tree tree' : Tree α} {nodes : List α}
    (h : Lists key parentKey depth tree nodes) (h' : Lists key parentKey depth tree' nodes) :
    tree = tree' := by
  have outlines : ∀ {tree : Tree α}, Lists key parentKey depth tree nodes →
      tree.listing.map outline = nodes.map fun a => (a, depth a) := by
    rintro tree ⟨rfl, hfits⟩
    rw [List.map_map]
    exact List.map_congr_left fun place hplace =>
      congrArg (Prod.mk place.label) (hfits place hplace).1.symm
  have hmap : tree.listing.map outline ++ [] = tree'.listing.map outline ++ [] := by
    rw [outlines h, outlines h']
  have heq := (listing_inj (by simp) (by simp) hmap).1
  obtain ⟨root, children⟩ := tree
  obtain ⟨root', children'⟩ := tree'
  have heq : Forest.cons root children .nil = .cons root' children' .nil := heq
  cases heq
  rfl

/-! ## The reader -/

section Reader

variable [DecidableEq κ] (key : α → κ) (parentKey : α → Option κ) (depth : α → Nat)

/-- The path to the last node, after one more node; `none` refuses it. -/
def extend (path : List α) (a : α) : Option (List α) :=
  if path = [] then
    if parentKey a = none ∧ depth a = 0 then some [a] else none
  else if 1 ≤ depth a ∧ depth a ≤ path.length ∧
      (path[depth a - 1]?).map key = parentKey a then
    some (path.take (depth a) ++ [a])
  else none

variable {key parentKey depth}

/-- Nodes, each the last child of the one before it, down from the last tree
of a forest that is listed from a place on. -/
inductive LastPath : Nat → Forest α → List (Nat × α) → Prop
  | here (index : Nat) (trees : Forest α) : LastPath index trees []
  | down {index : Nat} {trees children : Forest α} {root : α} {path : List (Nat × α)}
      (h : LastPath (index + trees.size + 1) children path) :
      LastPath index (trees.snoc root children) ((index + trees.size, root) :: path)

theorem LastPath.take {index : Nat} {trees : Forest α} {path : List (Nat × α)}
    (h : LastPath index trees path) (n : Nat) : LastPath index trees (path.take n) := by
  induction h generalizing n with
  | here index trees =>
      rw [List.take_nil]
      exact .here index trees
  | down _ ih =>
      cases n with
      | zero => exact .here _ _
      | succ n => exact .down (ih n)

/-- A node below the end of such a path is listed last. -/
theorem LastPath.graft {index : Nat} {trees : Forest α} {path : List (Nat × α)}
    (h : LastPath index trees path) (a : α) : ∃ trees',
      LastPath index trees' (path ++ [(index + trees.size, a)]) ∧
      ∀ parent depth, trees'.listing index parent depth = trees.listing index parent depth ++
        [⟨index + trees.size, a, path.getLast?.or parent, depth + path.length⟩] := by
  induction h with
  | here index trees =>
      refine ⟨trees.snoc a .nil, .down (.here _ _), fun parent depth => ?_⟩
      rw [Forest.listing_snoc]
      rfl
  | @down index trees children root path h ih =>
      obtain ⟨children', hpath, hlisting⟩ := ih
      have hindex : index + (trees.snoc root children).size =
          index + trees.size + 1 + children.size := by
        rw [Forest.size_snoc]
        omega
      refine ⟨trees.snoc root children', ?_, fun parent depth => ?_⟩
      · rw [hindex]
        exact .down hpath
      · have hlast : ((index + trees.size, root) :: path).getLast?.or parent =
            path.getLast?.or (some (index + trees.size, root)) := by
          cases path using List.reverseRecOn with
          | nil => rfl
          | append_singleton path last =>
              rw [← List.cons_append, List.getLast?_concat, List.getLast?_concat]
              rfl
        rw [Forest.listing_snoc, Forest.listing_snoc, hlisting, hindex, hlast, List.length_cons,
          List.append_assoc, List.cons_append, Nat.add_assoc depth, Nat.add_comm 1]

/-- What is read is the listing of a tree whose last path is open. -/
theorem lists_of_accepts {nodes path : List α}
    (h : nodes.foldlM (extend key parentKey depth) [] = some path) :
    (nodes = [] ∧ path = []) ∨ ∃ (tree : Tree α) (below : List (Nat × α)),
      path = tree.root :: below.map (·.2) ∧ LastPath 1 tree.children below ∧
        Lists key parentKey depth tree nodes := by
  induction nodes using List.reverseRecOn generalizing path with
  | nil => exact .inl ⟨rfl, (Option.some.inj h).symm⟩
  | append_singleton nodes a ih =>
      rw [List.foldlM_append] at h
      obtain ⟨before, hbefore, h⟩ := Option.bind_eq_some_iff.mp h
      rw [List.foldlM_cons] at h
      obtain ⟨after, hafter, h⟩ := Option.bind_eq_some_iff.mp h
      cases h
      refine .inr ?_
      rcases ih hbefore with ⟨rfl, rfl⟩ | ⟨tree, below, rfl, hopen, hlabels, hfits⟩
      · rw [extend, if_pos rfl] at hafter
        obtain ⟨⟨hparent, hdepth⟩, hpath⟩ := Option.ite_none_right_eq_some.mp hafter
        cases hpath
        refine ⟨⟨a, .nil⟩, [], rfl, .here _ _, rfl, fun place hplace => ?_⟩
        cases List.mem_singleton.mp hplace
        exact ⟨hdepth, hparent⟩
      · rw [extend, if_neg (List.cons_ne_nil _ _)] at hafter
        obtain ⟨⟨hpos, hle, hkey⟩, hpath⟩ := Option.ite_none_right_eq_some.mp hafter
        cases hpath
        obtain ⟨d, hd⟩ : ∃ d, depth a = d + 1 := ⟨depth a - 1, by omega⟩
        rw [hd] at hle hkey ⊢
        obtain ⟨children, hgraft, hlisting⟩ := (hopen.take d).graft a
        have hlength : (below.take d).length = d := by
          rw [List.length_take]
          rw [List.length_cons, List.length_map] at hle
          omega
        have hchildren : (⟨tree.root, children⟩ : Tree α).listing = tree.listing ++
            [⟨1 + tree.children.size, a, (below.take d).getLast?.or (some (0, tree.root)),
              1 + (below.take d).length⟩] := by
          simp only [Tree.listing, Tree.forest, Forest.listing, List.append_nil, Nat.zero_add,
            hlisting, List.cons_append]
        refine ⟨⟨tree.root, children⟩, _, ?_, hgraft, ?_, ?_⟩
        · rw [List.take_succ_cons, List.cons_append, List.map_append, List.map_take]
          rfl
        · rw [hchildren, List.map_append, hlabels]
          rfl
        · intro place hplace
          rw [hchildren] at hplace
          rcases List.mem_append.mp hplace with hplace | hplace
          · exact hfits place hplace
          · cases List.mem_singleton.mp hplace
            refine ⟨by rw [hd, hlength, Nat.add_comm], ?_⟩
            rw [← hkey, Nat.add_sub_cancel]
            cases d with
            | zero => rfl
            | succ d =>
                rw [List.length_cons, List.length_map] at hle
                have hlt : d < below.length := by omega
                rw [List.getElem?_cons_succ, List.getElem?_map, List.getElem?_eq_getElem hlt,
                  List.getLast?_take, if_neg (Nat.succ_ne_zero d), Nat.add_sub_cancel,
                  List.getElem?_eq_getElem hlt]
                rfl

/-- Trees below the end of a path are read, and leave the path there. -/
theorem accepts_listing {trees : Forest α} {index d : Nat} {parent : Option (Nat × α)}
    {path : List α} (hfits : ∀ place ∈ trees.listing index parent d, Fits key parentKey depth place)
    (hpos : 1 ≤ d) (hle : d ≤ path.length)
    (hparent : (path[d - 1]?).map key = parent.map fun at' => key at'.2) :
    ∃ path', ((trees.listing index parent d).map (·.label)).foldlM (extend key parentKey depth)
        path = some path' ∧ d ≤ path'.length ∧ path'.take d = path.take d := by
  induction trees generalizing index d parent path with
  | nil => exact ⟨path, rfl, hle, rfl⟩
  | cons root children siblings ihc ihs =>
      rw [Forest.listing, List.forall_mem_cons, List.forall_mem_append] at hfits
      obtain ⟨⟨hdepth, hkey⟩, hchildren, hsiblings⟩ := hfits
      have hdepth : depth root = d := hdepth
      have hkey : parentKey root = parent.map fun at' => key at'.2 := hkey
      have hstep : extend key parentKey depth path root = some (path.take d ++ [root]) := by
        have hne : path ≠ [] := List.ne_nil_of_length_pos (Nat.lt_of_lt_of_le hpos hle)
        rw [extend, if_neg hne, if_pos ⟨hdepth ▸ hpos, hdepth ▸ hle, by rw [hdepth, hparent, hkey]⟩,
          hdepth]
      have hlength : (path.take d).length = d := List.length_take_of_le hle
      obtain ⟨below, hbelow, hble, hbtake⟩ := @ihc _ _ _ (path.take d ++ [root]) hchildren
        (Nat.succ_pos d) (by rw [List.length_append, hlength]; exact Nat.le_refl _) (by
          rw [Nat.add_sub_cancel, List.getElem?_append_right (Nat.le_of_eq hlength), hlength,
            Nat.sub_self]
          rfl)
      -- the children leave what is above them
      have htake : below.take d = path.take d := by
        have := congrArg (List.take d) hbtake
        rw [List.take_take, List.take_take, Nat.min_eq_left (Nat.le_succ d),
          List.take_append_of_le_length (Nat.le_of_eq hlength.symm), List.take_take,
          Nat.min_self] at this
        exact this
      have hbparent : (below[d - 1]?).map key = parent.map fun at' => key at'.2 := by
        have hlt : d - 1 < d := by omega
        rw [← hparent, ← List.getElem?_take_of_lt hlt, htake, List.getElem?_take_of_lt hlt]
      obtain ⟨last, hlast, hlle, hltake⟩ := @ihs _ _ _ below hsiblings hpos
        (Nat.le_of_succ_le hble) hbparent
      refine ⟨last, ?_, hlle, hltake.trans htake⟩
      rw [Forest.listing, List.map_cons, List.foldlM_cons, hstep, List.map_append]
      show List.foldlM _ _ (_ ++ _) = _
      rw [List.foldlM_append, hbelow]
      exact hlast

/-- The reader accepts exactly the listings of one tree. -/
theorem accepts_iff {nodes : List α} :
    (nodes ≠ [] ∧ ∃ path, nodes.foldlM (extend key parentKey depth) [] = some path) ↔
      ∃! tree : Tree α, Lists key parentKey depth tree nodes := by
  constructor
  · rintro ⟨hne, path, h⟩
    rcases lists_of_accepts h with ⟨hnil, -⟩ | ⟨tree, -, -, -, hlists⟩
    · exact absurd hnil hne
    · exact ⟨tree, hlists, fun tree' h' => Lists.unique h' hlists⟩
  · rintro ⟨tree, ⟨rfl, hfits⟩, -⟩
    have hlisting : tree.listing = ⟨0, tree.root, none, 0⟩ ::
        tree.children.listing 1 (some (0, tree.root)) 1 := by
      simp only [Tree.listing, Tree.forest, Forest.listing, List.append_nil, Nat.zero_add]
    rw [hlisting] at hfits ⊢
    obtain ⟨⟨hdepth, hkey⟩, hchildren⟩ := List.forall_mem_cons.mp hfits
    have hstep : extend key parentKey depth [] tree.root = some [tree.root] := by
      rw [extend, if_pos rfl]
      exact if_pos ⟨hkey, hdepth⟩
    obtain ⟨path, hpath, -⟩ := @accepts_listing _ _ _ _ _ _ _ _ _ _ [tree.root] hchildren
      (Nat.le_refl 1) (Nat.le_refl 1) rfl
    refine ⟨List.cons_ne_nil _ _, path, ?_⟩
    rw [List.map_cons, List.foldlM_cons, hstep]
    exact hpath

end Reader

/-! ## The walk -/

section Walk

variable {ν γ : Type}

/-- `while stack`: a round takes the top of the stack, on which it leaves the
children it finds; it may ask how much of the stack is left. -/
def stackWalk (round : Nat → σ → ν → Except ε (σ × List ν)) (exhausted : ε) :
    Nat → List ν → σ → Except ε σ
  | _, [], s => .ok s
  | 0, _ :: _, _ => .error exhausted
  | fuel + 1, entry :: stack, s =>
      match round stack.length s entry with
      | .error raised => .error raised
      | .ok (s, children) => stackWalk round exhausted fuel (children ++ stack) s

/-- The recursion: a node, then its children, then what follows it. -/
def Forest.walk (visit : σ → ν → γ → Except ε (σ × γ)) : Forest ν → γ → σ → Except ε σ
  | .nil, _, s => .ok s
  | .cons root children siblings, context, s =>
      match visit s root context with
      | .error raised => .error raised
      | .ok (s, below) =>
          match children.walk visit below s with
          | .error raised => .error raised
          | .ok s => siblings.walk visit context s

/-- The forest of these nodes and of all that is below them. -/
def Unfolds (childrenOf : ν → Option (List ν)) : List ν → Forest ν → Prop
  | [], .nil => True
  | node :: nodes, .cons root children siblings =>
      node = root ∧ (∃ found, childrenOf node = some found ∧ Unfolds childrenOf found children) ∧
        Unfolds childrenOf nodes siblings
  | _, _ => False

variable {childrenOf : ν → Option (List ν)}

theorem Unfolds.append {nodes nodes' : List ν} {trees : Forest ν}
    (h : Unfolds childrenOf (nodes ++ nodes') trees) : ∃ first second : Forest ν,
      Unfolds childrenOf nodes first ∧ Unfolds childrenOf nodes' second ∧
        first.size + second.size = trees.size := by
  induction nodes generalizing trees with
  | nil => exact ⟨.nil, trees, trivial, h, Nat.zero_add _⟩
  | cons node nodes ih =>
      cases trees with
      | nil => exact h.elim
      | cons root children siblings =>
          obtain ⟨hroot, hchildren, hrest⟩ := h
          obtain ⟨first, second, hfirst, hsecond, hsize⟩ := ih hrest
          refine ⟨.cons root children first, second, ⟨hroot, hchildren, hfirst⟩, hsecond, ?_⟩
          simp only [Forest.size]
          omega

/-- What a walk that returns has visited is a forest, of no more nodes than
it had rounds. -/
theorem unfolds_of_stackWalk {round : Nat → σ → ν → Except ε (σ × List ν)} {exhausted : ε}
    (hround : ∀ left s node s' children, round left s node = .ok (s', children) →
      childrenOf node = some children) {fuel : Nat} {stack : List ν} {s s' : σ}
    (h : stackWalk round exhausted fuel stack s = .ok s') :
    ∃ trees, Unfolds childrenOf stack trees ∧ trees.size ≤ fuel := by
  induction fuel generalizing stack s with
  | zero =>
      cases stack with
      | nil => exact ⟨.nil, trivial, Nat.le_refl 0⟩
      | cons entry stack => cases h
  | succ fuel ih =>
      cases stack with
      | nil => exact ⟨.nil, trivial, Nat.zero_le _⟩
      | cons entry stack =>
          rw [stackWalk] at h
          split at h
          · cases h
          case h_2 next children hnext =>
            obtain ⟨trees, hunfolds, hsize⟩ := ih h
            obtain ⟨below, siblings, hbelow, hsiblings, htotal⟩ := hunfolds.append
            refine ⟨.cons entry below siblings,
              ⟨rfl, ⟨children, hround _ _ _ _ _ hnext, hbelow⟩, hsiblings⟩, ?_⟩
            simp only [Forest.size]
            omega

/-- A walk whose rounds visit a node in the context of its parent is the
recursion. -/
theorem stackWalk_eq {round : Nat → σ → ν × γ → Except ε (σ × List (ν × γ))} {exhausted : ε}
    {visit : σ → ν → γ → Except ε (σ × γ)}
    (hround : ∀ left s node context children, childrenOf node = some children →
      round left s (node, context) =
        (visit s node context).map fun next => (next.1, children.map (·, next.2)))
    {trees : Forest ν} {nodes : List ν} (h : Unfolds childrenOf nodes trees) {fuel : Nat}
    (hfuel : trees.size ≤ fuel) (context : γ) (stack : List (ν × γ)) (s : σ) :
    stackWalk round exhausted fuel (nodes.map (·, context) ++ stack) s =
      match trees.walk visit context s with
      | .error raised => .error raised
      | .ok s => stackWalk round exhausted (fuel - trees.size) stack s := by
  induction trees generalizing nodes fuel context stack s with
  | nil =>
      cases nodes with
      | nil => rfl
      | cons node nodes => exact h.elim
  | cons root children siblings ihc ihs =>
      cases nodes with
      | nil => exact h.elim
      | cons node nodes =>
          obtain ⟨rfl, ⟨found, hfound, hbelow⟩, hsiblings⟩ := h
          rw [Forest.size] at hfuel ⊢
          obtain ⟨fuel, rfl⟩ : ∃ n, fuel = n + 1 := ⟨fuel - 1, by omega⟩
          rw [List.map_cons, List.cons_append, stackWalk, hround _ _ _ _ _ hfound, Forest.walk]
          cases visit s node context with
          | error raised => rfl
          | ok next =>
              simp only [Except.map]
              rw [ihc hbelow (by omega)]
              cases children.walk visit next.2 next.1 with
              | error raised => rfl
              | ok after =>
                  simp only
                  rw [ihs hsiblings (by omega)]
                  have left : fuel - children.size - siblings.size =
                      fuel + 1 - (1 + children.size + siblings.size) := by omega
                  rw [left]

end Walk

end Preorder
