import CrudScaffold.Proofs.Files.Actions

/-!
# Where double dots lead

The location that a path leads to is told by its steps alone: a double dot takes back the step
before it, at the root none (`Tree.resolved`). Steps that never take back more than they went lead,
from whatever location, to one below it (`walk_append`). Steps that do leave every location with a
name that is none of theirs (`notMem_walk`).
-/

namespace CrudScaffold

namespace Path

/-- The location behind a step: what holds the location for a double dot, the root for itself. -/
def go (here : Location) (step : String) : Location :=
  if step = ".." then here.dropLast else here ++ [step]

/-- The location behind steps. -/
def walk (here : Location) (steps : List String) : Location := steps.foldl go here

/-- Whether steps, taken so many steps below a location, never lead out of it. -/
def staysFrom (depth : Nat) : List String → Bool
  | [] => true
  | step :: steps =>
    if step = ".." then 0 < depth && staysFrom (depth - 1) steps else staysFrom (depth + 1) steps

/-- Whether a path from the working directory never leads out of it. -/
def staysBelow (path : Path) : Bool := path.root == .relative && staysFrom 0 path.steps

/-! ### Staying below -/

/-- A path stays if it starts at the working directory and its steps stay. -/
theorem staysBelow_iff {path : Path} :
    path.staysBelow = true ↔ path.root = .relative ∧ staysFrom 0 path.steps = true := by
  rw [staysBelow, Bool.and_eq_true, beq_iff_eq]

/-- A single step that leads on stays. -/
theorem staysFrom_singleton {step : String} (on : step ≠ "..") (depth : Nat) :
    staysFrom depth [step] = true := by
  rw [staysFrom, if_neg on, staysFrom]

/-- Further below there is more room. -/
theorem staysFrom_mono {depth deeper : Nat} {steps : List String}
    (stays : staysFrom depth steps = true) (less : depth ≤ deeper) :
    staysFrom deeper steps = true := by
  induction steps generalizing depth deeper with
  | nil => rfl
  | cons step steps ih =>
    unfold staysFrom at stays ⊢
    split at stays
    next back =>
      rw [Bool.and_eq_true, decide_eq_true_eq] at stays
      rw [if_pos back, Bool.and_eq_true, decide_eq_true_eq]
      exact ⟨Nat.lt_of_lt_of_le stays.1 less, ih stays.2 (Nat.sub_le_sub_right less 1)⟩
    next on =>
      rw [if_neg on]
      exact ih stays (Nat.succ_le_succ less)

/-- Steps that stay may follow steps that stay. -/
theorem staysFrom_append {depth : Nat} {front back : List String}
    (first : staysFrom depth front = true) (second : staysFrom 0 back = true) :
    staysFrom depth (front ++ back) = true := by
  induction front generalizing depth with
  | nil => exact staysFrom_mono second (Nat.zero_le _)
  | cons step front ih =>
    rw [List.cons_append]
    unfold staysFrom at first ⊢
    split at first
    next back =>
      rw [Bool.and_eq_true] at first
      rw [if_pos back, Bool.and_eq_true]
      exact ⟨first.1, ih first.2⟩
    next on =>
      rw [if_neg on]
      exact ih first

/-- The first of steps that stay do. -/
theorem staysFrom_of_append {depth : Nat} {front back : List String}
    (stays : staysFrom depth (front ++ back) = true) : staysFrom depth front = true := by
  induction front generalizing depth with
  | nil => rfl
  | cons step front ih =>
    rw [List.cons_append] at stays
    unfold staysFrom at stays ⊢
    split at stays
    next back =>
      rw [Bool.and_eq_true] at stays
      rw [if_pos back, Bool.and_eq_true]
      exact ⟨stays.1, ih stays.2⟩
    next on =>
      rw [if_neg on]
      exact ih stays

/-! ### Walking -/

/-- A last step that leads on is the last name of the location. -/
theorem walk_concat (here : Location) (front : List String) {last : String} (on : last ≠ "..") :
    walk here (front ++ [last]) = walk here front ++ [last] := by
  rw [walk, List.foldl_append, List.foldl_cons, List.foldl_nil, go, if_neg on, walk]

/-- Steps that stay lead to what they lead to from the outer location alone. -/
theorem walk_append {outer inner : Location} {steps : List String}
    (stays : staysFrom inner.length steps = true) :
    walk (outer ++ inner) steps = outer ++ walk inner steps := by
  induction steps generalizing inner with
  | nil => rfl
  | cons step steps ih =>
    change walk (go (outer ++ inner) step) steps = outer ++ walk (go inner step) steps
    unfold staysFrom at stays
    split at stays
    next back =>
      rw [Bool.and_eq_true, decide_eq_true_eq, List.length_pos_iff] at stays
      rw [go, if_pos back, go, if_pos back, List.dropLast_append_of_ne_nil stays.1]
      exact ih (by rw [List.length_dropLast]; exact stays.2)
    next on =>
      rw [go, if_neg on, go, if_neg on, List.append_assoc]
      exact ih (by rw [List.length_append]; exact stays)

/-- A location is made of names that were there and of steps. -/
theorem mem_walk {here : Location} {steps : List String} {name : String}
    (member : name ∈ walk here steps) : name ∈ here ∨ name ∈ steps := by
  induction steps generalizing here with
  | nil => exact .inl member
  | cons step steps ih =>
    rcases ih member with there | later
    · unfold go at there
      split at there
      · exact .inl ((List.dropLast_sublist here).mem there)
      · rcases List.mem_append.mp there with before | now
        · exact .inl before
        · exact .inr (List.mem_cons.mpr (.inl (List.mem_singleton.mp now)))
    · exact .inr (List.mem_cons_of_mem _ later)

/-- Steps that do not stay leave a location whose name is none of theirs for good. -/
theorem notMem_walk {name : String} {inner : Location} {steps : List String}
    (leaves : staysFrom inner.length steps = false) (other : name ∉ inner)
    (fresh : name ∉ steps) : name ∉ walk (name :: inner) steps := by
  induction steps generalizing inner with
  | nil => contradiction
  | cons step steps ih =>
    rw [List.mem_cons, not_or] at fresh
    change name ∉ walk (go (name :: inner) step) steps
    unfold staysFrom at leaves
    split at leaves
    next back =>
      rw [go, if_pos back]
      cases inner with
      | nil => exact fun member => (mem_walk member).elim List.not_mem_nil fresh.2
      | cons second inner =>
        rw [List.dropLast_cons_cons]
        refine ih ?_ (fun member => other ((List.dropLast_sublist _).mem member)) fresh.2
        rw [List.length_dropLast]
        simpa using leaves
    next on =>
      rw [go, if_neg on, List.cons_append]
      refine ih (by rw [List.length_append]; exact leaves) ?_ fresh.2
      rw [List.mem_append, List.mem_singleton, not_or]
      exact ⟨other, fresh.1⟩

end Path

/-! ### Locations -/

namespace Tree

/-- The location that the steps of a path lead to, whatever stands on the way. -/
def resolved (tree : Tree) (path : Path) : Location := Path.walk (tree.start path) path.steps

/-- The location is told by the working directory. -/
theorem resolved_eq_of_base {tree after : Tree} (base : after.base = tree.base) (path : Path) :
    after.resolved path = tree.resolved path := by
  rw [resolved, resolved, start, start, base]

/-- Steps that are followed lead to where they are walked. -/
theorem eq_walk_of_follow {tree : Tree} {here there : Location} {steps : List String}
    (followed : tree.follow here steps = .ok there) : there = Path.walk here steps := by
  induction steps generalizing here with
  | nil => exact (Except.ok.inj followed).symm
  | cons step steps ih =>
    change there = Path.walk (Path.go here step) steps
    unfold follow at followed
    split at followed
    · contradiction
    · contradiction
    · split at followed
      next back =>
        rw [Path.go, if_pos back]
        exact ih followed
      next on =>
        rw [Path.go, if_neg on]
        split at followed
        · contradiction
        · exact ih followed

/-- A path that leads somewhere leads where its steps say. -/
theorem eq_resolved_of_locate {tree : Tree} {path : Path} {location : Location}
    (located : tree.locate path = .ok location) : location = tree.resolved path :=
  eq_walk_of_follow (locate_eq_ok_iff.mp located).2

end Tree

end CrudScaffold
