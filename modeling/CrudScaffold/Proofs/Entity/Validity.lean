import CrudScaffold.Entity.Validity
import Mathlib.Data.List.Nodup

/-!
# What is found wrong with entities

The repetitions among names are reported in one of two orders, that of the second places or that of
the first ones. Both are rows of names that stand somewhere for the time of a number (`namesAt`), so
what is listed, and in which order, is proved once. With it the two lists of violations are told
from the entities alone (`violations_decided`): when they are empty, what they name, and that the
order of a batch does not decide whether anything is wrong with it.
-/

namespace CrudScaffold

/-! ### Places of names -/

/-- A name stands at a position, and a number of times before it. -/
def StandsAt (names : List String) (times position : Nat) (name : String) : Prop :=
  names[position]? = some name ∧ (names.take position).count name = times

/-- A name stands at a position, and a number of times before it, and another name does so at a
later position. -/
def StandsEarlier (names : List String) (times : Nat) (first second : String) : Prop :=
  ∃ earlier later, earlier < later ∧ StandsAt names times earlier first ∧
    StandsAt names times later second

/-- The names that stand at a position of a list and a number of times before it, in order. What
stands in front of the list is given as `before`. -/
def namesAt (times : Nat) (before : List String) : List String → List String
  | [] => []
  | name :: rest =>
    if before.count name = times then name :: namesAt times (before ++ [name]) rest
    else namesAt times (before ++ [name]) rest

section

variable {times : Nat} {before names : List String}

/-- These names have stood so often in front of the list or less often, and more often at its end. -/
theorem mem_namesAt {name : String} : name ∈ namesAt times before names ↔
    before.count name ≤ times ∧ times < (before ++ names).count name := by
  induction names generalizing before with
  | nil =>
    simp only [namesAt, List.append_nil, List.not_mem_nil, false_iff]
    omega
  | cons first rest ih =>
    have row : before ++ first :: rest = (before ++ [first]) ++ rest := by simp
    have step : (before ++ [first]).count name = before.count name + [first].count name :=
      List.count_append
    have more : (before ++ [first]).count name ≤ (before ++ [first] ++ rest).count name :=
      (List.sublist_append_left _ _).count_le name
    rw [row, namesAt]
    by_cases same : first = name
    · subst same
      rw [List.count_singleton_self] at step
      split
      next here =>
        simp only [List.mem_cons, true_or, true_iff]
        omega
      next other =>
        rw [ih]
        omega
    · have zero : [first].count name = 0 := List.count_eq_zero.mpr (by simpa using Ne.symm same)
      split
      · rw [List.mem_cons, or_iff_right (Ne.symm same), ih]
        omega
      · rw [ih]
        omega

/-- Each of these names stands in the list at such a position. -/
theorem exists_position {name : String} (member : name ∈ namesAt times before names) :
    ∃ position, before.length ≤ position ∧ StandsAt (before ++ names) times position name := by
  induction names generalizing before with
  | nil => exact absurd member List.not_mem_nil
  | cons first rest ih =>
    have row : before ++ first :: rest = (before ++ [first]) ++ rest := by simp
    have later (inside : name ∈ namesAt times (before ++ [first]) rest) :
        ∃ position, before.length < position ∧
          StandsAt (before ++ first :: rest) times position name := by
      obtain ⟨position, behind, stands⟩ := ih inside
      rw [List.length_append, List.length_singleton] at behind
      exact ⟨position, behind, row ▸ stands⟩
    rw [namesAt] at member
    split at member
    next here =>
      rcases List.mem_cons.mp member with rfl | inside
      · exact ⟨before.length, Nat.le_refl _, by simp, by rw [List.take_left, here]⟩
      · obtain ⟨position, behind, stands⟩ := later inside
        exact ⟨position, Nat.le_of_lt behind, stands⟩
    next other =>
      obtain ⟨position, behind, stands⟩ := later member
      exact ⟨position, Nat.le_of_lt behind, stands⟩

/-- These names come in the order of such positions. -/
theorem pairwise_namesAt :
    (namesAt times before names).Pairwise (StandsEarlier (before ++ names) times) := by
  induction names generalizing before with
  | nil => exact List.Pairwise.nil
  | cons name rest ih =>
    have row : before ++ name :: rest = (before ++ [name]) ++ rest := by simp
    have others := @ih (before ++ [name])
    rw [← row] at others
    rw [namesAt]
    split
    next here =>
      refine List.pairwise_cons.mpr ⟨fun second member => ?_, others⟩
      obtain ⟨later, behind, stands⟩ := exists_position member
      rw [List.length_append, List.length_singleton] at behind
      exact ⟨before.length, later, behind, ⟨by simp, by rw [List.take_left, here]⟩, row ▸ stands⟩
    next other => exact others

/-- None of these names comes twice. -/
theorem nodup_namesAt : (namesAt times before names).Nodup := by
  induction names generalizing before with
  | nil => exact List.nodup_nil
  | cons name rest ih =>
    rw [namesAt]
    split
    next here =>
      refine List.nodup_cons.mpr ⟨fun again => ?_, ih⟩
      -- behind the first of them the name has stood too often
      have few := (mem_namesAt.mp again).1
      rw [List.count_append, List.count_singleton_self] at few
      omega
    next other => exact ih

/-- The repetitions are the names at their second places. -/
theorem repetitionsAfter_eq {seen repeated : List String}
    (known : ∀ name, name ∈ seen ↔ name ∈ before)
    (twice : ∀ name, name ∈ repeated ↔ 2 ≤ before.count name) :
    repetitionsAfter seen repeated names = namesAt 1 before names := by
  induction names generalizing before seen repeated with
  | nil => rfl
  | cons name rest ih =>
    have longer : ∀ other, other ∈ name :: seen ↔ other ∈ before ++ [name] := by
      intro other
      simp [known, or_comm]
    have count (other : String) : (before ++ [name]).count other =
        before.count other + if name = other then 1 else 0 := by
      rw [List.count_append, List.count_singleton, beq_eq_decide]
      simp
    have once : (seen.contains name && !repeated.contains name) = true ↔
        before.count name = 1 := by
      have there : name ∈ before ↔ 0 < before.count name := List.count_pos_iff.symm
      simp only [Bool.and_eq_true, List.contains_iff_mem, Bool.not_eq_true', known, there,
        Bool.eq_false_iff, ne_eq, twice]
      omega
    rw [repetitionsAfter, namesAt]
    by_cases second : before.count name = 1
    · rw [if_pos (once.mpr second), if_pos second, ih longer]
      intro other
      rw [List.mem_cons, twice, count]
      by_cases same : name = other
      · subst same
        simp [second]
      · simp [same, Ne.symm same]
    · rw [if_neg fun found => second (once.mp found), if_neg second, ih longer]
      intro other
      rw [twice, count]
      split
      next same =>
        subst same
        omega
      next => rfl

/-- Names without those that came before are the names at their first places. -/
theorem eraseDups_eq : (names.filter (· ∉ before)).eraseDups = namesAt 0 before names := by
  induction names generalizing before with
  | nil => rfl
  | cons name rest ih =>
    have rows := @ih (before ++ [name])
    rw [namesAt]
    by_cases there : name ∈ before
    · have same : rest.filter (· ∉ before ++ [name]) = rest.filter (· ∉ before) := by
        refine List.filter_congr fun other _ => ?_
        by_cases equal : other = name <;> simp [equal, there]
      rw [if_neg (by simpa [List.count_eq_zero] using there), List.filter_cons_of_neg (by simpa),
        ← rows, same]
    · have less : (rest.filter (· ∉ before)).filter (fun other => !other == name) =
          rest.filter (· ∉ before ++ [name]) := by
        rw [List.filter_filter]
        refine List.filter_congr fun other _ => ?_
        by_cases equal : other = name <;> simp [equal]
      rw [if_pos (List.count_eq_zero.mpr there), List.filter_cons_of_pos (by simpa),
        List.eraseDups_cons, less, rows]

end

/-! ### Repetitions -/

/-- A list names what is repeated among names: each name that occurs more than once is listed once,
and they are listed in the order of the positions at which they have occurred a number of times
before. -/
structure ListsRepetitions (times : Nat) (names listed : List String) : Prop where
  /-- It lists the names that occur more than once, and no others. -/
  mem_iff : ∀ name, name ∈ listed ↔ 2 ≤ names.count name
  /-- It lists each of them once. -/
  nodup : listed.Nodup
  /-- They come in the order of those positions. -/
  ordered : listed.Pairwise (StandsEarlier names times)

/-- The repetitions are listed in the order of their second places. -/
theorem listsRepetitions_repetitions (names : List String) :
    ListsRepetitions 1 names (repetitions names) := by
  have same : repetitions names = namesAt 1 [] names :=
    repetitionsAfter_eq (fun _ => Iff.rfl) (by simp)
  rw [same]
  refine ⟨fun name => ?_, nodup_namesAt, @pairwise_namesAt 1 [] names⟩
  rw [mem_namesAt, List.count_nil, List.nil_append]
  omega

/-- The repeated names are listed in the order of their first places. -/
theorem listsRepetitions_repeatedNames (names : List String) :
    ListsRepetitions 0 names (repeatedNames names) := by
  have same : names.eraseDups = namesAt 0 [] names := by
    rw [← eraseDups_eq]
    simp
  unfold repeatedNames
  rw [same]
  refine ⟨fun name => ?_, nodup_namesAt.filter _, (@pairwise_namesAt 0 [] names).filter _⟩
  rw [List.mem_filter, mem_namesAt, List.count_nil, List.nil_append, decide_eq_true_eq]
  omega

/-- Nothing is repeated exactly if all names are different. -/
theorem ListsRepetitions.eq_nil_iff {times : Nat} {names listed : List String}
    (lists : ListsRepetitions times names listed) : listed = [] ↔ names.Nodup := by
  rw [List.eq_nil_iff_forall_not_mem, List.nodup_iff_count]
  refine forall_congr' fun name => ?_
  rw [lists.mem_iff]
  omega

/-- No name is listed as repeated exactly if all of them are different. -/
theorem repetitions_eq_nil_iff {names : List String} : repetitions names = [] ↔ names.Nodup :=
  (listsRepetitions_repetitions names).eq_nil_iff

/-- No name is repeated exactly if all of them are different. -/
theorem repeatedNames_eq_nil_iff {names : List String} :
    repeatedNames names = [] ↔ names.Nodup :=
  (listsRepetitions_repeatedNames names).eq_nil_iff

/-! ### One entity -/

/-- An entity has a field that identifies it exactly if a first one is found. -/
theorem Entity.idField?_isNone_iff {entity : Entity} :
    entity.idField?.isNone = true ↔ ¬ ∃ field ∈ entity.fields, field.isId = true := by
  simp [idField?]

/-- Nothing is wrong with an entity exactly if a field identifies it, its fields have different
names and its relationships have targets. -/
theorem Entity.violations_eq_nil_iff {entity : Entity} :
    entity.violations = [] ↔ (∃ field ∈ entity.fields, field.isId = true) ∧
      entity.fieldNames.Nodup ∧
      ∀ relationship ∈ entity.relationships, relationship.target ≠ "" := by
  unfold violations
  dsimp only
  rw [List.append_eq_nil_iff, List.append_eq_nil_iff, and_assoc, ← repetitions_eq_nil_iff,
    List.map_eq_nil_iff, List.filter_eq_nil_iff]
  refine and_congr ?_ (and_congr ?_ ?_)
  · by_cases identified : ∃ field ∈ entity.fields, field.isId = true
    · have found : ¬ entity.idField?.isNone = true := fun none =>
        idField?_isNone_iff.mp none identified
      simp only [if_neg found, identified]
    · have none : entity.idField?.isNone = true := idField?_isNone_iff.mpr identified
      simp [none, identified]
  · cases repetitions entity.fieldNames <;> simp
  · simp

/-- The messages for an entity: one if no field identifies it, one that lists what is repeated
among the names of the fields, and one for each relationship without a target. -/
theorem Entity.messages_eq (entity : Entity) :
    entity.violations.map Violation.message =
      (if ∃ field ∈ entity.fields, field.isId = true then []
        else ["Entity must have an ID field"]) ++
      (if repetitions entity.fieldNames = [] then []
        else ["Duplicate field names: " ++ ", ".intercalate (repetitions entity.fieldNames)]) ++
      (entity.relationships.filter (·.target = "")).map fun relationship =>
        "Relationship " ++ relationship.name ++ " has no target entity" := by
  unfold violations
  dsimp only
  rw [List.map_append, List.map_append, List.map_map]
  congr 1
  · congr 1
    · by_cases identified : ∃ field ∈ entity.fields, field.isId = true
      · have found : ¬ entity.idField?.isNone = true := fun none =>
          idField?_isNone_iff.mp none identified
        rw [if_neg found, if_pos identified]
        rfl
      · rw [if_pos (idField?_isNone_iff.mpr identified), if_neg identified]
        rfl
    · cases repetitions entity.fieldNames <;> rfl
  · have empty : entity.relationships.filter (·.target.isEmpty) =
        entity.relationships.filter (·.target = "") := by
      refine List.filter_congr fun relationship _ => ?_
      rw [Bool.eq_iff_iff]
      simp
    rw [empty]
    rfl

/-! ### Several entities -/

/-- Nothing is wrong between entities exactly if all their names are different and each relationship
with a target has one of them. -/
theorem referenceViolations_eq_nil_iff {batch : List Entity} :
    referenceViolations batch = [] ↔ (batch.map Entity.name).Nodup ∧
      ∀ entity ∈ batch, ∀ relationship ∈ entity.relationships,
        relationship.target.isEmpty = true ∨ relationship.target ∈ batch.map Entity.name := by
  rw [referenceViolations, List.append_eq_nil_iff, ← repeatedNames_eq_nil_iff,
    List.flatMap_eq_nil_iff]
  refine and_congr ?_ (forall₂_congr fun entity _ => ?_)
  · cases repeatedNames (batch.map Entity.name) <;> simp
  · rw [Entity.unknownTargets, List.map_eq_nil_iff, List.filter_eq_nil_iff]
    refine forall₂_congr fun relationship _ => ?_
    simp [or_iff_not_imp_left]

/-- Whether anything is wrong between entities does not depend on their order. -/
theorem referenceViolations_congr {batch shuffled : List Entity} (perm : batch.Perm shuffled) :
    referenceViolations batch = [] ↔ referenceViolations shuffled = [] := by
  have names := perm.map Entity.name
  simp only [referenceViolations_eq_nil_iff, names.nodup_iff, names.mem_iff, perm.mem_iff]

/-- The messages for a batch: one that lists what is repeated among the names of the entities, and
one for each relationship whose target is named but is no entity of the batch. -/
theorem referenceMessages_eq (batch : List Entity) :
    (referenceViolations batch).map ReferenceViolation.message =
      (if repeatedNames (batch.map Entity.name) = [] then []
        else ["Duplicate entity names: " ++
          ", ".intercalate (repeatedNames (batch.map Entity.name))]) ++
      batch.flatMap fun entity =>
        (entity.relationships.filter fun relationship =>
          relationship.target ≠ "" ∧ relationship.target ∉ batch.map Entity.name).map
            fun relationship => "Relationship " ++ entity.name ++ "." ++ relationship.name ++
              " targets unknown entity " ++ relationship.target := by
  unfold referenceViolations
  dsimp only
  rw [List.map_append, List.map_flatMap]
  congr 1
  · cases repeatedNames (batch.map Entity.name) <;> rfl
  · refine List.flatMap_congr fun entity _ => ?_
    rw [Entity.unknownTargets, List.map_map]
    congr 1
    refine List.filter_congr fun relationship _ => ?_
    rw [Bool.eq_iff_iff]
    simp

/-! ### Both lists -/

/-- What is found wrong, for every entity and for every batch. Nothing is wrong with an entity
exactly if a field identifies it, its field names are different and its relationships have targets;
the message about repeated names lists each of them once, in the order of their second places, and
there is a message for each relationship without a target, in order. Nothing is wrong between the
entities of a batch exactly if their names are different and each target that is named is one of
them, and this does not depend on the order of the batch; the message about repeated names lists
each of them once, in the order of their first places, and there is a message for each unknown
target, in the order of the batch. -/
theorem violations_decided :
    (∀ entity : Entity,
      (entity.violations.map Violation.message = [] ↔
        (∃ field ∈ entity.fields, field.isId = true) ∧ entity.fieldNames.Nodup ∧
          ∀ relationship ∈ entity.relationships, relationship.target ≠ "") ∧
      ∃ listed, ListsRepetitions 1 entity.fieldNames listed ∧
        entity.violations.map Violation.message =
          (if ∃ field ∈ entity.fields, field.isId = true then []
            else ["Entity must have an ID field"]) ++
          (if listed = [] then [] else ["Duplicate field names: " ++ ", ".intercalate listed]) ++
          (entity.relationships.filter (·.target = "")).map fun relationship =>
            "Relationship " ++ relationship.name ++ " has no target entity") ∧
    ∀ batch : List Entity,
      ((referenceViolations batch).map ReferenceViolation.message = [] ↔
        (batch.map Entity.name).Nodup ∧
          ∀ entity ∈ batch, ∀ relationship ∈ entity.relationships, relationship.target ≠ "" →
            ∃ other ∈ batch, other.name = relationship.target) ∧
      (∃ listed, ListsRepetitions 0 (batch.map Entity.name) listed ∧
        (referenceViolations batch).map ReferenceViolation.message =
          (if listed = [] then [] else ["Duplicate entity names: " ++ ", ".intercalate listed]) ++
          batch.flatMap fun entity =>
            (entity.relationships.filter fun relationship =>
              relationship.target ≠ "" ∧ relationship.target ∉ batch.map Entity.name).map
                fun relationship => "Relationship " ++ entity.name ++ "." ++ relationship.name ++
                  " targets unknown entity " ++ relationship.target) ∧
      ∀ shuffled, batch.Perm shuffled →
        ((referenceViolations batch).map ReferenceViolation.message = [] ↔
          (referenceViolations shuffled).map ReferenceViolation.message = []) := by
  constructor
  · intro entity
    refine ⟨?_, _, listsRepetitions_repetitions _, entity.messages_eq⟩
    rw [List.map_eq_nil_iff]
    exact Entity.violations_eq_nil_iff
  · intro batch
    refine ⟨?_, ⟨_, listsRepetitions_repeatedNames _, referenceMessages_eq batch⟩,
      fun shuffled perm => ?_⟩
    · rw [List.map_eq_nil_iff, referenceViolations_eq_nil_iff]
      simp [or_iff_not_imp_left]
    · rw [List.map_eq_nil_iff, List.map_eq_nil_iff]
      exact referenceViolations_congr perm

/-- With the fields `a`, `b`, `b` and `a`, `b` is repeated first; of the names `A`, `B`, `B` and
`A`, the first that is repeated is `A`, also where the batch is shuffled into one that starts with
`B`. -/
theorem violations_decided_repeated :
    let named (name : String) : Entity := { name, fields := [] }
    let batch := [named "A", named "B", named "B", named "A"]
    let shuffled := [named "B", named "A", named "B", named "A"]
    let entity : Entity := {
      name := "A"
      fields := ["a", "b", "b", "a"].map fun name => { name, type := .int } }
    entity.violations.map Violation.message =
      ["Entity must have an ID field", "Duplicate field names: b, a"] ∧
    (referenceViolations batch).map ReferenceViolation.message =
      ["Duplicate entity names: A, B"] ∧
    batch.Perm shuffled ∧
    ((referenceViolations batch).map ReferenceViolation.message = [] ↔
      (referenceViolations shuffled).map ReferenceViolation.message = []) :=
  ⟨by decide +kernel, by decide +kernel, .swap _ _ _,
    (violations_decided.2 _).2.2 _ (.swap _ _ _)⟩

end CrudScaffold
