import Mathlib.Data.List.Forall2

/-!
# Reading a list item by item

A list is read by reading its items in order, and the first fault decides the answer. A result
therefore pairs every item with what was read from it, and a fault is that of the first item that
is refused.
-/

namespace CrudScaffold

variable {ε α β : Type}

/-- A list is read exactly when each of its items is, and the results stand in the same order. -/
theorem mapM_eq_ok_iff {read : α → Except ε β} {items : List α} {results : List β} :
    items.mapM read = .ok results ↔
      List.Forall₂ (fun item result => read item = .ok result) items results := by
  induction items generalizing results with
  | nil =>
    rw [List.mapM_nil, List.forall₂_nil_left_iff]
    exact ⟨fun same => (Except.ok.inj same).symm, fun same => same ▸ rfl⟩
  | cons item items ih =>
    rw [List.mapM_cons, List.forall₂_cons_left_iff]
    cases first : read item with
    | error fault => simp [bind, Except.bind]
    | ok result =>
      cases rest : items.mapM read with
      | error fault =>
        simp only [bind, Except.bind, reduceCtorEq, false_iff]
        rintro ⟨other, others, -, related, -⟩
        rw [ih.mpr related] at rest
        contradiction
      | ok others =>
        simp only [bind, Except.bind, pure, Except.pure, Except.ok.injEq]
        constructor
        · rintro rfl
          exact ⟨result, others, rfl, ih.mp rest, rfl⟩
        · rintro ⟨other, others', rfl, related, rfl⟩
          rw [ih.mpr related] at rest
          rw [Except.ok.inj rest]

/-- A list is refused with a fault exactly when one of its items is and those before it are read. -/
theorem mapM_eq_error_iff {read : α → Except ε β} {items : List α} {fault : ε} :
    items.mapM read = .error fault ↔
      ∃ before item later, items = before ++ item :: later ∧
        (∀ earlier ∈ before, ∃ result, read earlier = .ok result) ∧ read item = .error fault := by
  constructor
  · intro refused
    induction items with
    | nil => contradiction
    | cons item items ih =>
      rw [List.mapM_cons] at refused
      cases first : read item with
      | error other =>
        rw [first] at refused
        exact ⟨[], item, items, rfl, List.forall_mem_nil _,
          first.trans (congrArg _ (Except.error.inj refused))⟩
      | ok result =>
        rw [first] at refused
        cases rest : items.mapM read with
        | error other =>
          rw [rest] at refused
          obtain ⟨before, culprit, later, split, each, same⟩ :=
            ih (rest.trans (congrArg _ (Except.error.inj refused)))
          exact ⟨item :: before, culprit, later, congrArg _ split,
            List.forall_mem_cons.mpr ⟨⟨result, first⟩, each⟩, same⟩
        | ok others =>
          rw [rest] at refused
          contradiction
  · rintro ⟨before, item, later, rfl, each, same⟩
    induction before with
    | nil => rw [List.nil_append, List.mapM_cons, same]; rfl
    | cons first before ih =>
      obtain ⟨⟨result, read⟩, others⟩ := List.forall_mem_cons.mp each
      rw [List.cons_append, List.mapM_cons, read, ih others]
      rfl

/-- A fault of a list is the fault of one of its items. -/
theorem exists_of_mapM_eq_error {read : α → Except ε β} {items : List α} {fault : ε}
    (refused : items.mapM read = .error fault) : ∃ item ∈ items, read item = .error fault := by
  obtain ⟨before, item, later, rfl, -, same⟩ := mapM_eq_error_iff.mp refused
  exact ⟨item, List.mem_append_right _ List.mem_cons_self, same⟩

/-- Every result was read from an item. -/
theorem exists_of_mem_of_mapM {read : α → Except ε β} {items : List α} {results : List β}
    (all : items.mapM read = .ok results) {result : β} (member : result ∈ results) :
    ∃ item ∈ items, read item = .ok result := by
  have pairs := mapM_eq_ok_iff.mp all
  clear all
  induction pairs with
  | nil => contradiction
  | cons first _ ih =>
    rcases List.mem_cons.mp member with rfl | later
    · exact ⟨_, List.mem_cons_self, first⟩
    · obtain ⟨item, inside, same⟩ := ih later
      exact ⟨item, List.mem_cons_of_mem _ inside, same⟩

/-- Every item was read. -/
theorem exists_result_of_mapM {read : α → Except ε β} {items : List α} {results : List β}
    (all : items.mapM read = .ok results) {item : α} (member : item ∈ items) :
    ∃ result, read item = .ok result := by
  have pairs := mapM_eq_ok_iff.mp all
  clear all
  induction pairs with
  | nil => contradiction
  | cons first _ ih =>
    rcases List.mem_cons.mp member with rfl | later
    · exact ⟨_, first⟩
    · exact ih later

/-- A list is read if each of its items is. -/
theorem exists_mapM_eq_ok {read : α → Except ε β} {items : List α}
    (each : ∀ item ∈ items, ∃ result, read item = .ok result) :
    ∃ results, items.mapM read = .ok results := by
  induction items with
  | nil => exact ⟨[], rfl⟩
  | cons item items ih =>
    obtain ⟨⟨result, first⟩, others⟩ := List.forall_mem_cons.mp each
    obtain ⟨results, rest⟩ := ih others
    exact ⟨result :: results, by rw [List.mapM_cons, first, rest]; rfl⟩

/-- What is written for each result is read as the results. -/
theorem mapM_map_eq_ok {read : α → Except ε β} {write : β → α} {results : List β}
    (each : ∀ result ∈ results, read (write result) = .ok result) :
    (results.map write).mapM read = .ok results := by
  rw [mapM_eq_ok_iff, List.forall₂_map_left_iff, List.forall₂_same]
  exact each

end CrudScaffold
