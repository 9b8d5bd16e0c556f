import CrudScaffold.Proofs.Generation.Schema
import CrudScaffold.Proofs.Text.Trim

/-!
# What an appended schema starts with

A schema is read, and written again with a model behind it. Reading makes a line feed of every line
break with a carriage return, and this is what is written: where the file has carriage returns, the
new file does not start with the old one, and where it has none, it does, the line feeds at the end
of the old one aside (`addModel_bytes`). Where the model is there already, and where the schema is
not read, the file stays as it is.
-/

namespace CrudScaffold

open Text

/-! ### Texts -/

/-- A fragment is appended below what was read, without the line feeds at its end, and an empty
line. -/
theorem appendFragment_toList {text : List Char} (solid : isBlankText text = false)
    (fragment : String) :
    (appendFragment (String.ofList (unifyNewlines text)) fragment).toList =
      (unifyNewlines text).rdropWhile (· == '\n') ++ ['\n', '\n'] ++ fragment.toList := by
  unfold appendFragment
  rw [String.toList_ofList, isBlankText_unifyNewlines, solid, if_neg Bool.false_ne_true,
    String.toList_append, String.toList_append, String.toList_ofList]
  rfl

/-- A front of a list that does not hold an element ends before every place of the element. -/
theorem prefix_of_append_eq {α : Type} {front before rest behind : List α} {c : α}
    (fresh : c ∉ front) (same : front ++ rest = before ++ c :: behind) : front <+: before := by
  rcases List.append_eq_append_iff.mp same with ⟨more, longer, -⟩ | ⟨more, shorter, there⟩
  · exact ⟨more, longer.symm⟩
  · cases more with
    | nil => exact ⟨[], by simp [shorter]⟩
    | cons d more =>
      obtain rfl := (List.cons.inj there).1
      exact absurd (by simp [shorter]) fresh

/-- A text that is kept in front of what is appended to it has no carriage return. -/
theorem return_notMem_of_kept {text rest : List Char} {c : Char} (noFeed : c ≠ '\n')
    (noReturn : c ≠ '\r')
    (kept : text.rdropWhile (· == '\n') <+:
      (unifyNewlines text).rdropWhile (· == '\n') ++ ['\n', '\n'] ++ c :: rest) : '\r' ∉ text := by
  intro member
  obtain ⟨feeds, only, parts⟩ : ∃ feeds, (∀ c ∈ feeds, c = '\n') ∧
    text = text.rdropWhile (· == '\n') ++ feeds := exists_feeds text
  obtain ⟨fed, onlyFed, read⟩ : ∃ fed, (∀ c ∈ fed, c = '\n') ∧ unifyNewlines text =
    (unifyNewlines text).rdropWhile (· == '\n') ++ fed := exists_feeds (unifyNewlines text)
  have plain := return_notMem_unifyNewlines text
  -- up to the first carriage return the text is read as it is
  have inside : '\r' ∈ text.rdropWhile (· == '\n') := by
    rw [parts] at member
    exact (List.mem_append.mp member).resolve_right fun last => absurd (only _ last) (by decide)
  obtain ⟨front, back, same, fresh⟩ := List.eq_append_cons_of_mem inside
  obtain ⟨later, first⟩ := exists_unifyNewlines_return (back ++ feeds)
  have whole : unifyNewlines text = front ++ '\n' :: later := by
    rw [parts, same, List.append_assoc, unifyNewlines_append fresh, List.cons_append, first]
  -- what was appended has no carriage return at its start, so the first one comes behind that
  obtain ⟨suffix, longer⟩ := kept
  generalize (unifyNewlines text).rdropWhile (· == '\n') = above at longer read
  have start : above ++ ['\n', '\n', c] <+: front := by
    refine @prefix_of_append_eq _ _ _ rest (back ++ suffix) '\r' ?_ ?_
    · rw [read] at plain
      simp only [List.mem_append, not_or] at plain
      simp [plain.1, Ne.symm noReturn]
    · rw [same] at longer
      simpa using longer.symm
  -- and then the text that was read goes on with more than line feeds
  obtain ⟨more, rfl⟩ := start
  rw [read, List.append_assoc, List.append_assoc, List.append_cancel_left_eq] at whole
  exact noFeed (onlyFed c (by simp [whole]))

/-- A schema is kept in front of a model that is appended, the line feeds at its end aside, exactly
if it holds no carriage return. -/
theorem prefix_appendFragment_iff {text : List Char} (solid : isBlankText text = false)
    (entity : Entity) :
    text.rdropWhile (· == '\n') <+:
        (appendFragment (String.ofList (unifyNewlines text)) entity.model).toList ↔
      '\r' ∉ text := by
  rw [appendFragment_toList solid]
  constructor
  · intro kept
    rw [Entity.model_toList] at kept
    exact @return_notMem_of_kept _ _ 'm' (by decide) (by decide) kept
  · intro plain
    rw [unifyNewlines_eq_self plain, List.append_assoc]
    exact List.prefix_append _ _

/-! ### Files -/

section

variable {settings : Settings} {entity : Entity} {world after : World}

/-- The answer that a model is there is given only where the schema declares it. -/
theorem hasModel_of_addModel_false {text : String}
    (holds : world.tree.Holds settings.schemaFile text)
    (ran : (addModel settings entity).run world = (.ok false, after)) :
    hasModel text entity.name = true := by
  by_contra undeclared
  rw [run_addModel_eq_writeText holds (Bool.eq_false_iff.mpr undeclared)] at ran
  obtain ⟨_, _, _, added⟩ := Script.exists_of_run_bind ran
  exact absurd (Prod.mk.inj added).1 (by simp)

/-- A model that the schema declares leaves the files as they are. -/
theorem tree_eq_of_addModel_false
    (ran : (addModel settings entity).run world = (.ok false, after)) :
    after.tree = world.tree := by
  obtain ⟨text, holds⟩ := holds_of_run_addModel ran
  rw [run_addModel_of_hasModel holds (hasModel_of_addModel_false holds ran)] at ran
  rw [← (Prod.mk.inj ran).2]

/-- A schema that is not read leaves the files as they are, and no model is added. -/
theorem addModel_of_readSchema_error {failure : Failure} {last : World}
    (asked : (readSchema settings).run world = (.error failure, last)) :
    (addModel settings entity).run world = (.error failure, last) ∧ last.tree = world.tree := by
  refine ⟨Script.run_bind_of_error asked _, ?_⟩
  have within : (readSchema settings).Within (·.isLook) (fun _ => True) :=
    within_readSchema (fun _ => trivial) (fun _ => trivial) fun _ => trivial
  have look := within.tree_eq world
  rwa [asked] at look

/-- The bytes of a schema when a model is to be added. They stay as they are where the answer is
that the model is there, and where the schema is not read. For bytes of a text that is not blank the
answer is that exactly if the schema that is read declares the model, and otherwise all that happens
is that a text is written: that schema, an empty line and the model. Once it is, the file starts
with the bytes that it had, the line feeds at their end aside, exactly if there is no carriage
return among them.

What a failure to write leaves is not said. Texts have bytes, so here no write fails once the file
is open; half of a surrogate pair, with which one would fail and leave an empty file, is no text. -/
theorem addModel_bytes {result : Except Failure Bool}
    (ran : (addModel settings entity).run world = (result, after)) :
    (result = .ok false → after.tree = world.tree) ∧
    (∀ failure last, (readSchema settings).run world = (.error failure, last) →
      result = .error failure ∧ after.tree = world.tree) ∧
    ∀ bytes text, world.tree.read settings.schemaFile = .ok bytes → decodeUtf8 bytes = .ok text →
      isBlankText text = false →
      (result = .ok false ↔
        hasModel (String.ofList (unifyNewlines text)) entity.name = true) ∧
      (hasModel (String.ofList (unifyNewlines text)) entity.name = false →
        ∃ content : String,
          content.toList = (unifyNewlines text).rdropWhile (· == '\n') ++ ['\n', '\n'] ++
            entity.model.toList ∧
          (addModel settings entity).run world =
            (do Script.writeText settings.schemaFile content; return true : Script Bool).run world ∧
          (result = .ok true →
            after.tree.read settings.schemaFile = .ok (encodeUtf8 content.toList) ∧
            (bytes.rdropWhile (· == 10) <+: encodeUtf8 content.toList ↔ 13 ∉ bytes))) := by
  refine ⟨?_, fun failure last asked => ?_, fun bytes text read decoded solid => ?_⟩
  · rintro rfl
    exact tree_eq_of_addModel_false ran
  · obtain ⟨failed, kept⟩ := @addModel_of_readSchema_error settings entity world failure last asked
    obtain ⟨rfl, rfl⟩ := Prod.mk.inj (ran.symm.trans failed)
    exact ⟨rfl, kept⟩
  have holds : world.tree.Holds settings.schemaFile (String.ofList (unifyNewlines text)) :=
    Tree.holds_iff_read.mpr ⟨bytes, text, read, decoded, rfl⟩
  refine ⟨⟨?_, fun declared => ?_⟩, fun undeclared => ⟨_, appendFragment_toList solid entity.model,
    run_addModel_eq_writeText holds undeclared, ?_⟩⟩
  · rintro rfl
    exact hasModel_of_addModel_false holds ran
  · rw [run_addModel_of_hasModel holds declared] at ran
    exact (Prod.mk.inj ran).1.symm
  · rintro -
    obtain ⟨location, located, file⟩ := Tree.read_eq_ok_iff.mp read
    rw [run_addModel_of_not_hasModel located holds undeclared] at ran
    obtain ⟨-, rfl⟩ := Prod.mk.inj ran
    have proper : location ≠ [] := by
      rintro rfl
      exact absurd file (by simp)
    refine ⟨Tree.read_eq_ok_iff.mpr ⟨location, (World.grows_withText file _).locate located,
      Tree.entry?_put_self _ proper _⟩, ?_⟩
    rw [decodeUtf8_eq_ok_iff] at decoded
    subst decoded
    have feeds := @encodeUtf8_rdropWhile '\n' (by decide) text
    have returns := @mem_encodeUtf8_iff '\r' (by decide) text
    change (encodeUtf8 text).rdropWhile (· == UInt8.ofNat '\n'.toNat) <+: _ ↔
      UInt8.ofNat '\r'.toNat ∉ encodeUtf8 text
    rw [← feeds, returns, encodeUtf8_prefix_iff, prefix_appendFragment_iff solid]

/-- A schema whose lines end with line feeds stands in front of what it becomes, without the last
two of them. -/
theorem addModel_bytes_feeds :
    let settings : Settings := { schemaPath := .ofText "s" }
    let schema := "model User \x7b\n  id Int @id\n\x7d\n\n".toList
    let world : World := { tree :=
      ⟨["w"], [(["w"], .directory), (["w", "s"], .file (encodeUtf8 schema))]⟩ }
    let entity := Entity.ofFields "Post" [{ name := "id", type := .int, isId := true }]
    let ran := (addModel settings entity).run world
    ran.1 = .ok true ∧ ∃ content, ran.2.tree.read settings.schemaFile = .ok content ∧
      (encodeUtf8 schema).rdropWhile (· == 10) <+: content := by
  intro settings schema world entity ran
  have holds : world.tree.Holds settings.schemaFile (String.ofList (unifyNewlines schema)) :=
    Tree.holds_iff_read.mpr ⟨encodeUtf8 schema, schema, by decide +kernel,
      decodeUtf8_encodeUtf8 schema, rfl⟩
  have undeclared : hasModel (String.ofList (unifyNewlines schema)) entity.name = false := by
    decide +kernel
  have located : world.tree.locate settings.schemaFile = .ok ["w", "s"] := by decide +kernel
  have answer : ran.1 = .ok true :=
    congrArg Prod.fst (run_addModel_of_not_hasModel located holds undeclared)
  obtain ⟨-, -, file⟩ := @addModel_bytes settings entity world ran.2 ran.1 (Prod.eta ran).symm
  obtain ⟨-, writes⟩ := file (encodeUtf8 schema) schema (by decide +kernel)
    (decodeUtf8_encodeUtf8 schema) (by decide +kernel)
  obtain ⟨content, -, -, added⟩ := writes undeclared
  obtain ⟨read, starts⟩ := added answer
  exact ⟨answer, _, read, starts.mpr (by decide +kernel)⟩

/-- One with carriage returns does not: the file that is written has line feeds only. -/
theorem not_prefix_addModel_returns :
    let settings : Settings := { schemaPath := .ofText "s" }
    let schema := "model User \x7b\r\n  id Int @id\r\n\x7d".toList
    let appended := ("model User \x7b\n  id Int @id\n\x7d\n\n" ++
      "model Post \x7b\n  id Int @id\n\n  @@map(\"posts\")\n\x7d\n").toList
    let world : World := { tree :=
      ⟨["w"], [(["w"], .directory), (["w", "s"], .file (encodeUtf8 schema))]⟩ }
    let entity := Entity.ofFields "Post" [{ name := "id", type := .int, isId := true }]
    let ran := (addModel settings entity).run world
    ran.1 = .ok true ∧ ran.2.tree.read settings.schemaFile = .ok (encodeUtf8 appended) ∧
      ¬ (encodeUtf8 schema).rdropWhile (· == 10) <+: encodeUtf8 appended := by
  intro settings schema appended world entity ran
  have holds : world.tree.Holds settings.schemaFile (String.ofList (unifyNewlines schema)) :=
    Tree.holds_iff_read.mpr ⟨encodeUtf8 schema, schema, by decide +kernel,
      decodeUtf8_encodeUtf8 schema, rfl⟩
  have located : world.tree.locate settings.schemaFile = .ok ["w", "s"] := by decide +kernel
  have same : ran = (.ok true, world.withText ["w", "s"]
      (appendFragment (String.ofList (unifyNewlines schema)) entity.model)) :=
    run_addModel_of_not_hasModel located holds (by decide +kernel)
  have text : (appendFragment (String.ofList (unifyNewlines schema)) entity.model).toList =
      appended := by
    decide +kernel
  have read : ran.2.tree.read settings.schemaFile = .ok (encodeUtf8 appended) := by
    rw [same, ← text]
    exact Tree.read_eq_ok_iff.mpr ⟨_, located, rfl⟩
  exact ⟨by rw [same], read, by decide +kernel⟩

end

end CrudScaffold
