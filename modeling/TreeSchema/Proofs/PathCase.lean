/-
This file says for which paths the check of the extension ignores letter case: the verdict for
the path in lower case and the one for the path in upper case have to be the one for the path
itself, whatever extension the schema requires. Neither mapping makes, moves or loses a dot or
a separator, so a mapped path is taken apart where the path itself is, and the question is one
about the letters of the extension: each must keep its lower case in its place, and a capital
sigma must not end a word only because of what stands in front of the extension. An
extension of plain letters keeps its case; a sharp s does not, for in upper case it is two letters.
-/
import TreeSchema.Catalog.BuiltIn
import TreeSchema.Proofs.Casing
import TreeSchema.Proofs.Extensions
import TreeSchema.Verification

namespace TreeSchema

/-! ### Mapped letter by letter -/

namespace Text

/-- The letters given stand for one letter: a mark stands for itself, and for nothing else. -/
structure Spells (letter : Char) (letters : List Char) : Prop where
  fixed : letter ∈ marks → letters = [letter]
  faithful : ∀ mark ∈ marks, mark ∈ letters → letter = mark

/-- The second text is made of letters that stand for those of the first one. -/
inductive Recased : List Char → List Char → Prop where
  | nil : Recased [] []
  | cons {letter : Char} {letters text others : List Char} :
    Spells letter letters → Recased text others → Recased (letter :: text) (letters ++ others)

theorem spells_mapCase {runs : List CaseRun} {expansions : List (Nat × List Nat)}
    (kept : keepsMarks runs expansions = true) (letter : Char) :
    Spells letter (mapCase runs expansions letter) :=
  ⟨fun isMark => (mapCase_mark kept isMark).1,
    fun _ isMark member => (mapCase_mark kept isMark).2 letter member⟩

theorem recased_flatMap_upperLetter (text : List Char) :
    Recased text (text.flatMap upperLetter) := by
  induction text with
  | nil => exact .nil
  | cons letter rest inductionHypothesis =>
    exact .cons (spells_mapCase keepsMarks_upper letter) inductionHypothesis

theorem spells_lowerAt (passed : List Char) (letter : Char) (after : List Char) :
    Spells letter (lowerAt passed letter after) := by
  by_cases sigma : letter = 'Σ'
  · subst sigma
    refine ⟨fun isMark => absurd isMark (by decide), fun mark isMark member => ?_⟩
    rw [lowerAt, if_pos rfl] at member
    split at member <;> rw [List.mem_singleton] at member <;> subst member <;>
      exact absurd isMark (by decide)
  · rw [lowerAt_of_ne passed after sigma]
    exact spells_mapCase keepsMarks_lower letter

theorem lowerFrom_of_marks {text : List Char} (dots : ∀ letter ∈ text, letter ∈ marks)
    (passed : List Char) : lowerFrom passed text = text := by
  refine lowerFrom_of_lowered (fun letter member => ⟨?_, ?_⟩) passed
  · rintro rfl
    exact absurd (dots 'Σ' member) (by decide)
  · exact (mapCase_mark keepsMarks_lower (dots letter member)).1

theorem flatMap_upperLetter_of_marks {text : List Char} (dots : ∀ letter ∈ text, letter ∈ marks) :
    text.flatMap upperLetter = text := by
  have fixed : ∀ letter ∈ text, upperLetter letter = [letter] :=
    fun letter member => (mapCase_mark keepsMarks_upper (dots letter member)).1
  rw [List.flatMap_congr fixed, List.flatMap_singleton']

/-- The lower case of a text and a rest is made of a lower case of the text and one of the rest. -/
theorem exists_lowerFrom_append (passed text after : List Char) :
    ∃ lowered, Recased text lowered ∧
      lowerFrom passed (text ++ after) = lowered ++ lowerFrom (text.reverse ++ passed) after := by
  induction text generalizing passed with
  | nil => exact ⟨[], .nil, rfl⟩
  | cons letter rest inductionHypothesis =>
    obtain ⟨lowered, recased, whole⟩ := inductionHypothesis (letter :: passed)
    refine ⟨_, .cons (spells_lowerAt passed letter (rest ++ after)) recased, ?_⟩
    rw [List.cons_append, lowerFrom_cons, whole, List.append_assoc, List.reverse_cons,
      List.append_assoc]
    rfl

theorem recased_lowerFrom (passed text : List Char) : Recased text (lowerFrom passed text) := by
  obtain ⟨lowered, recased, whole⟩ := exists_lowerFrom_append passed text []
  rw [List.append_nil, lowerFrom, List.append_nil] at whole
  rwa [whole]

namespace Recased

variable {text recased : List Char}

theorem mem_of_mark (same : Recased text recased) {mark : Char} (isMark : mark ∈ marks)
    (member : mark ∈ recased) : mark ∈ text := by
  induction same with
  | nil => exact member
  | cons spells _ inductionHypothesis =>
    rcases List.mem_append.mp member with here | behind
    · exact List.mem_cons.mpr (Or.inl (spells.faithful mark isMark here).symm)
    · exact List.mem_cons_of_mem _ (inductionHypothesis behind)

/-- A mark at the start stays there. -/
theorem of_mark_cons {mark : Char} {rest : List Char} (isMark : mark ∈ marks)
    (same : Recased (mark :: rest) recased) : ∃ others, recased = mark :: others := by
  cases same with
  | cons spells rest => exact ⟨_, by rw [spells.fixed isMark, List.singleton_append]⟩

/-- A mark at the end stays there. -/
theorem of_append_mark {mark : Char} {front : List Char} (isMark : mark ∈ marks)
    (same : Recased (front ++ [mark]) recased) : ∃ others, recased = others ++ [mark] := by
  induction front generalizing recased with
  | nil =>
    cases same with
    | cons spells rest =>
      cases rest
      exact ⟨[], by rw [spells.fixed isMark, List.append_nil, List.nil_append]⟩
  | cons letter rest inductionHypothesis =>
    cases same with
    | cons spells others =>
      obtain ⟨front, whole⟩ := inductionHypothesis others
      exact ⟨_, by rw [whole, ← List.append_assoc]⟩

end Recased

end Text

/-! ### The extension of a mapped path -/

theorem mem_marks_of_separator {character : Char} (isSlash : isSeparator character = true) :
    character ∈ Text.marks := by
  rw [isSeparator, Bool.or_eq_true, beq_iff_eq, beq_iff_eq] at isSlash
  rcases isSlash with rfl | rfl <;> decide

/-- A path whose parts are mapped has the mapped parts. -/
theorem PathParts.Of.recased {path : List Char} {parts : PathParts} (taken : parts.Of path)
    {directory stem tail : List Char} (sameDirectory : Text.Recased parts.directory directory)
    (sameStem : Text.Recased parts.stem stem) (sameTail : Text.Recased parts.tail tail) :
    PathParts.Of ⟨directory, stem, tail⟩ (directory ++ (stem ++ tail)) := by
  refine ⟨rfl, ?closed, ?segment, ?plain, ?dotted⟩
  case closed =>
    rcases taken.closed with empty | ⟨front, separator, isSlash, ends⟩
    · rw [empty] at sameDirectory
      cases sameDirectory
      exact Or.inl rfl
    · rw [ends] at sameDirectory
      obtain ⟨others, whole⟩ := sameDirectory.of_append_mark (mem_marks_of_separator isSlash)
      exact Or.inr ⟨others, separator, isSlash, whole⟩
  case segment =>
    intro character member
    rw [Bool.eq_false_iff]
    intro isSlash
    have isMark := mem_marks_of_separator isSlash
    have source : character ∈ parts.stem ++ parts.tail :=
      List.mem_append.mpr ((List.mem_append.mp member).imp (sameStem.mem_of_mark isMark)
        (sameTail.mem_of_mark isMark))
    exact Bool.eq_false_iff.mp (taken.segment character source) isSlash
  case plain => exact fun member => taken.plain (sameStem.mem_of_mark (by decide) member)
  case dotted =>
    rcases taken.dotted with empty | starts
    · rw [empty] at sameTail
      cases sameTail
      exact Or.inl rfl
    · obtain ⟨rest, dotted⟩ := List.head?_eq_some_iff.mp starts
      rw [dotted] at sameTail
      obtain ⟨others, rfl⟩ := sameTail.of_mark_cons (by decide)
      exact Or.inr rfl

/-- The extension of a path in lower case is the lower case that the extension has in its place. -/
theorem PathParts.Of.extensionList_lowerFrom {path : List Char} {parts : PathParts}
    (taken : parts.Of path) :
    extensionList (Text.lowerFrom [] path) =
      Text.lowerFrom (parts.directory ++ parts.stem).reverse parts.tail := by
  obtain ⟨directory, sameDirectory, first⟩ :=
    Text.exists_lowerFrom_append [] parts.directory (parts.stem ++ parts.tail)
  obtain ⟨stem, sameStem, second⟩ :=
    Text.exists_lowerFrom_append (parts.directory.reverse ++ []) parts.stem parts.tail
  rw [List.append_nil] at first second
  have mapped := taken.recased sameDirectory sameStem
    (Text.recased_lowerFrom (parts.stem.reverse ++ parts.directory.reverse) parts.tail)
  rw [taken.whole, first, second, mapped.extensionList_eq, List.reverse_append]

/-- The extension of a path in upper case is the extension in upper case. -/
theorem PathParts.Of.extensionList_upper {path : List Char} {parts : PathParts}
    (taken : parts.Of path) :
    extensionList (path.flatMap Text.upperLetter) = parts.tail.flatMap Text.upperLetter := by
  have mapped := taken.recased (Text.recased_flatMap_upperLetter _)
    (Text.recased_flatMap_upperLetter _) (Text.recased_flatMap_upperLetter _)
  rw [taken.whole, List.flatMap_append, List.flatMap_append, mapped.extensionList_eq]

/-! ### Verdicts -/

/-- The verdict on the extension is the same for the path, for the path in lower case and for the
path in upper case, under every schema. -/
def IgnoresCase (path : String) : Prop :=
  ∀ (options : Options) (catalog : Catalog) (schema : Schema) (document : Document)
    (root : Option Nat),
    (verify options catalog schema document root (Text.lower path)).extensionOk =
        (verify options catalog schema document root path).extensionOk ∧
      (verify options catalog schema document root (Text.upper path)).extensionOk =
        (verify options catalog schema document root path).extensionOk

/-- A schema without definitions that requires an extension. -/
def Schema.requiring (fileExtension : String)
    (required : Schema.isExtension fileExtension = true) : Schema where
  label := "Version 1"
  ordinal := 1
  fileExtension := fileExtension
  definitions := []
  consistent := by simp [Schema.cause?, Schema.duplicate?, required]

theorem lower_eq_lower_iff (first second : List Char) :
    Text.lower (String.ofList first) = Text.lower (String.ofList second) ↔
      Text.lowerFrom [] first = Text.lowerFrom [] second := by
  rw [Text.lower, Text.lower, String.ofList_inj, String.toList_ofList, String.toList_ofList]

section Verdicts

variable {path : String} {parts : PathParts}

theorem PathParts.Of.extensionOf_eq (taken : parts.Of path.toList) :
    extensionOf path = String.ofList parts.tail := by
  rw [extensionOf, taken.extensionList_eq]

theorem PathParts.Of.extensionOf_lower (taken : parts.Of path.toList) :
    extensionOf (Text.lower path) =
      String.ofList (Text.lowerFrom (parts.directory ++ parts.stem).reverse parts.tail) := by
  rw [extensionOf, Text.lower, String.toList_ofList, taken.extensionList_lowerFrom]

theorem PathParts.Of.extensionOf_upper (taken : parts.Of path.toList) :
    extensionOf (Text.upper path) = String.ofList (parts.tail.flatMap Text.upperLetter) := by
  rw [extensionOf, Text.upper, String.toList_ofList]
  exact congrArg String.ofList taken.extensionList_upper

/-- An extension that no schema requires is empty or a dot. -/
theorem PathParts.Of.tail_mem_marks (taken : parts.Of path.toList)
    (refused : ¬ Schema.isExtension (extensionOf path) = true) :
    ∀ letter ∈ parts.tail, letter ∈ Text.marks := by
  rw [taken.extensionOf_eq, Schema.isExtension, String.toList_ofList] at refused
  rcases taken.dotted with empty | starts
  · rw [empty]
    exact List.forall_mem_nil _
  · obtain ⟨rest, dotted⟩ := List.head?_eq_some_iff.mp starts
    rw [dotted] at refused ⊢
    cases rest with
    | nil => exact List.forall_mem_singleton.mpr (by decide)
    | cons second others => exact absurd rfl refused

/-- The verdicts are the same under all schemas exactly if the extensions have one lower case. -/
theorem ignoresCase_iff_lower_eq (taken : parts.Of path.toList) :
    IgnoresCase path ↔
      Text.lower (extensionOf (Text.lower path)) = Text.lower (extensionOf path) ∧
        Text.lower (extensionOf (Text.upper path)) = Text.lower (extensionOf path) := by
  constructor
  · intro ignores
    by_cases required : Schema.isExtension (extensionOf path) = true
    · -- The schema that requires the very extension accepts the path.
      obtain ⟨lower, upper⟩ := ignores ⟨false, none⟩ Catalog.ghdr
        (Schema.requiring (extensionOf path) required) Document.empty none
      have accepted : (Text.lower (extensionOf path) == Text.lower (extensionOf path)) = true :=
        BEq.rfl
      exact ⟨(beq_iff_eq.mp (lower.trans accepted)).symm,
        (beq_iff_eq.mp (upper.trans accepted)).symm⟩
    · -- No schema requires an extension of a dot at most, but there is nothing to map in it.
      have dots := taken.tail_mem_marks required
      rw [taken.extensionOf_eq, taken.extensionOf_lower, taken.extensionOf_upper,
        Text.lowerFrom_of_marks dots, Text.flatMap_upperLetter_of_marks dots]
      exact ⟨rfl, rfl⟩
  · rintro ⟨lower, upper⟩ options catalog schema document root
    refine ⟨?_, ?_⟩
    · exact congrArg (Text.lower schema.fileExtension == ·) lower
    · exact congrArg (Text.lower schema.fileExtension == ·) upper

end Verdicts

/-! ### Extensions that keep their case -/

/-- Behind the front, the letters of the tail keep their lower case in upper case, and the tail
keeps its lower case in the path: a capital sigma ends a word behind the front exactly if it does in
the tail alone. -/
structure KeepsCase (front tail : List Char) : Prop where
  letters : Text.Throughout Text.Keeps tail
  capitals : Text.Throughout (fun before letter after => letter = 'Σ' →
    Text.endsWord (front ++ before) after = Text.endsWord before after) tail

/-- Plain letters keep their case behind every front. -/
theorem KeepsCase.of_ascii (front : List Char) {tail : List Char}
    (ascii : ∀ letter ∈ tail, letter.toNat < 128) : KeepsCase front tail := by
  have within : ∀ {before letter after}, tail = before ++ letter :: after → letter.toNat < 128 := by
    intro before letter after split
    exact ascii letter (split ▸ List.mem_append_right before List.mem_cons_self)
  refine ⟨fun before letter after split => ⟨fun _ => Text.steady_of_ascii (within split), ?small,
    ?final⟩, fun before letter after split => ?capital⟩
  all_goals
    rintro rfl
    exact absurd (within split) (by decide)

/-- The verdict on the extension ignores letter case exactly for the paths whose extension keeps its
case: each letter of the extension is steady, each small sigma has the form that its place in the
extension asks for, and each capital sigma ends a word behind the front exactly if it does in the
extension alone. An extension of plain letters is always one of them. -/
theorem ignoresCase_iff_keepsCase (path : String) (parts : PathParts)
    (taken : parts.Of path.toList) :
    (IgnoresCase path ↔ KeepsCase (parts.directory ++ parts.stem) parts.tail) ∧
      ((∀ letter ∈ parts.tail, letter.toNat < 128) → IgnoresCase path) := by
  have whether : IgnoresCase path ↔ KeepsCase (parts.directory ++ parts.stem) parts.tail := by
    have lower := Text.lowerFrom_eq_lowerFrom_iff (parts.directory ++ parts.stem) [] parts.tail
    have upper := Text.lowerFrom_flatMap_upperLetter_iff [] parts.tail rfl
    rw [ignoresCase_iff_lower_eq taken, taken.extensionOf_lower, taken.extensionOf_upper,
      taken.extensionOf_eq, lower_eq_lower_iff, lower_eq_lower_iff, Text.lowerFrom_lowerFrom]
    refine (and_congr lower upper).trans ⟨?_, ?_⟩
    · exact fun ⟨capitals, letters⟩ => ⟨letters, capitals⟩
    · exact fun ⟨letters, capitals⟩ => ⟨capitals, letters⟩
  exact ⟨whether, fun ascii => whether.mpr (KeepsCase.of_ascii _ ascii)⟩

/-- A path with letters of all kinds in front of an extension of plain letters. -/
theorem ignoresCase_iff_keepsCase_plain :
    PathParts.Of ⟨"Maße\\".toList, "KΣ".toList, ".GhDr".toList⟩ "Maße\\KΣ.GhDr".toList ∧
      (IgnoresCase "Maße\\KΣ.GhDr" ↔
        KeepsCase ("Maße\\".toList ++ "KΣ".toList) ".GhDr".toList) ∧
      IgnoresCase "Maße\\KΣ.GhDr" := by
  have taken : PathParts.Of ⟨"Maße\\".toList, "KΣ".toList, ".GhDr".toList⟩
      "Maße\\KΣ.GhDr".toList :=
    ⟨rfl, Or.inr ⟨"Maße".toList, '\\', rfl, rfl⟩, by simp [isSeparator], by decide, Or.inr rfl⟩
  obtain ⟨whether, plain⟩ := ignoresCase_iff_keepsCase _ _ taken
  exact ⟨taken, whether, plain (by simp)⟩

/-- A capital sigma alone in an extension, which ends a word only behind a letter in front. -/
example : extensionOf (Text.lower "a.Σ") = ".ς" ∧ Text.lower (extensionOf "a.Σ") = ".σ" := by
  decide +kernel

/-- A schema that requires an extension with a sharp s. -/
def Schema.sharp : Schema :=
  Schema.requiring ".maß" (by decide)

/-- In upper case a sharp s is two letters, and these are two letters in lower case as well. -/
theorem not_ignoresCase_sharp :
    Schema.ofDefinitions "Version 1" 1 ".maß" [] = .ok Schema.sharp ∧
      Text.upper "küche.maß" = "KÜCHE.MASS" ∧
      (verify ⟨false, none⟩ Catalog.ghdr Schema.sharp Document.empty none
        "küche.maß").extensionOk = true ∧
      (verify ⟨false, none⟩ Catalog.ghdr Schema.sharp Document.empty none
        "KÜCHE.MASS").extensionOk = false ∧ ¬ IgnoresCase "küche.maß" := by
  have mapped : Text.upper "küche.maß" = "KÜCHE.MASS" := by decide +kernel
  have accepted : (verify ⟨false, none⟩ Catalog.ghdr Schema.sharp Document.empty none
      "küche.maß").extensionOk = true := by decide +kernel
  have refused : (verify ⟨false, none⟩ Catalog.ghdr Schema.sharp Document.empty none
      "KÜCHE.MASS").extensionOk = false := by decide +kernel
  refine ⟨rfl, mapped, accepted, refused, fun ignores => ?_⟩
  have upper := (ignores ⟨false, none⟩ Catalog.ghdr Schema.sharp Document.empty none).2
  rw [mapped, accepted, refused] at upper
  exact Bool.noConfusion upper

end TreeSchema
