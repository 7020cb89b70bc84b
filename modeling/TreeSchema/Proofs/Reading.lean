/-
This file proves that the reader of templates accepts exactly the written forms. The
reader is taken apart first: for each element, the templates it reads from a text that
starts with that element. From there the two directions do not mention the reader's
steps again. What is read is written by induction on the length of the text, since a
group uses up as much of it as its body does; what is written is read by induction on
the template. A `$` is the one character whose part depends on what stands after it, so
each direction carries along that a literal's last `$` and the bracket of a group stay
apart.
-/
import TreeSchema.Template.Reader
import TreeSchema.Template.Written

namespace TreeSchema.Template

/-! ### Names and openings -/

/-- A name ends at the first closing angle bracket. -/
theorem readName_append {name : List Char} (unclosed : '>' ∉ name) (rest : List Char) :
    readName (name ++ '>' :: rest) = some (name, rest) := by
  induction name with
  | nil => exact if_pos rfl
  | cons first name inductionHypothesis =>
    rw [List.mem_cons, not_or] at unclosed
    rw [List.cons_append, readName, if_neg (Ne.symm unclosed.1), inductionHypothesis unclosed.2]
    rfl

theorem eq_append_of_readName {text name rest : List Char}
    (read : readName text = some (name, rest)) : text = name ++ '>' :: rest ∧ '>' ∉ name := by
  induction text generalizing name with
  | nil => cases read
  | cons character text inductionHypothesis =>
    rw [readName] at read
    split at read
    next closes =>
      cases read
      exact ⟨by rw [closes]; rfl, List.not_mem_nil⟩
    next continues =>
      obtain ⟨⟨inner, after⟩, found, same⟩ := Option.map_eq_some_iff.mp read
      cases same
      obtain ⟨rfl, unclosed⟩ := inductionHypothesis found
      refine ⟨rfl, ?_⟩
      rw [List.mem_cons, not_or]
      exact ⟨Ne.symm continues, unclosed⟩

theorem readOpening_append {opening : Opening} {body : List Char}
    (apart : opening.marksBody = false → body.head? ≠ some '$') :
    readOpening (opening.text ++ body) = some (opening.repeated, body) := by
  cases body with
  | nil => cases opening <;> rfl
  | cons first body =>
    cases opening with
    | inner | both => rfl
    | plain | outer =>
      have different : first ≠ '$' := fun same => apart rfl (congrArg some same)
      simp [Opening.text, readOpening, Opening.repeated, different]

theorem eq_append_of_readOpening {text body : List Char} {repeated : Bool}
    (read : readOpening text = some (repeated, body)) :
    ∃ opening : Opening, text = opening.text ++ body ∧ opening.repeated = repeated ∧
      (opening.marksBody = false → body.head? ≠ some '$') := by
  unfold readOpening at read
  split at read
  next =>
    cases read
    exact ⟨.inner, rfl, rfl, fun unmarked => Bool.noConfusion unmarked⟩
  next text unmarked =>
    cases read
    refine ⟨.plain, rfl, rfl, fun _ marked => ?_⟩
    obtain ⟨rest, rfl⟩ := List.head?_eq_some_iff.mp marked
    exact unmarked rest rfl
  next =>
    cases read
    exact ⟨.both, rfl, rfl, fun unmarked => Bool.noConfusion unmarked⟩
  next text unmarked =>
    cases read
    refine ⟨.outer, rfl, rfl, fun _ marked => ?_⟩
    obtain ⟨rest, rfl⟩ := List.head?_eq_some_iff.mp marked
    exact unmarked rest rfl
  next => cases read

theorem readOpening_eq_none_iff {character : Char} {after : List Char} :
    readOpening (character :: after) = none ↔
      character ≠ '[' ∧ (character = '$' → after.head? ≠ some '[') := by
  unfold readOpening
  split <;> simp_all [List.head?_eq_some_iff]

/-! ### One element at a time -/

/-- The template is read from the start of the text, and the rest is left. -/
def Reads (inside : Bool) (text : List Char) (template : Template) (rest : List Char) : Prop :=
  ∃ taken, readSequence inside text = .ok taken ∧ taken.template = template ∧ taken.rest = rest

section Elements

variable {inside : Bool} {after rest : List Char} {template : Template}

theorem reads_nil :
    Reads inside [] template rest ↔ inside = false ∧ template = done ∧ rest = [] := by
  rw [Reads, readSequence]
  cases inside with
  | true => simp
  | false =>
    rw [if_neg Bool.false_ne_true]
    constructor
    · rintro ⟨_, read, rfl, rfl⟩
      cases read
      exact ⟨rfl, rfl, rfl⟩
    · rintro ⟨_, rfl, rfl⟩
      exact ⟨_, rfl, rfl, rfl⟩

theorem reads_close :
    Reads inside (']' :: after) template rest ↔ inside = true ∧ template = done ∧ rest = after := by
  rw [Reads, readSequence, if_neg (by decide), if_pos rfl]
  cases inside with
  | false => simp
  | true =>
    rw [if_pos rfl]
    constructor
    · rintro ⟨_, read, rfl, rfl⟩
      cases read
      exact ⟨rfl, rfl, rfl⟩
    · rintro ⟨_, rfl, rfl⟩
      exact ⟨_, rfl, rfl, rfl⟩

theorem not_reads_angle : ¬ Reads inside ('>' :: after) template rest := by
  rintro ⟨_, read, _⟩
  rw [readSequence, if_neg (by decide), if_neg (by decide), if_pos rfl] at read
  cases read

theorem reads_field :
    Reads inside ('<' :: after) template rest ↔
      ∃ name following tail, readName after = some (name, following) ∧ name ≠ [] ∧
        name.any isBarred = false ∧ Reads inside following tail rest ∧
        template = consField name tail := by
  rw [Reads, readSequence, if_pos rfl]
  split
  next unnamed => simp [unnamed]
  next name following named =>
    constructor
    · rintro ⟨_, read, rfl, rfl⟩
      split at read
      · cases read
      next nonempty =>
        split at read
        · cases read
        next free =>
          split at read
          · cases read
          next taken readTail =>
            cases read
            exact ⟨name, following, taken.template, named, nonempty, Bool.not_eq_true _ ▸ free,
              ⟨taken, readTail, rfl, rfl⟩, rfl⟩
    · rintro ⟨_, _, _, same, nonempty, free, ⟨taken, readTail, rfl, rfl⟩, rfl⟩
      rw [named] at same
      cases same
      rw [if_neg nonempty, if_neg (Bool.eq_false_iff.mp free), readTail]
      exact ⟨_, rfl, rfl, rfl⟩

theorem reads_group {character : Char} {repeated : Bool} {inner : List Char}
    (opened : readOpening (character :: after) = some (repeated, inner)) :
    Reads inside (character :: after) template rest ↔
      ∃ body following tail, Reads true inner body following ∧
        ¬ (repeated = true ∧ body = done) ∧ Reads inside following tail rest ∧
        template = group repeated body tail := by
  have notField : character ≠ '<' := by
    rintro rfl
    cases opened
  have notClose : character ≠ ']' := by
    rintro rfl
    cases opened
  have notAngle : character ≠ '>' := by
    rintro rfl
    cases opened
  rw [Reads, readSequence, if_neg notField, if_neg notClose, if_neg notAngle]
  split
  next openedOther =>
    rw [opened, Option.some.injEq, Prod.mk.injEq] at openedOther
    obtain ⟨rfl, rfl⟩ := openedOther
    constructor
    · rintro ⟨_, read, rfl, rfl⟩
      split at read
      · cases read
      next body readBody =>
        split at read
        · cases read
        next filled =>
          split at read
          · cases read
          next taken readTail =>
            cases read
            exact ⟨body.template, body.rest, taken.template, ⟨body, readBody, rfl, rfl⟩, filled,
              ⟨taken, readTail, rfl, rfl⟩, rfl⟩
    · rintro ⟨_, _, _, ⟨body, readBody, rfl, rfl⟩, filled, ⟨taken, readTail, rfl, rfl⟩, rfl⟩
      rw [readBody]
      dsimp only
      rw [if_neg filled, readTail]
      exact ⟨_, rfl, rfl, rfl⟩
  next unopened =>
    rw [opened] at unopened
    cases unopened

theorem reads_character {character : Char} (ordinary : isReserved character = false)
    (unopened : character = '$' → after.head? ≠ some '[') :
    Reads inside (character :: after) template rest ↔
      ∃ tail, Reads inside after tail rest ∧ template = consCharacter character tail := by
  simp only [isReserved, Bool.or_eq_false_iff, beq_eq_false_iff_ne] at ordinary
  obtain ⟨⟨⟨notField, notAngle⟩, notOpen⟩, notClose⟩ := ordinary
  have noOpening := readOpening_eq_none_iff.mpr ⟨notOpen, unopened⟩
  rw [Reads, readSequence, if_neg notField, if_neg notClose, if_neg notAngle]
  split
  next opened =>
    rw [noOpening] at opened
    cases opened
  next =>
    constructor
    · rintro ⟨_, read, rfl, rfl⟩
      split at read
      · cases read
      next taken readTail =>
        cases read
        exact ⟨taken.template, ⟨taken, readTail, rfl, rfl⟩, rfl⟩
    · rintro ⟨_, ⟨taken, readTail, rfl, rfl⟩, rfl⟩
      rw [readTail]
      exact ⟨_, rfl, rfl, rfl⟩

end Elements

/-! ### What closes a sequence -/

/-- What stands after a sequence: the closing bracket of its group, or nothing. -/
def Closes : (inside : Bool) → (closing rest : List Char) → Prop
  | true, closing, rest => closing = ']' :: rest
  | false, closing, rest => closing = [] ∧ rest = []

theorem head?_append_ne {inside : Bool} {written closing rest : List Char} {character : Char}
    (closed : Closes inside closing rest) (different : character ≠ ']')
    (apart : written.head? ≠ some character) : (written ++ closing).head? ≠ some character := by
  cases written with
  | cons => exact apart
  | nil =>
    cases inside with
    | true =>
      rw [closed]
      exact fun same => different (Option.some.inj same).symm
    | false =>
      rw [closed.1]
      exact (Option.some_ne_none _).symm

theorem head?_ne_of_append {written closing : List Char} {character : Char}
    (apart : (written ++ closing).head? ≠ some character) : written.head? ≠ some character := by
  intro same
  rw [List.head?_append, same] at apart
  exact apart rfl

/-! ### What is read is written -/

theorem wellFormed_consField {name : List Char} {rest : Template} (nonempty : name ≠ [])
    (unclosed : '>' ∉ name) (free : name.any isBarred = false) (formed : rest.WellFormed) :
    (consField name rest).WellFormed := by
  unfold consField
  split
  · exact formed
  next isField =>
    refine ⟨nonempty, fun character member => ?_, isField, formed⟩
    have notBarred := List.any_eq_false.mp free character member
    have notAngle : character ≠ '>' := fun same => unclosed (same ▸ member)
    simp only [isBarred, isReserved, Bool.or_eq_true, beq_iff_eq, not_or, Bool.or_eq_false_iff,
      beq_eq_false_iff_ne] at notBarred ⊢
    exact ⟨⟨⟨notBarred.1.1, notAngle⟩, notBarred.1.2⟩, notBarred.2⟩

theorem written_consField {name more : List Char} {rest : Template} (tail : Written rest more) :
    Written (consField name rest) ('<' :: (name ++ '>' :: more)) := by
  unfold consField
  split
  next same =>
    subst same
    exact .integer tail
  · exact .field tail

theorem wellFormed_consCharacter {character : Char} {rest : Template}
    (ordinary : isReserved character = false) (formed : rest.WellFormed) :
    (consCharacter character rest).WellFormed := by
  have alone : ∀ other ∈ [character], isReserved other = false := by
    intro other member
    rw [List.mem_singleton.mp member]
    exact ordinary
  cases rest with
  | literal text rest =>
    obtain ⟨_, ordinaryText, separate, formedRest⟩ := formed
    refine ⟨List.cons_ne_nil _ _, ?_, separate, formedRest⟩
    rw [List.forall_mem_cons]
    exact ⟨ordinary, ordinaryText⟩
  | done => exact ⟨List.cons_ne_nil _ _, alone, rfl, formed⟩
  | field => exact ⟨List.cons_ne_nil _ _, alone, rfl, formed⟩
  | integer => exact ⟨List.cons_ne_nil _ _, alone, rfl, formed⟩
  | group => exact ⟨List.cons_ne_nil _ _, alone, rfl, formed⟩

theorem written_consCharacter {character : Char} {written : List Char} {rest : Template}
    (apart : character = '$' → written.head? ≠ some '[') (formed : rest.WellFormed)
    (tail : Written rest written) :
    Written (consCharacter character rest) (character :: written) := by
  have alone : [character].getLast? = some '$' → written.head? ≠ some '[' :=
    fun last => apart (Option.some.inj last)
  cases tail with
  | literal apartText tail =>
    refine Written.literal (fun last => apartText ?_) tail
    rwa [List.getLast?_cons_of_ne_nil formed.1] at last
  | done => exact .literal alone .done
  | field tail => exact .literal alone (.field tail)
  | integer tail => exact .literal alone (.integer tail)
  | group opening apartBody inner tail =>
    exact .literal alone (.group opening apartBody inner tail)

/-- The text begins with a written form of the template and with what closes it, and the rest is
left. -/
def Begins (inside : Bool) (text : List Char) (template : Template) (rest : List Char) : Prop :=
  template.WellFormed ∧ ∃ written closing, Written template written ∧ Closes inside closing rest ∧
    text = written ++ closing

section Elements

variable {inside : Bool} {after rest : List Char} {tail : Template}

theorem begins_field {name following : List Char} (named : readName after = some (name, following))
    (nonempty : name ≠ []) (free : name.any isBarred = false)
    (begins : Begins inside following tail rest) :
    Begins inside ('<' :: after) (consField name tail) rest := by
  obtain ⟨formed, written, closing, writes, closed, rfl⟩ := begins
  obtain ⟨rfl, unclosed⟩ := eq_append_of_readName named
  refine ⟨wellFormed_consField nonempty unclosed free formed, _, closing, written_consField writes,
    closed, ?_⟩
  simp

theorem begins_group {repeated : Bool} {text inner following : List Char} {body : Template}
    (opened : readOpening text = some (repeated, inner))
    (filled : ¬ (repeated = true ∧ body = done)) (beginsBody : Begins true inner body following)
    (begins : Begins inside following tail rest) :
    Begins inside text (group repeated body tail) rest := by
  obtain ⟨formed, written, closing, writes, closed, rfl⟩ := begins
  obtain ⟨formedBody, writtenBody, _, writesBody, rfl, rfl⟩ := beginsBody
  obtain ⟨opening, rfl, rfl, apart⟩ := eq_append_of_readOpening opened
  have apartBody : opening.marksBody = false → writtenBody.head? ≠ some '$' :=
    fun unmarked => head?_ne_of_append (apart unmarked)
  refine ⟨⟨fun isRepeated empty => filled ⟨isRepeated, empty⟩, formedBody, formed⟩, _, closing,
    .group opening apartBody writesBody writes, closed, ?_⟩
  simp

theorem begins_character {character : Char} (ordinary : isReserved character = false)
    (unopened : character = '$' → after.head? ≠ some '[') (begins : Begins inside after tail rest) :
    Begins inside (character :: after) (consCharacter character tail) rest := by
  obtain ⟨formed, written, closing, writes, closed, rfl⟩ := begins
  have apart : character = '$' → written.head? ≠ some '[' :=
    fun dollar => head?_ne_of_append (unopened dollar)
  exact ⟨wellFormed_consCharacter ordinary formed, character :: written, closing,
    written_consCharacter apart formed writes, closed, rfl⟩

end Elements

theorem Begins.length_lt {text rest : List Char} {template : Template}
    (begins : Begins true text template rest) : rest.length < text.length := by
  obtain ⟨_, written, _, _, rfl, rfl⟩ := begins
  rw [List.length_append, List.length_cons]
  omega

theorem begins_of_reads {inside : Bool} {text rest : List Char} {template : Template}
    (reads : Reads inside text template rest) : Begins inside text template rest := by
  -- A group is followed by a text that is shorter, but that is no tail by construction, so the
  -- induction is on the length.
  induction length : text.length using Nat.strongRecOn
    generalizing inside text rest template with
  | _ _ shorter =>
  subst length
  cases text with
  | nil =>
    obtain ⟨rfl, rfl, rfl⟩ := reads_nil.mp reads
    exact ⟨trivial, [], [], .done, ⟨rfl, rfl⟩, rfl⟩
  | cons character after =>
    by_cases opensField : character = '<'
    · subst opensField
      obtain ⟨name, following, tail, named, nonempty, free, readsTail, rfl⟩ := reads_field.mp reads
      have less := Nat.lt_succ_of_lt (readName_length named)
      exact begins_field named nonempty free (shorter _ less readsTail rfl)
    by_cases closesGroup : character = ']'
    · subst closesGroup
      obtain ⟨rfl, rfl, rfl⟩ := reads_close.mp reads
      exact ⟨trivial, [], _, .done, rfl, rfl⟩
    by_cases closesField : character = '>'
    · subst closesField
      exact absurd reads not_reads_angle
    cases opened : readOpening (character :: after) with
    | some opening =>
      obtain ⟨repeated, inner⟩ := opening
      obtain ⟨body, following, tail, readsBody, filled, readsTail, rfl⟩ :=
        (reads_group opened).mp reads
      have lessBody := readOpening_length opened
      have beginsBody := shorter _ lessBody readsBody rfl
      have less := Nat.lt_trans beginsBody.length_lt lessBody
      exact begins_group opened filled beginsBody (shorter _ less readsTail rfl)
    | none =>
      obtain ⟨notOpen, unopened⟩ := readOpening_eq_none_iff.mp opened
      have ordinary : isReserved character = false := by
        simp [isReserved, opensField, closesField, notOpen, closesGroup]
      obtain ⟨tail, readsTail, rfl⟩ := (reads_character ordinary unopened).mp reads
      exact begins_character ordinary unopened (shorter _ (Nat.lt_succ_self _) readsTail rfl)

/-! ### What is written is read -/

theorem reads_literal {inside : Bool} {text following rest : List Char} {tail : Template}
    (nonempty : text ≠ []) (ordinary : ∀ character ∈ text, isReserved character = false)
    (separate : tail.startsWithLiteral = false)
    (apart : text.getLast? = some '$' → following.head? ≠ some '[')
    (reads : Reads inside following tail rest) :
    Reads inside (text ++ following) (literal text tail) rest := by
  induction text with
  | nil => exact absurd rfl nonempty
  | cons character text inductionHypothesis =>
    rw [List.forall_mem_cons] at ordinary
    cases text with
    | nil =>
      refine (reads_character ordinary.1 fun dollar => apart (congrArg some dollar)).mpr
        ⟨tail, reads, ?_⟩
      cases tail with
      | literal => cases separate
      | _ => rfl
    | cons next text =>
      have unopened : character = '$' → (next :: text ++ following).head? ≠ some '[' := by
        intro _ bracket
        cases Option.some.inj bracket
        exact absurd ordinary.2 (by simp [isReserved])
      refine (reads_character ordinary.1 unopened).mpr ⟨literal (next :: text) tail, ?_, rfl⟩
      exact inductionHypothesis (List.cons_ne_nil _ _) ordinary.2 apart

theorem reads_opened {inside : Bool} {opening : Opening} {text following rest : List Char}
    {body tail : Template} (apart : opening.marksBody = false → text.head? ≠ some '$')
    (filled : opening.repeated = true → body ≠ done) (readsBody : Reads true text body following)
    (readsTail : Reads inside following tail rest) :
    Reads inside (opening.text ++ text) (group opening.repeated body tail) rest := by
  have opened := readOpening_append apart
  cases split : opening.text ++ text with
  | nil => cases opening <;> cases split
  | cons character after =>
    rw [split] at opened
    exact (reads_group opened).mpr ⟨body, following, tail, readsBody,
      fun both => filled both.1 both.2, readsTail, rfl⟩

theorem readName_of_unreserved {name : List Char}
    (ordinary : ∀ character ∈ name, isReserved character = false) (rest : List Char) :
    readName (name ++ '>' :: rest) = some (name, rest) ∧ name.any isBarred = false := by
  refine ⟨readName_append (fun member => ?_) rest, ?_⟩
  · exact absurd (ordinary _ member) (by decide)
  · rw [List.any_eq_false]
    intro character member barred
    have unreserved := ordinary character member
    simp only [isBarred, isReserved, Bool.or_eq_true, Bool.or_eq_false_iff] at barred unreserved
    grind

theorem reads_of_written {inside : Bool} {template : Template} {written closing rest : List Char}
    (formed : template.WellFormed) (writes : Written template written)
    (closed : Closes inside closing rest) : Reads inside (written ++ closing) template rest := by
  induction template generalizing inside written closing rest with
  | done =>
    cases writes
    cases inside with
    | true =>
      cases closed
      exact reads_close.mpr ⟨rfl, rfl, rfl⟩
    | false =>
      obtain ⟨rfl, rfl⟩ := closed
      exact reads_nil.mpr ⟨rfl, rfl, rfl⟩
  | literal text tail tailHypothesis =>
    obtain ⟨nonempty, ordinary, separate, formedTail⟩ := formed
    cases writes with
    | literal apart writesTail =>
      rw [List.append_assoc]
      refine reads_literal nonempty ordinary separate (fun dollar => ?_)
        (tailHypothesis formedTail writesTail closed)
      exact head?_append_ne closed (by decide) (apart dollar)
  | field name tail tailHypothesis =>
    obtain ⟨nonempty, ordinary, different, formedTail⟩ := formed
    cases writes with
    | field writesTail =>
      rw [List.cons_append, List.append_assoc]
      obtain ⟨named, free⟩ := readName_of_unreserved ordinary _
      exact reads_field.mpr ⟨name, _, tail, named, nonempty, free,
        tailHypothesis formedTail writesTail closed, (if_neg different).symm⟩
  | integer tail tailHypothesis =>
    cases writes with
    | integer writesTail =>
      exact reads_field.mpr ⟨integerName, _, tail, rfl, by decide, by decide,
        tailHypothesis formed writesTail closed, (if_pos rfl).symm⟩
  | group repeated body tail bodyHypothesis tailHypothesis =>
    obtain ⟨filled, formedBody, formedTail⟩ := formed
    cases writes with
    | @group inner more _ _ opening apart writesBody writesTail =>
      have closedBody : Closes true (']' :: (more ++ closing)) (more ++ closing) := rfl
      have readsBody := bodyHypothesis formedBody writesBody closedBody
      have readsTail := tailHypothesis formedTail writesTail closed
      have regroup : opening.text ++ (inner ++ ']' :: more) ++ closing =
          opening.text ++ (inner ++ ']' :: (more ++ closing)) := by simp
      rw [regroup]
      refine reads_opened (fun unmarked => ?_) filled readsBody readsTail
      exact head?_append_ne closedBody (by decide) (apart unmarked)

/-! ### The reader -/

theorem readList_eq_ok_iff {text : List Char} {template : Template} :
    readList text = .ok template ↔ template.WellFormed ∧ Written template text := by
  constructor
  · intro read
    rw [readList] at read
    split at read
    · cases read
    next taken readTaken =>
      obtain ⟨formed, written, _, writes, ⟨rfl, _⟩, whole⟩ :=
        begins_of_reads ⟨taken, readTaken, Except.ok.inj read, rfl⟩
      rw [whole, List.append_nil]
      exact ⟨formed, writes⟩
  · rintro ⟨formed, writes⟩
    have closed : Closes false [] [] := ⟨rfl, rfl⟩
    have reads := reads_of_written formed writes closed
    rw [List.append_nil] at reads
    obtain ⟨taken, readTaken, rfl, _⟩ := reads
    rw [readList, readTaken]

theorem read_eq_ok {text : String} {template : Template} :
    read text = .ok template ↔ readList text.toList = .ok template := by
  unfold read
  cases readList text.toList <;> simp

/-- The reader returns exactly the well-formed template that the text is a written form of, and it
refuses exactly the texts that are the written form of no well-formed template. -/
theorem read_eq_ok_iff_written (text : String) :
    (∀ template, read text = .ok template ↔
      template.WellFormed ∧ Written template text.toList) ∧
    ((∃ fault, read text = .error fault) ↔
      ∀ template, ¬ (template.WellFormed ∧ Written template text.toList)) := by
  have reads : ∀ template, read text = .ok template ↔
      template.WellFormed ∧ Written template text.toList :=
    fun template => read_eq_ok.trans readList_eq_ok_iff
  refine ⟨reads, ?_⟩
  constructor
  · rintro ⟨fault, refused⟩ template written
    rw [(reads template).mpr written] at refused
    cases refused
  · intro none
    cases result : read text with
    | error fault => exact ⟨fault, rfl⟩
    | ok template => exact absurd ((reads template).mp result) (none template)

end TreeSchema.Template
