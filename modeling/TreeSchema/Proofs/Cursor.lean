/-
This file proves that reading by position ends, wherever in a text it starts, and says where.
The loop knows only a position and what it has read before it; the reader on lists knows only
what remains. So a position is tied to what remains of the text there, and each turn of the loop
is compared with what the reader does to a text that starts in this way. The induction follows
the reader, whose rest gets shorter with every element, so one turn for each character that
remains, and one more, are always enough. After a group the loop goes on where the body ended,
which is known only from the body, so that the end of the loop and what it comes to are proved
together. What was read is then a written form, which tells where the sequence ends and which of
the brackets in it is the closing one.
-/
import TreeSchema.Proofs.Brackets
import TreeSchema.Proofs.Reading
import TreeSchema.Template.Cursor

namespace TreeSchema.Template

/-! ### Elements put together -/

theorem append_done (template : Template) : template.append done = template := by
  induction template with
  | done => rfl
  | literal text rest inductionHypothesis => rw [append, inductionHypothesis]
  | field name rest inductionHypothesis => rw [append, inductionHypothesis]
  | integer rest inductionHypothesis => rw [append, inductionHypothesis]
  | group repeated body rest _ inductionHypothesis => rw [append, inductionHypothesis]

theorem append_assoc (first second third : Template) :
    (first.append second).append third = first.append (second.append third) := by
  induction first with
  | done => rfl
  | literal text rest inductionHypothesis => simp only [append, inductionHypothesis]
  | field name rest inductionHypothesis => simp only [append, inductionHypothesis]
  | integer rest inductionHypothesis => simp only [append, inductionHypothesis]
  | group repeated body rest _ inductionHypothesis => simp only [append, inductionHypothesis]

theorem consField_append (name : List Char) (rest : Template) :
    (consField name done).append rest = consField name rest := by
  unfold consField
  split <;> rfl

theorem startsWithLiteral_consField (name : List Char) (rest : Template) :
    (consField name rest).startsWithLiteral = false := by
  unfold consField
  split <;> rfl

/-- Characters before a template that starts with no literal make up a literal. -/
theorem foldr_consCharacter {characters : List Char} {rest : Template}
    (nonempty : characters ≠ []) (separate : rest.startsWithLiteral = false) :
    characters.foldr consCharacter rest = literal characters rest := by
  induction characters with
  | nil => exact absurd rfl nonempty
  | cons character characters inductionHypothesis =>
    rw [List.foldr_cons]
    cases characters with
    | nil =>
      cases rest with
      | literal => cases separate
      | _ => rfl
    | cons next characters => rw [inductionHypothesis (List.cons_ne_nil _ _), consCharacter]

/-- What is left behind a sequence is an end of the text that the sequence starts. -/
theorem suffix_of_reads {inside : Bool} {text rest : List Char} {template : Template}
    (reads : Reads inside text template rest) : rest <:+ text := by
  obtain ⟨_, written, closing, _, closed, rfl⟩ := begins_of_reads reads
  cases inside with
  | true =>
    rw [closed]
    exact (List.suffix_cons _ _).trans (List.suffix_append _ _)
  | false =>
    rw [closed.2]
    exact List.nil_suffix

namespace Cursor

variable {cursor : Cursor}

/-- The elements before a cursor and those of a template that is read from there on. -/
def joined (cursor : Cursor) (rest : Template) : Template :=
  cursor.elements.append (cursor.pending.foldr consCharacter rest)

theorem joined_keep (character : Char) (rest : Template) :
    (cursor.keep character).joined rest = cursor.joined (consCharacter character rest) := by
  rw [joined, keep, List.foldr_append]
  rfl

theorem flush_append {rest : Template} (separate : rest.startsWithLiteral = false) :
    cursor.flush.append rest = cursor.joined rest := by
  rw [flush, joined]
  split
  next nothing => rw [nothing, List.foldr_nil]
  next something => rw [append_assoc, append, append, foldr_consCharacter something separate]

theorem joined_done : cursor.joined .done = cursor.flush := by
  rw [← flush_append rfl, append_done]

theorem joined_add {element rest : Template} {position : Nat}
    (separate : (element.append rest).startsWithLiteral = false) :
    (cursor.add element position).joined rest = cursor.joined (element.append rest) := by
  rw [← flush_append separate, ← append_assoc]
  rfl

/-! ### Positions and what remains -/

/-- What remains of a text from a position on. -/
structure Remains (text : List Char) (position : Nat) (rest : List Char) : Prop where
  within : position ≤ text.length
  drop_eq : text.drop position = rest

theorem remains_drop {text : List Char} {position : Nat} (within : position ≤ text.length) :
    Remains text position (text.drop position) := ⟨within, rfl⟩

namespace Remains

variable {text rest part : List Char} {position : Nat}

theorem length_eq (remains : Remains text position rest) :
    position + rest.length = text.length := by
  rw [← remains.drop_eq, List.length_drop]
  exact Nat.add_sub_cancel' remains.within

theorem position_eq (remains : Remains text position rest) :
    text.length - rest.length = position := by
  have length := remains.length_eq
  omega

theorem getElem?_eq (remains : Remains text position rest) (index : Nat) :
    text[position + index]? = rest[index]? := by
  rw [← remains.drop_eq, List.getElem?_drop]

theorem head?_eq (remains : Remains text position rest) : text[position]? = rest.head? := by
  rw [← remains.drop_eq, List.head?_drop]

theorem advance (remains : Remains text position (part ++ rest)) :
    Remains text (position + part.length) rest := by
  have length := remains.length_eq
  rw [List.length_append] at length
  refine ⟨by omega, ?_⟩
  rw [← List.drop_drop, remains.drop_eq, List.drop_left]

theorem step {character : Char} (remains : Remains text position (character :: rest)) :
    Remains text (position + 1) rest := by
  have single : Remains text position ([character] ++ rest) := remains
  exact single.advance

theorem of_suffix {tail : List Char} (remains : Remains text position rest)
    (suffix : tail <:+ rest) : Remains text (text.length - tail.length) tail := by
  obtain ⟨part, rfl⟩ := suffix
  have behind := remains.advance
  rw [behind.position_eq]
  exact behind

theorem extract_eq (remains : Remains text position (part ++ rest)) :
    text.extract position (position + part.length) = part := by
  rw [List.extract_eq_take_drop, remains.drop_eq, Nat.add_sub_cancel_left, List.take_left]

end Remains

/-! ### Turns -/

section Turns

variable {text after : List Char} {inside : Bool}

theorem turn_nil (remains : Remains text cursor.position []) :
    turn text inside cursor =
      if inside then .raises .unclosedGroup else .returns cursor.flush cursor.position := by
  rw [turn, remains.head?_eq]
  rfl

theorem turn_close (remains : Remains text cursor.position (']' :: after)) :
    turn text inside cursor =
      if inside then .returns cursor.flush (cursor.position + 1) else .raises .strayBracket := by
  rw [turn, remains.head?_eq]
  simp

theorem turn_angle (remains : Remains text cursor.position ('>' :: after)) :
    turn text inside cursor = .raises .strayAngle := by
  rw [turn, remains.head?_eq]
  simp

theorem idxOf?_eq_readName (after : List Char) :
    after.idxOf? '>' = (readName after).map fun (name, _) => name.length := by
  induction after with
  | nil => rfl
  | cons character after inductionHypothesis =>
    rw [List.idxOf?_cons, readName, inductionHypothesis]
    by_cases closes : character = '>'
    · rw [if_pos closes, if_pos (beq_iff_eq.mpr closes)]
      rfl
    · rw [if_neg closes, if_neg (mt beq_iff_eq.mp closes), Option.map_map, Option.map_map]
      rfl

theorem turn_field (remains : Remains text cursor.position ('<' :: after)) :
    turn text inside cursor =
      match readName after with
      | none => .raises .unclosedField
      | some (name, _) =>
        if name = [] then .raises .emptyField
        else if name.any isBarred then .raises (.badFieldName name)
        else .goesOn (cursor.add (consField name .done)
          (cursor.position + 1 + name.length + 1)) := by
  rw [turn, remains.head?_eq]
  show fieldTurn text cursor = _
  rw [fieldTurn, find, remains.step.drop_eq, idxOf?_eq_readName]
  cases named : readName after with
  | none => rfl
  | some found =>
    obtain ⟨name, following⟩ := found
    have afterBracket := remains.step
    rw [(eq_append_of_readName named).1] at afterBracket
    dsimp only [Option.map_some]
    rw [afterBracket.extract_eq]

theorem turn_opening {opening : Opening} {body : List Char}
    (remains : Remains text cursor.position (opening.text ++ body))
    (apart : opening.marksBody = false → body.head? ≠ some '$') :
    turn text inside cursor =
      .opens opening.repeated (cursor.position + opening.text.length) := by
  have first := remains.getElem?_eq 1
  have second := remains.getElem?_eq 2
  rw [turn, remains.head?_eq]
  cases opening with
  | plain =>
    have unmarked : text[cursor.position + 1]? ≠ some '$' := by
      rw [remains.step.head?_eq]
      exact apart rfl
    simp [Opening.text, groupTurn, unmarked, Opening.repeated]
  | inner => simp_all [Opening.text, groupTurn, Opening.repeated]
  | outer =>
    have unmarked : text[cursor.position + 2]? ≠ some '$' := by
      rw [remains.step.step.head?_eq]
      exact apart rfl
    simp_all [Opening.text, groupTurn, Opening.repeated]
  | both => simp_all [Opening.text, groupTurn, Opening.repeated]

theorem turn_character {character : Char}
    (remains : Remains text cursor.position (character :: after)) (notField : character ≠ '<')
    (notClose : character ≠ ']') (notAngle : character ≠ '>')
    (unopened : readOpening (character :: after) = none) :
    turn text inside cursor = .goesOn (cursor.keep character) := by
  obtain ⟨notOpen, apart⟩ := readOpening_eq_none_iff.mp unopened
  have notGroup : ¬ (character = '[' ∨
      (character = '$' ∧ text[cursor.position + 1]? = some '[')) := by
    rintro (opens | ⟨marked, opens⟩)
    · exact notOpen opens
    · rw [remains.step.head?_eq] at opens
      exact apart marked opens
  rw [turn, remains.head?_eq]
  dsimp only [List.head?_cons]
  rw [if_neg notField, if_neg notGroup, if_neg notClose, if_neg notAngle]

end Turns

/-! ### The loop -/

/-- What the loop comes to at a cursor if the rest of the text is read in the way given. -/
def outcome (text : String) (cursor : Cursor) {rest : List Char} :
    Except Stop (Taken rest) → Except Fault (Template × Nat)
  | .error stop => .error ⟨text, text.toList.length - stop.rest.length, stop.reason⟩
  | .ok taken => .ok (cursor.joined taken.template, text.toList.length - taken.rest.length)

section Loop

variable {text : String} {turns : Nat} {inside : Bool} {rest : List Char}

/-- With one turn or more, the loop does what the turn says and has one turn fewer from there on. -/
theorem loop_eq_turn (enough : 0 < turns) :
    loop text turns inside cursor =
      match turn text.toList inside cursor with
      | .goesOn next => loop text (turns - 1) inside next
      | .opens repeated inner => loop text (turns - 1) true (start inner) >>= fun result =>
        match result with
        | .error fault => some (.error fault)
        | .ok (body, after) =>
          if repeated ∧ body = .done then
            some (.error ⟨text, cursor.position, .emptyRepeatedGroup⟩)
          else loop text (turns - 1) inside (cursor.add (.group repeated body .done) after)
      | .returns template position => some (.ok (template, position))
      | .raises reason => some (.error ⟨text, cursor.position, reason⟩) := by
  cases turns with
  | zero => exact absurd enough (Nat.lt_irrefl 0)
  | succ turns => rfl

/-- What the loop comes to, it also comes to with more turns. -/
theorem loop_of_le {more : Nat} {result : Except Fault (Template × Nat)} (few : turns ≤ more)
    (ended : loop text turns inside cursor = some result) :
    loop text more inside cursor = some result := by
  induction turns generalizing more inside cursor result with
  | zero => cases ended
  | succ turns inductionHypothesis =>
    have fewer : turns ≤ more - 1 := Nat.le_sub_one_of_lt few
    rw [loop_eq_turn (Nat.zero_lt_of_lt few)]
    rw [loop] at ended
    cases turned : turn text.toList inside cursor with
    | goesOn next =>
      rw [turned] at ended
      exact inductionHypothesis fewer ended
    | opens repeated inner =>
      rw [turned] at ended
      obtain ⟨found, body, ended⟩ := Option.bind_eq_some_iff.mp ended
      show loop text (more - 1) true (start inner) >>= _ = _
      rw [inductionHypothesis fewer body]
      cases found with
      | error fault => exact ended
      | ok read =>
        obtain ⟨template, after⟩ := read
        by_cases empty : repeated = true ∧ template = done
        · exact (if_pos empty).trans ((if_pos empty).symm.trans ended)
        · exact (if_neg empty).trans (inductionHypothesis fewer ((if_neg empty).symm.trans ended))
    | returns template position =>
      rw [turned] at ended
      exact ended
    | raises reason =>
      rw [turned] at ended
      exact ended

theorem loop_of_raises {reason : Reason} (enough : rest.length < turns)
    (remains : Remains text.toList cursor.position rest)
    (raised : turn text.toList inside cursor = .raises reason) :
    loop text turns inside cursor =
      some (cursor.outcome text (.error ⟨reason, rest⟩ : Except Stop (Taken rest))) := by
  rw [loop_eq_turn (Nat.zero_lt_of_lt enough), raised, outcome, remains.position_eq]

theorem loop_of_returns {position : Nat} {taken : Taken rest} (enough : rest.length < turns)
    (remains : Remains text.toList position taken.rest) (nothing : taken.template = done)
    (returned : turn text.toList inside cursor = .returns cursor.flush position) :
    loop text turns inside cursor = some (cursor.outcome text (.ok taken)) := by
  rw [loop_eq_turn (Nat.zero_lt_of_lt enough), returned, outcome, remains.position_eq, nothing,
    joined_done]

/-- With the turns given, the loop comes from every cursor at the rest to what the reader makes of
the rest. -/
def Ends (text : String) (turns : Nat) (inside : Bool) (rest : List Char) : Prop :=
  ∀ cursor, Remains text.toList cursor.position rest →
    loop text turns inside cursor = some (outcome text cursor (readSequence inside rest))

/-- The loop goes on at another cursor, with one turn fewer and with the text that follows. What was
read up to there is what was read up to the first cursor and what `change` puts before a
template. -/
structure Continues (text : String) (turns : Nat) (inside : Bool) (cursor next : Cursor)
    (following : List Char) (change : Template → Template) : Prop where
  loop_eq : loop text turns inside cursor = loop text (turns - 1) inside next
  remains : Remains text.toList next.position following
  joined : ∀ tail, next.joined tail = cursor.joined (change tail)

namespace Continues

variable {next : Cursor} {following : List Char} {change : Template → Template}

theorem of_error {stop : Stop}
    (continues : Continues text turns inside cursor next following change)
    (ends : Ends text (turns - 1) inside following)
    (later : readSequence inside following = .error stop) :
    loop text turns inside cursor =
      some (cursor.outcome text (.error stop : Except Stop (Taken rest))) := by
  rw [continues.loop_eq, ends next continues.remains, later]
  rfl

theorem of_ok {taken : Taken following}
    (continues : Continues text turns inside cursor next following change)
    (ends : Ends text (turns - 1) inside following)
    (later : readSequence inside following = .ok taken)
    (bounded : taken.rest.length ≤ rest.length) :
    loop text turns inside cursor = some (cursor.outcome text
      (.ok ⟨change taken.template, taken.rest, bounded⟩ : Except Stop (Taken rest))) := by
  rw [continues.loop_eq, ends next continues.remains, later, outcome, outcome, continues.joined]

end Continues

/-- Behind a field. -/
theorem continues_field {after name following : List Char}
    (enough : ('<' :: after).length < turns)
    (remains : Remains text.toList cursor.position ('<' :: after))
    (named : readName after = some (name, following)) (nonempty : name ≠ [])
    (free : ¬ name.any isBarred = true) :
    ∃ next, Continues text turns inside cursor next following (consField name) := by
  have turned : turn text.toList inside cursor = .goesOn (cursor.add (consField name .done)
      (cursor.position + 1 + name.length + 1)) := by
    rw [turn_field remains, named]
    exact (if_neg nonempty).trans (if_neg free)
  refine ⟨cursor.add (consField name .done) (cursor.position + 1 + name.length + 1),
    by rw [loop_eq_turn (Nat.zero_lt_of_lt enough), turned], ?_, fun tail => ?_⟩
  · have afterBracket := remains.step
    rw [(eq_append_of_readName named).1] at afterBracket
    exact afterBracket.advance.step
  · have separate := startsWithLiteral_consField name tail
    rw [← consField_append name tail] at separate ⊢
    exact joined_add separate

/-- Behind a character of a literal. -/
theorem continues_character {character : Char} {after : List Char}
    (enough : (character :: after).length < turns)
    (remains : Remains text.toList cursor.position (character :: after))
    (notField : character ≠ '<') (notClose : character ≠ ']') (notAngle : character ≠ '>')
    (unopened : readOpening (character :: after) = none) :
    Continues text turns inside cursor (cursor.keep character) after
      (consCharacter character) := by
  refine ⟨?_, remains.step, joined_keep character⟩
  rw [loop_eq_turn (Nat.zero_lt_of_lt enough),
    turn_character remains notField notClose notAngle unopened]

/-- At a group, the loop reads the body first. -/
theorem loop_group {after inner : List Char} {repeated : Bool} (enough : after.length < turns)
    (remains : Remains text.toList cursor.position after)
    (opened : readOpening after = some (repeated, inner))
    (ends : Ends text (turns - 1) true inner) :
    ∃ position, Remains text.toList position inner ∧
      loop text turns inside cursor =
        match (start position).outcome text (readSequence true inner) with
        | .error fault => some (.error fault)
        | .ok (body, behind) =>
          if repeated ∧ body = .done then
            some (.error ⟨text, cursor.position, .emptyRepeatedGroup⟩)
          else loop text (turns - 1) inside (cursor.add (.group repeated body .done) behind) := by
  obtain ⟨opening, rfl, rfl, apart⟩ := eq_append_of_readOpening opened
  have remainsInner := remains.advance
  refine ⟨_, remainsInner, ?_⟩
  rewrite [loop_eq_turn (Nat.zero_lt_of_lt enough), turn_opening remains apart]
  dsimp only
  rewrite [ends (start _) remainsInner]
  rfl

/-- Behind a group whose body is not at fault. -/
theorem continues_group {after inner : List Char} {repeated : Bool} {body : Taken inner}
    (enough : after.length < turns) (remains : Remains text.toList cursor.position after)
    (opened : readOpening after = some (repeated, inner))
    (ends : Ends text (turns - 1) true inner) (read : readSequence true inner = .ok body)
    (filled : ¬ (repeated = true ∧ body.template = done)) :
    ∃ next, Continues text turns inside cursor next body.rest
      (group repeated body.template) := by
  obtain ⟨position, remainsInner, went⟩ := loop_group enough remains opened ends
  refine ⟨cursor.add (.group repeated body.template .done)
    (text.toList.length - body.rest.length), ?_, ?_, fun tail => joined_add rfl⟩
  · rw [went, read]
    exact if_neg filled
  · exact remainsInner.of_suffix (suffix_of_reads ⟨body, read, rfl, rfl⟩)

/-- Where less of the text remains, one turn fewer is enough. -/
theorem lt_pred_of_shorter {part : List Char} (shorter : part.length < rest.length)
    (enough : rest.length < turns) : part.length < turns - 1 :=
  Nat.lt_of_lt_of_le shorter (Nat.le_sub_one_of_lt enough)

/-- Wherever the loop is, it ends after at most one turn more than there are characters left, and it
comes to what the reader makes of these. -/
theorem ends_of_lt (enough : rest.length < turns) : Ends text turns inside rest := by
  intro cursor remains
  fun_induction readSequence inside rest generalizing cursor turns with
  -- the end of the text
  | case1 => exact loop_of_raises enough remains ((turn_nil remains).trans (if_pos rfl))
  | case2 inside outside =>
    exact loop_of_returns enough remains rfl ((turn_nil remains).trans (if_neg outside))
  -- a field: it is at fault, or the loop goes on behind it
  | case3 inside after unnamed =>
    refine loop_of_raises enough remains ?_
    rw [turn_field remains, unnamed]
  | case4 inside after following named =>
    refine loop_of_raises enough remains ?_
    rw [turn_field remains, named]
    exact if_pos rfl
  | case5 inside after name following named nonempty barred =>
    refine loop_of_raises enough remains ?_
    rw [turn_field remains, named]
    exact (if_neg nonempty).trans (if_pos barred)
  | case6 inside after name following named nonempty free stop later inductionHypothesis =>
    obtain ⟨next, continues⟩ := continues_field enough remains named nonempty free
    have shorter : following.length < ('<' :: after).length :=
      Nat.lt_succ_of_lt (readName_length named)
    exact continues.of_error (inductionHypothesis (lt_pred_of_shorter shorter enough)) later
  | case7 inside after name following named nonempty free taken later inductionHypothesis =>
    obtain ⟨next, continues⟩ := continues_field enough remains named nonempty free
    have shorter : following.length < ('<' :: after).length :=
      Nat.lt_succ_of_lt (readName_length named)
    exact continues.of_ok (inductionHypothesis (lt_pred_of_shorter shorter enough)) later _
  -- a closing bracket, and an angle bracket that closes nothing
  | case8 => exact loop_of_returns enough remains.step rfl ((turn_close remains).trans (if_pos rfl))
  | case9 inside after outside =>
    exact loop_of_raises enough remains ((turn_close remains).trans (if_neg outside))
  | case10 => exact loop_of_raises enough remains (turn_angle remains)
  -- a group: its body is at fault, or the group itself, or the loop goes on behind it
  | case11 inside character after _ _ _ repeated inner opened stop within inductionHypothesis =>
    have shorter := readOpening_length opened
    obtain ⟨position, _, went⟩ := loop_group enough remains opened
      (inductionHypothesis (lt_pred_of_shorter shorter enough))
    rw [went, within]
    rfl
  | case12 inside character after _ _ _ repeated inner opened body within empty
      inductionHypothesis =>
    have shorter := readOpening_length opened
    obtain ⟨position, _, went⟩ := loop_group enough remains opened
      (inductionHypothesis (lt_pred_of_shorter shorter enough))
    rw [went, within, outcome, outcome, remains.position_eq]
    exact if_pos empty
  | case13 inside character after _ _ _ repeated inner opened body within filled stop later
      innerHypothesis inductionHypothesis =>
    have shorter := readOpening_length opened
    have shorterBehind := Nat.lt_of_le_of_lt body.bounded shorter
    obtain ⟨next, continues⟩ := continues_group enough remains opened
      (innerHypothesis (lt_pred_of_shorter shorter enough)) within filled
    exact continues.of_error (inductionHypothesis (lt_pred_of_shorter shorterBehind enough)) later
  | case14 inside character after _ _ _ repeated inner opened body within filled taken later
      innerHypothesis inductionHypothesis =>
    have shorter := readOpening_length opened
    have shorterBehind := Nat.lt_of_le_of_lt body.bounded shorter
    obtain ⟨next, continues⟩ := continues_group enough remains opened
      (innerHypothesis (lt_pred_of_shorter shorter enough)) within filled
    exact continues.of_ok (inductionHypothesis (lt_pred_of_shorter shorterBehind enough)) later _
  -- a character of a literal
  | case15 inside character after notField notClose notAngle unopened stop later
      inductionHypothesis =>
    have continues : Continues text turns inside cursor _ after _ :=
      continues_character enough remains notField notClose notAngle unopened
    have shorter : after.length < (character :: after).length := Nat.lt_succ_self _
    exact continues.of_error (inductionHypothesis (lt_pred_of_shorter shorter enough)) later
  | case16 inside character after notField notClose notAngle unopened taken later
      inductionHypothesis =>
    have continues : Continues text turns inside cursor _ after _ :=
      continues_character enough remains notField notClose notAngle unopened
    have shorter : after.length < (character :: after).length := Nat.lt_succ_self _
    exact continues.of_ok (inductionHypothesis (lt_pred_of_shorter shorter enough)) later _

end Loop

end Cursor

/-! ### Where a sequence ends -/

/-- The position behind a sequence lies between its start and the end of the text. Inside a group
it is the one behind the bracket that closes the group, outside it is the end of the text. -/
structure EndsAt (text : List Char) (inside : Bool) (position finish : Nat) : Prop where
  forward : position ≤ finish
  within : finish ≤ text.length
  closes : inside = true → position < finish ∧ text[finish - 1]? = some ']' ∧
    Balanced (text.extract position (finish - 1))
  exhausts : inside = false → finish = text.length

theorem endsAt_of_begins {text rest : List Char} {inside : Bool} {position : Nat}
    {template : Template} (within : position ≤ text.length)
    (begins : Begins inside (text.drop position) template rest) :
    EndsAt text inside position (text.length - rest.length) := by
  obtain ⟨formed, written, closing, writes, closed, same⟩ := begins
  have remains : Cursor.Remains text position (written ++ closing) := ⟨within, same⟩
  have length := remains.length_eq
  rw [List.length_append] at length
  cases inside with
  | true =>
    subst closed
    have bracket : text.length - rest.length = position + written.length + 1 := by
      rw [List.length_cons] at length
      omega
    rw [bracket]
    refine ⟨by omega, by omega, fun _ => ⟨by omega, ?_, ?_⟩, Bool.noConfusion⟩
    · rw [Nat.add_sub_cancel, remains.advance.head?_eq, List.head?_cons]
    · rw [Nat.add_sub_cancel, remains.extract_eq]
      exact writes.balanced formed
  | false =>
    obtain ⟨rfl, rfl⟩ := closed
    exact ⟨within, Nat.le_refl _, Bool.noConfusion, fun _ => rfl⟩

theorem readAt_eq {text : String} {turns position : Nat} (within : position ≤ text.length)
    (enough : text.length - position < turns) (inside : Bool) :
    readAt text turns inside position = some ((Cursor.start position).outcome text
      (readSequence inside (text.toList.drop position))) := by
  rw [← String.length_toList] at within enough
  rw [← List.length_drop] at enough
  exact Cursor.ends_of_lt enough _ (Cursor.remains_drop within)

/-- With enough turns, reading a whole text by position comes to what the reader makes of it. -/
theorem readWhole_eq {text : String} {turns : Nat} (enough : text.length < turns) :
    readWhole text turns = some ((read text).mapError .fault) := by
  rw [readWhole, readAt_eq (Nat.zero_le _) enough, List.drop_zero, read, readList]
  cases sequence : readSequence false text.toList with
  | error stop => rfl
  | ok taken =>
    have begins := begins_of_reads ⟨taken, sequence, rfl, rfl⟩
    have ends := endsAt_of_begins (Nat.zero_le text.toList.length) begins
    exact if_pos ((ends.exhausts rfl).trans String.length_toList)

/-- With fewer turns it comes to this as well, or to nothing. -/
theorem eq_of_readWhole {text : String} {turns : Nat} {result : Except Refusal Template}
    (ended : readWhole text turns = some result) : result = (read text).mapError .fault := by
  obtain ⟨found, sequence, checked⟩ := Option.bind_eq_some_iff.mp ended
  have more : readWhole text (turns + (text.length + 1)) = some result := by
    have same := Cursor.loop_of_le (Nat.le_add_right turns (text.length + 1)) sequence
    rw [readWhole, readAt, same]
    exact checked
  rw [readWhole_eq (by omega)] at more
  exact (Option.some.inj more).symm

/-- From every position of a text, inside a group and outside of all groups, reading ends after at
most one turn more than there are characters left: with a fault where the reader refuses these, else
with the template that the reader makes of them and with the position behind. A whole text is read
as the reader does it, and none is refused for what is left behind the sequence at its start. -/
theorem readAt_ends (text : String) :
    (∀ (inside : Bool) (position : Nat), position ≤ text.length →
      ∃ result, (∀ turns, text.length - position < turns →
          readAt text turns inside position = some result) ∧
        ((∃ fault, result = .error fault ∧
            ∀ template rest, ¬ Reads inside (text.toList.drop position) template rest) ∨
          ∃ template finish, result = .ok (template, finish) ∧
            Reads inside (text.toList.drop position) template (text.toList.drop finish) ∧
            EndsAt text.toList inside position finish)) ∧
    (∀ turns, text.length < turns →
      readWhole text turns = some ((read text).mapError .fault)) ∧
    ∀ turns template position,
      readWhole text turns ≠ some (.error (.trailing template position)) := by
  refine ⟨fun inside position within => ?_, fun _ => readWhole_eq, ?_⟩
  · refine ⟨_, fun turns enough => readAt_eq within enough inside, ?_⟩
    rw [← String.length_toList] at within
    cases sequence : readSequence inside (text.toList.drop position) with
    | error stop =>
      refine Or.inl ⟨_, rfl, ?_⟩
      rintro template rest ⟨taken, read, _⟩
      rw [sequence] at read
      cases read
    | ok taken =>
      have reads : Reads inside (text.toList.drop position) taken.template taken.rest :=
        ⟨taken, sequence, rfl, rfl⟩
      have behind := (Cursor.remains_drop within).of_suffix (suffix_of_reads reads)
      refine Or.inr ⟨_, _, rfl, ?_, endsAt_of_begins within (begins_of_reads reads)⟩
      -- nothing was read before the start, so what the loop returns is what was read from there
      show Reads inside (text.toList.drop position) taken.template _
      rw [behind.drop_eq]
      exact reads
  · intro turns template position trailing
    have refused := eq_of_readWhole trailing
    cases outcome : read text <;> rw [outcome] at refused <;> cases refused

/-- The body of a group with a repeated group in it, read from the position behind its bracket. -/
theorem readAt_ends_nested :
    2 ≤ "a[<b>$[c]]d".length ∧
      ∃ result, (∀ turns, "a[<b>$[c]]d".length - 2 < turns →
          readAt "a[<b>$[c]]d" turns true 2 = some result) ∧
        result = .ok (field ['b'] (group true (literal ['c'] done) done), 10) ∧
        EndsAt "a[<b>$[c]]d".toList true 2 10 := by
  have within : 2 ≤ "a[<b>$[c]]d".length := by decide
  have value : readAt "a[<b>$[c]]d" 10 true 2 =
      some (.ok (field ['b'] (group true (literal ['c'] done) done), 10)) := rfl
  obtain ⟨result, ends, outcome⟩ := (readAt_ends "a[<b>$[c]]d").1 true 2 within
  have same := Option.some.inj ((ends 10 (by decide)).symm.trans value)
  subst same
  refine ⟨within, _, ends, rfl, ?_⟩
  rcases outcome with ⟨fault, refused, _⟩ | ⟨template, finish, accepted, _, endsAt⟩
  · cases refused
  · cases accepted
    exact endsAt

end TreeSchema.Template
