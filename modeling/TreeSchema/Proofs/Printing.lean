/-
This file says which templates have a written form at all: those that are well formed and whose
`$` stand apart from the brackets of the groups that are not repeated. A written form keeps
every `$` of a literal apart from such brackets, so the condition is needed; and where it holds,
the template printed is a written form, because everywhere else the marks of the repeated
groups keep the `$` and the brackets apart.
-/
import TreeSchema.Proofs.Reading
import TreeSchema.Template.Printed

namespace TreeSchema.Template

/-! ### What is written keeps dollars apart -/

theorem Opening.eq_plain {opening : Opening} (single : opening.repeated = false) :
    opening = .plain := by
  cases opening with
  | plain => rfl
  | _ => cases single

/-- A group that is not repeated is written with its bracket first. -/
theorem Written.head?_of_startsWithPlainGroup {template : Template} {text : List Char}
    (writes : Written template text) (plain : template.startsWithPlainGroup = true) :
    text.head? = some '[' := by
  cases writes with
  | group opening =>
    have single : opening.repeated = false := Bool.not_eq_true' _ ▸ plain
    rw [Opening.eq_plain single]
    rfl
  | _ => cases plain

theorem Written.head?_of_startsWithDollar {template : Template} {text : List Char}
    (writes : Written template text) (dollar : template.startsWithDollar = true) :
    text.head? = some '$' := by
  cases writes with
  | literal =>
    rw [List.head?_append, beq_iff_eq.mp dollar]
    rfl
  | _ => cases dollar

theorem Written.dollarsApart {template : Template} {text : List Char}
    (writes : Written template text) : template.DollarsApart := by
  induction writes with
  | done => trivial
  | literal apart tail tailHypothesis =>
    refine ⟨fun dollar => ?_, tailHypothesis⟩
    rw [Bool.eq_false_iff]
    exact fun plain => apart dollar (tail.head?_of_startsWithPlainGroup plain)
  | field _ tailHypothesis => exact tailHypothesis
  | integer _ tailHypothesis => exact tailHypothesis
  | group opening apart inner _ innerHypothesis tailHypothesis =>
    refine ⟨fun single => ?_, innerHypothesis, tailHypothesis⟩
    rw [Bool.eq_false_iff]
    refine fun dollar => apart ?_ (inner.head?_of_startsWithDollar dollar)
    rw [Opening.eq_plain single]
    rfl

/-! ### What is printed is written -/

/-- After a literal nothing is printed with a bracket first, except for a group that is not
repeated. -/
theorem head?_printed_ne_bracket {template : Template}
    (separate : template.startsWithLiteral = false)
    (unplain : template.startsWithPlainGroup = false) :
    (template.printed true).head? ≠ some '[' := by
  cases template with
  | literal => cases separate
  | group repeated =>
    cases repeated with
    | false => cases unplain
    | true => simp [printed]
  | _ => simp [printed]

/-- Where no literal stands before, only a literal is printed with a `$` first. -/
theorem head?_printed_ne_dollar {template : Template} (formed : template.WellFormed)
    (undollared : template.startsWithDollar = false) :
    (template.printed false).head? ≠ some '$' := by
  cases template with
  | literal text rest =>
    obtain ⟨first, text, rfl⟩ := List.exists_cons_of_ne_nil formed.1
    simpa [startsWithDollar, printed] using undollared
  | group repeated => cases repeated <;> simp [printed]
  | _ => simp [printed]

theorem written_printed {template : Template} (formed : template.WellFormed)
    (apart : template.DollarsApart) (afterLiteral : Bool) :
    Written template (template.printed afterLiteral) := by
  induction template generalizing afterLiteral with
  | done => exact .done
  | literal text rest restHypothesis =>
    obtain ⟨_, _, separate, formedRest⟩ := formed
    exact .literal (fun dollar => head?_printed_ne_bracket separate (apart.1 dollar))
      (restHypothesis formedRest apart.2 true)
  | field name rest restHypothesis => exact .field (restHypothesis formed.2.2.2 apart false)
  | integer rest restHypothesis => exact .integer (restHypothesis formed apart false)
  | group repeated body rest bodyHypothesis restHypothesis =>
    obtain ⟨_, formedBody, formedRest⟩ := formed
    obtain ⟨undollared, apartBody, apartRest⟩ := apart
    have writesBody := bodyHypothesis formedBody apartBody false
    have writesRest := restHypothesis formedRest apartRest false
    cases repeated with
    | false =>
      exact .group .plain (fun _ => head?_printed_ne_dollar formedBody (undollared rfl))
        writesBody writesRest
    | true =>
      cases afterLiteral with
      | false => exact .group .inner Bool.noConfusion writesBody writesRest
      | true => exact .group .both Bool.noConfusion writesBody writesRest

/-- The templates that are read from some text are those that are well formed and keep their `$`
apart from brackets, and these are the templates that are read again from what they print. -/
theorem exists_read_iff_dollarsApart (template : Template) :
    ((∃ text, read text = .ok template) ↔ template.WellFormed ∧ template.DollarsApart) ∧
    (template.WellFormed ∧ template.DollarsApart ↔
      read (String.ofList (template.printed false)) = .ok template) := by
  have needed {text : String} (reads : read text = .ok template) :
      template.WellFormed ∧ template.DollarsApart := by
    obtain ⟨formed, writes⟩ := readList_eq_ok_iff.mp (read_eq_ok.mp reads)
    exact ⟨formed, writes.dollarsApart⟩
  have enough : template.WellFormed ∧ template.DollarsApart →
      read (String.ofList (template.printed false)) = .ok template := by
    rintro ⟨formed, apart⟩
    rw [read_eq_ok, String.toList_ofList]
    exact readList_eq_ok_iff.mpr ⟨formed, written_printed formed apart false⟩
  exact ⟨⟨fun ⟨_, reads⟩ => needed reads, fun both => ⟨_, enough both⟩⟩, ⟨enough, needed⟩⟩

end TreeSchema.Template
