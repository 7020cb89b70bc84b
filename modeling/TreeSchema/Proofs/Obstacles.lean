/-
This file says when a verification breaks off, without reference to the order of its steps,
and that it ends with a report otherwise. An ordinal is written where the header is compared
with it, and another one where the header names another version; the limit is written where
it is reached. These are the only whole numbers whose texts are needed. So what is asked of
them is that they are short, where they are needed at all, and what is asked of the limit is
that it is a number, if there is a node to be counted.
-/
import TreeSchema.Proofs.Limits
import TreeSchema.Proofs.Lookups

namespace TreeSchema

/-! ### The header -/

section Report

variable (options : Options) (catalog : Catalog) (schema : Schema) (document : Document)
  (root : Option Nat) (filePath : String)

/-- The header and the limit are all that may break a verification off. -/
theorem Verification.obstacle?_eq :
    obstacle? options catalog schema document root =
      (Header.obstacle? catalog schema (document.follow root)).or
        (options.limit.bind fun limit =>
          if limit.bound.toNat <
              (verify ⟨options.trace, none⟩ catalog schema document root filePath).counted then
            limit.obstacle?
          else none) := by
  obtain ⟨trace, limit⟩ := options
  cases limit with
  | none => rw [obstacle?_unlimited, Option.bind_none, Option.or_none]
  | some limit => exact obstacle?_limited trace limit catalog schema document root filePath

end Report

end TreeSchema
