/-
This file reads the quoted texts of JSON, from the character after the opening
quote to the one after the closing quote. Reading uses up some of the text, which
is what lets the reading of values end.
-/
import TreeSchema.Json.Fault

namespace TreeSchema.Json

def quote : Char := '\x22'

def escape : Char := '\x5c'

/-- The value of a hexadecimal digit of either case. -/
def hexValue? (character : Char) : Option Nat :=
  if '0' ≤ character ∧ character ≤ '9' then some (character.toNat - 48)
  else if 'a' ≤ character ∧ character ≤ 'f' then some (character.toNat - 87)
  else if 'A' ≤ character ∧ character ≤ 'F' then some (character.toNat - 55)
  else none

/-- The number that four hexadecimal digits spell. -/
def hexNumber? (first second third fourth : Char) : Option Nat := do
  let first ← hexValue? first
  let second ← hexValue? second
  let third ← hexValue? third
  let fourth ← hexValue? fourth
  return ((first * 16 + second) * 16 + third) * 16 + fourth

/-- The character behind a one-letter escape. -/
def shortEscape? (character : Char) : Option Char :=
  if character = quote ∨ character = escape ∨ character = '/' then some character
  else if character = 'b' then some '\x08'
  else if character = 'f' then some '\x0c'
  else if character = 'n' then some '\n'
  else if character = 'r' then some '\r'
  else if character = 't' then some '\t'
  else none

/-- The second half of a pair of escapes that together name one character. It is looked for only
where text remains after it; what is no second half is left in the text. -/
def readLowHalf (high : Nat) (text : List Char) : Except Stop (Char × List Char) :=
  match text with
  | '\\' :: 'u' :: first :: second :: third :: fourth :: next :: rest =>
    match hexNumber? first second third fourth with
    | none => .error ⟨.badUnicodeEscape, text.drop 1⟩
    | some low =>
      if 0xDC00 ≤ low ∧ low < 0xE000 then
        .ok (Char.ofNat (0x10000 + (high - 0xD800) * 0x400 + (low - 0xDC00)), next :: rest)
      else .ok ('\uFFFD', text)
  | _ => .ok ('\uFFFD', text)

/-- An escape by number, read after its letter `u`; the text given starts at that letter. Some
text must remain after the four digits. -/
def readUnicodeEscape (text : List Char) : Except Stop (Char × List Char) :=
  match text with
  | _ :: first :: second :: third :: fourth :: next :: rest =>
    match hexNumber? first second third fourth with
    | none => .error ⟨.badUnicodeEscape, text⟩
    | some point =>
      if 0xD800 ≤ point ∧ point < 0xDC00 then readLowHalf point (next :: rest)
      else if 0xDC00 ≤ point ∧ point < 0xE000 then .ok ('\uFFFD', next :: rest)
      else .ok (Char.ofNat point, next :: rest)
  | _ => .error ⟨.badUnicodeEscape, text⟩

/-- An escape, read after its backslash; `opening` starts at the quote that opened the text. -/
def readEscape (opening text : List Char) : Except Stop (Char × List Char) :=
  match text with
  | [] => .error ⟨.openText, opening⟩
  | 'u' :: _ => readUnicodeEscape text
  | character :: rest =>
    match shortEscape? character with
    | some meant => .ok (meant, rest)
    | none => .error ⟨.badEscape, escape :: text⟩

theorem readLowHalf_length {high : Nat} {text rest : List Char} {character : Char}
    (read : readLowHalf high text = .ok (character, rest)) : rest.length ≤ text.length := by
  unfold readLowHalf at read
  split at read
  · split at read
    · simp at read
    · split at read <;> simp only [Except.ok.injEq, Prod.mk.injEq] at read <;>
        obtain ⟨_, rfl⟩ := read <;> simp only [List.length_cons] <;> omega
  · simp only [Except.ok.injEq, Prod.mk.injEq] at read
    obtain ⟨_, rfl⟩ := read
    exact Nat.le_refl _

theorem readUnicodeEscape_length {text rest : List Char} {character : Char}
    (read : readUnicodeEscape text = .ok (character, rest)) : rest.length ≤ text.length := by
  unfold readUnicodeEscape at read
  split at read
  · split at read
    · simp at read
    · split at read
      · have := readLowHalf_length read
        simp only [List.length_cons] at this ⊢
        omega
      · split at read <;> simp only [Except.ok.injEq, Prod.mk.injEq] at read <;>
          obtain ⟨_, rfl⟩ := read <;> simp only [List.length_cons] <;> omega
  · simp at read

theorem readEscape_length {opening text rest : List Char} {character : Char}
    (read : readEscape opening text = .ok (character, rest)) : rest.length ≤ text.length := by
  unfold readEscape at read
  split at read
  · simp at read
  · exact readUnicodeEscape_length read
  · split at read
    · simp only [Except.ok.injEq, Prod.mk.injEq] at read
      obtain ⟨_, rfl⟩ := read
      simp
    · simp at read

/-- The rest of a quoted text: its characters, and the text after the closing quote. -/
def readText (opening : List Char) : (text : List Char) → Except Stop (List Char × List Char)
  | [] => .error ⟨.openText, opening⟩
  | character :: rest =>
    if character = quote then .ok ([], rest)
    else if character = escape then
      match _ : readEscape opening rest with
      | .error stop => .error stop
      | .ok (meant, after) =>
        match readText opening after with
        | .error stop => .error stop
        | .ok (characters, after) => .ok (meant :: characters, after)
    else if character.toNat < 32 then .error ⟨.controlCharacter, character :: rest⟩
    else
      match readText opening rest with
      | .error stop => .error stop
      | .ok (characters, after) => .ok (character :: characters, after)
termination_by text => text.length
decreasing_by
  · exact Nat.lt_succ_of_le (readEscape_length ‹_›)
  · exact Nat.lt_succ_self _

theorem readText_length {opening text characters rest : List Char}
    (read : readText opening text = .ok (characters, rest)) : rest.length < text.length := by
  fun_induction readText opening text generalizing characters rest with
  | case1 => simp at read
  | case2 =>
    simp only [Except.ok.injEq, Prod.mk.injEq] at read
    obtain ⟨_, rfl⟩ := read
    simp
  | case3 => simp at read
  | case4 => simp at read
  | case5 =>
    rename_i next meant after escaped characters last found notQuote inductionHypothesis
    simp only [Except.ok.injEq, Prod.mk.injEq] at read
    obtain ⟨_, rfl⟩ := read
    have inner := inductionHypothesis found
    have outer := readEscape_length escaped
    simp only [List.length_cons]
    omega
  | case6 => simp at read
  | case7 => simp at read
  | case8 =>
    rename_i characters after found inductionHypothesis
    simp only [Except.ok.injEq, Prod.mk.injEq] at read
    obtain ⟨_, rfl⟩ := read
    have inner := inductionHypothesis found
    simp only [List.length_cons]
    omega

end TreeSchema.Json
