import Mathlib.Data.List.DropRight
import Mathlib.Data.List.Flatten

/-! # Pieces of a text, stripped and joined

A text is stripped of the spaces at its ends. When the pieces of a text are stripped one by one and
joined by a single character, the result is the stripped text exactly if that character is all that
stands between two pieces. What counts as a space may differ between the two sides.
-/

namespace Text

variable {α : Type} {space blank : α → Bool} {gap : α}

def strip (space : α → Bool) (text : List α) : List α := (text.dropWhile space).rdropWhile space

/-- The spaces before a text. -/
def leading (space : α → Bool) (text : List α) : List α := text.takeWhile space

/-- The spaces after a text that is not empty. -/
def trailing (space : α → Bool) (text : List α) : List α := (text.dropWhile space).rtakeWhile space

/-- A word does not begin or end with a space. -/
structure Solid (space : α → Bool) (word : List α) : Prop where
  first : ∃ c rest, word = c :: rest ∧ space c = false
  last : ∃ rest c, word = rest ++ [c] ∧ space c = false

/-! ## Stripping -/

/-- A text is what stands before it, the stripped text, and what stands after it. -/
theorem leading_strip_trailing (space : α → Bool) (text : List α) :
    leading space text ++ (strip space text ++ trailing space text) = text := by
  rw [strip, trailing, List.rdropWhile_append_rtakeWhile, leading, List.takeWhile_append_dropWhile]

theorem leading_spaces {text : List α} : ∀ c ∈ leading space text, space c = true :=
  fun _ => List.mem_takeWhile_imp

theorem trailing_spaces {text : List α} : ∀ c ∈ trailing space text, space c = true :=
  fun _ => List.mem_rtakeWhile_imp

theorem strip_eq_nil_iff {text : List α} : strip space text = [] ↔ ∀ c ∈ text, space c = true := by
  rw [strip, List.rdropWhile_eq_nil_iff]
  constructor
  · intro rest c member
    rw [← List.takeWhile_append_dropWhile (p := space) (l := text), List.mem_append] at member
    exact member.elim (leading_spaces c) (rest c)
  · intro all c member
    exact all c ((List.dropWhile_suffix space).subset member)

/-- What is left of a text is a word. -/
theorem solid_strip {text : List α} (spoken : strip space text ≠ []) :
    Solid space (strip space text) := by
  have start : strip space text <+: text.dropWhile space := List.rdropWhile_prefix ..
  constructor
  case first =>
    cases kept : strip space text with
    | nil => exact absurd kept spoken
    | cons c rest =>
      rw [kept] at start
      obtain ⟨others, whole⟩ := start
      refine ⟨c, rest, rfl, ?_⟩
      have head := List.head?_dropWhile_not space text
      rw [← whole] at head
      simpa using head
  case last =>
    refine ⟨_, _, (List.dropLast_concat_getLast spoken).symm, ?_⟩
    rw [← Bool.not_eq_true]
    exact List.rdropWhile_last_not space (text.dropWhile space) spoken

/-- What stands behind a word is stripped without it. -/
theorem rdropWhile_append_solid {word : List α} (solid : Solid space word)
    (before after : List α) :
    (before ++ (word ++ after)).rdropWhile space = before ++ (word ++ after.rdropWhile space) := by
  obtain ⟨rest, c, rfl, solidLast⟩ := solid.last
  induction after using List.reverseRecOn with
  | nil =>
    rw [List.append_nil, ← List.append_assoc, List.rdropWhile_concat_neg _ _ _ (by simp [solidLast]),
      List.rdropWhile_nil, List.append_nil, List.append_assoc]
  | append_singleton after d ih =>
    rw [← List.append_assoc, ← List.append_assoc, List.rdropWhile_concat, List.rdropWhile_concat]
    split
    case isTrue => rw [List.append_assoc, ih]
    case isFalse => rw [List.append_assoc, List.append_assoc]

theorem dropWhile_append_solid {word : List α} (solid : Solid space word) (before after : List α) :
    (before ++ (word ++ after)).dropWhile space = before.dropWhile space ++ (word ++ after) := by
  obtain ⟨c, rest, rfl, solidFirst⟩ := solid.first
  rw [List.dropWhile_append]
  split
  case isTrue empty =>
    rw [List.isEmpty_iff.mp empty, List.cons_append,
      List.dropWhile_cons_of_neg (by simp [solidFirst]), List.nil_append]
  case isFalse => rfl

theorem takeWhile_append_solid {word : List α} (solid : Solid space word) {before : List α}
    (after : List α) (spaces : ∀ c ∈ before, space c = true) :
    (before ++ (word ++ after)).takeWhile space = before := by
  obtain ⟨c, rest, rfl, solidFirst⟩ := solid.first
  rw [List.takeWhile_append_of_pos spaces, List.cons_append,
    List.takeWhile_cons_of_neg (by simp [solidFirst]), List.append_nil]

/-- A word can be told from the spaces before it. -/
theorem append_solid_inj {word before before' after after' : List α} (solid : Solid space word)
    (spaces : ∀ c ∈ before, space c = true) (spaces' : ∀ c ∈ before', space c = true) :
    before ++ (word ++ after) = before' ++ (word ++ after') ↔ before = before' ∧ after = after' := by
  constructor
  · intro same
    have front := takeWhile_append_solid solid after spaces
    rw [same, takeWhile_append_solid solid after' spaces'] at front
    subst front
    exact ⟨rfl, List.append_cancel_left (List.append_cancel_left same)⟩
  · rintro ⟨rfl, rfl⟩
    rfl

theorem Solid.mono {word : List α} (solid : Solid space word)
    (narrow : ∀ c, blank c = true → space c = true) : Solid blank word := by
  have other {c : α} (inked : space c = false) : blank c = false := by
    rw [Bool.eq_false_iff]
    intro isBlank
    rw [narrow c isBlank] at inked
    cases inked
  obtain ⟨c, rest, same, inked⟩ := solid.first
  obtain ⟨rest', c', same', inked'⟩ := solid.last
  exact ⟨⟨c, rest, same, other inked⟩, ⟨rest', c', same', other inked'⟩⟩

/-! ## Joining words -/

/-- The pieces in which there is anything, stripped. -/
def words (space : α → Bool) (pieces : List (List α)) : List (List α) :=
  (pieces.map (strip space)).filter fun word => !word.isEmpty

theorem words_cons_silent {piece : List α} (silent : strip space piece = [])
    (rest : List (List α)) : words space (piece :: rest) = words space rest := by
  simp [words, silent]

theorem words_cons_spoken {piece : List α} (spoken : strip space piece ≠ [])
    (rest : List (List α)) : words space (piece :: rest) = strip space piece :: words space rest := by
  simp [words, spoken]

/-- The first word in its place in the text. -/
theorem flatten_cons_spoken (pending piece : List α) (rest : List (List α)) :
    pending ++ (piece ++ rest.flatten) = (pending ++ leading space piece) ++
      (strip space piece ++ (trailing space piece ++ rest.flatten)) := by
  conv_lhs => rw [← leading_strip_trailing space piece]
  simp only [List.append_assoc]

theorem intercalate_cons (word : List α) (rest : List (List α)) :
    [gap].intercalate (word :: rest) = word ++ rest.flatMap (gap :: ·) := by
  induction rest generalizing word with
  | nil => simp
  | cons next rest ih => rw [List.intercalate_cons_cons, ih]; simp

theorem length_intercalate_concat {word : List α} (spoken : word ≠ []) (texts : List (List α)) :
    ([gap].intercalate texts).length < ([gap].intercalate (texts ++ [word])).length := by
  have positive := List.length_pos_iff.mpr spoken
  cases texts with
  | nil => simpa using positive
  | cons first rest =>
    rw [List.cons_append, intercalate_cons, intercalate_cons, List.flatMap_append,
      List.length_append, List.length_append, List.length_append]
    simp

/-- Behind a word and some spaces, only the gap stands between each word and the next one, and blanks
stand behind the last one. -/
def GapsAfter (space blank : α → Bool) (gap : α) : List α → List (List α) → Prop
  | pending, [] => ∀ c ∈ pending, blank c = true
  | pending, piece :: rest =>
      if (strip space piece).isEmpty then GapsAfter space blank gap (pending ++ piece) rest
      else pending ++ leading space piece = [gap] ∧
        GapsAfter space blank gap (trailing space piece) rest

/-- Blanks stand before the first word and behind the last one, and the gap between two words. -/
def Gaps (space blank : α → Bool) (gap : α) : List α → List (List α) → Prop
  | pending, [] => ∀ c ∈ pending, blank c = true
  | pending, piece :: rest =>
      if (strip space piece).isEmpty then Gaps space blank gap (pending ++ piece) rest
      else (∀ c ∈ pending ++ leading space piece, blank c = true) ∧
        GapsAfter space blank gap (trailing space piece) rest

section Joining

variable (isGap : space gap = true) (narrow : ∀ c, blank c = true → space c = true)

include isGap narrow

theorem rdropWhile_flatten_eq_iff {pending : List α} (spaces : ∀ c ∈ pending, space c = true)
    (pieces : List (List α)) :
    (pending ++ pieces.flatten).rdropWhile blank = (words space pieces).flatMap (gap :: ·) ↔
      GapsAfter space blank gap pending pieces := by
  induction pieces generalizing pending with
  | nil =>
    rw [List.flatten_nil, List.append_nil, GapsAfter]
    exact List.rdropWhile_eq_nil_iff ..
  | cons piece rest ih =>
    rw [GapsAfter, List.flatten_cons]
    split
    case isTrue silent =>
      have nothing := List.isEmpty_iff.mp silent
      rw [words_cons_silent nothing, ← List.append_assoc]
      apply ih
      intro c member
      exact (List.mem_append.mp member).elim (spaces c) (strip_eq_nil_iff.mp nothing c)
    case isFalse audible =>
      have spoken : strip space piece ≠ [] := fun nothing => audible (List.isEmpty_iff.mpr nothing)
      have solid := solid_strip spoken
      have front : ∀ c ∈ pending ++ leading space piece, space c = true := fun c member =>
        (List.mem_append.mp member).elim (spaces c) (leading_spaces c)
      have between : ∀ c ∈ [gap], space c = true := by simp [isGap]
      rw [flatten_cons_spoken, rdropWhile_append_solid (solid.mono narrow),
        words_cons_spoken spoken, List.flatMap_cons, ← ih trailing_spaces,
        ← List.singleton_append, List.append_assoc [gap]]
      exact append_solid_inj solid front between

/-- Stripping the pieces and joining them gives the stripped text exactly if nothing but the gap
stands between two words. -/
theorem strip_flatten_eq_iff {pending : List α} (spaces : ∀ c ∈ pending, space c = true)
    (pieces : List (List α)) :
    strip blank (pending ++ pieces.flatten) = [gap].intercalate (words space pieces) ↔
      Gaps space blank gap pending pieces := by
  induction pieces generalizing pending with
  | nil =>
    rw [List.flatten_nil, List.append_nil, Gaps]
    exact strip_eq_nil_iff
  | cons piece rest ih =>
    rw [Gaps, List.flatten_cons]
    split
    case isTrue silent =>
      have nothing := List.isEmpty_iff.mp silent
      rw [words_cons_silent nothing, ← List.append_assoc]
      apply ih
      intro c member
      exact (List.mem_append.mp member).elim (spaces c) (strip_eq_nil_iff.mp nothing c)
    case isFalse audible =>
      have spoken : strip space piece ≠ [] := fun nothing => audible (List.isEmpty_iff.mpr nothing)
      have solid := solid_strip spoken
      have front : ∀ c ∈ (pending ++ leading space piece).dropWhile blank, space c = true := by
        intro c member
        have among := (List.dropWhile_suffix blank).subset member
        exact (List.mem_append.mp among).elim (spaces c) (leading_spaces c)
      have nothing : ∀ c ∈ ([] : List α), space c = true := by simp
      rw [flatten_cons_spoken, strip, dropWhile_append_solid (solid.mono narrow),
        rdropWhile_append_solid (solid.mono narrow), words_cons_spoken spoken, intercalate_cons,
        ← rdropWhile_flatten_eq_iff isGap narrow trailing_spaces, ← List.dropWhile_eq_nil_iff]
      exact append_solid_inj solid front nothing

end Joining

theorem strip_solid {word : List α} (solid : Solid space word) : strip space word = word := by
  have front := dropWhile_append_solid solid [] []
  have back := rdropWhile_append_solid solid [] []
  simp only [List.nil_append, List.append_nil, List.dropWhile_nil, List.rdropWhile_nil] at front back
  rw [strip, front, back]

theorem Solid.append {word word' : List α} (solid : Solid space word) (solid' : Solid space word')
    (between : List α) : Solid space (word ++ (between ++ word')) := by
  obtain ⟨c, rest, rfl, first⟩ := solid.first
  obtain ⟨rest', c', rfl, last⟩ := solid'.last
  constructor
  case first => exact ⟨c, _, rfl, first⟩
  case last => exact ⟨c :: rest ++ (between ++ rest'), c', by simp only [List.append_assoc], last⟩

theorem solid_intercalate {word : List α} {rest : List (List α)}
    (solid : ∀ other ∈ word :: rest, Solid space other) :
    Solid space ([gap].intercalate (word :: rest)) := by
  induction rest generalizing word with
  | nil =>
    rw [List.intercalate_singleton]
    exact solid word List.mem_cons_self
  | cons next rest ih =>
    rw [List.intercalate_cons_cons, List.append_assoc]
    apply Solid.append
    · exact solid word List.mem_cons_self
    · exact ih fun other member => solid other (List.mem_cons_of_mem word member)

end Text
