import DebtMarket.Text.Blank
import Mathlib.Data.List.TakeWhile

/-! Trimming. What trimming leaves of a text is told without saying how it is done: it has
blanks and nothing else around it in the text, and no blank at its own ends. Every text has
exactly one such part.
-/

namespace DebtMarket.Text

/-- A text is another one between blanks, and that one has no blank at its ends. -/
structure TrimsTo (cs inner : List Char) : Prop where
  around : ∃ front back, cs = front ++ inner ++ back
    ∧ (∀ c ∈ front, isBlank c = true) ∧ ∀ c ∈ back, isBlank c = true
  first : ∀ c ∈ inner.head?, isBlank c = false
  last : ∀ c ∈ inner.getLast?, isBlank c = false

variable {c : Char} {cs front inner : List Char}

-----------------------------------------------------------------------------------------
-- Blanks in front
-----------------------------------------------------------------------------------------

theorem trimStart_cons {rest : List Char} (filled : isBlank c = false)
    : trimStart (c :: rest) = c :: rest := by
  simp [trimStart, filled]

/-- A text that does not begin with a blank is left as it is. -/
theorem trimStart_eq_self (filled : ∀ c ∈ cs.head?, isBlank c = false) : trimStart cs = cs := by
  cases cs with
  | nil => rfl
  | cons c rest => exact trimStart_cons (filled c rfl)

theorem trimStart_append (blank : ∀ c ∈ front, isBlank c = true)
    : trimStart (front ++ cs) = trimStart cs :=
  List.dropWhile_append_of_pos blank

/-- What is left does not begin with a blank. -/
theorem head_trimStart (member : c ∈ (trimStart cs).head?) : isBlank c = false := by
  have filled := List.head?_dropWhile_not isBlank cs
  rw [trimStart, Option.mem_def] at member
  rw [member] at filled
  exact filled

/-- What is taken off are blanks. -/
theorem exists_blanks_append_trimStart (cs : List Char)
    : ∃ front, cs = front ++ trimStart cs ∧ ∀ c ∈ front, isBlank c = true :=
  ⟨cs.takeWhile isBlank, List.takeWhile_append_dropWhile.symm,
    fun _ member => List.mem_takeWhile_imp member⟩

-----------------------------------------------------------------------------------------
-- Blanks at both ends
-----------------------------------------------------------------------------------------

theorem trimsTo_trim (cs : List Char) : TrimsTo cs (trim cs) := by
  obtain ⟨front, ahead, frontBlank⟩ := exists_blanks_append_trimStart cs
  obtain ⟨back, behind, backBlank⟩ :=
    exists_blanks_append_trimStart (trimStart cs).reverse
  have rest : trimStart cs = trim cs ++ back.reverse := by
    rw [← List.reverse_inj, behind, trim, List.reverse_append, List.reverse_reverse,
      List.reverse_reverse]
  refine ⟨⟨front, back.reverse, ?_, frontBlank, ?_⟩, ?_, ?_⟩
  · rw [List.append_assoc, ← rest]
    exact ahead
  · intro c member
    exact backBlank c (List.mem_reverse.1 member)
  · intro c member
    have begins : c ∈ (trimStart cs).head? := by
      rw [rest, List.head?_append, Option.mem_def.1 member]
      rfl
    exact head_trimStart begins
  · intro c member
    rw [trim, List.getLast?_reverse] at member
    exact head_trimStart member

/-- No other part of a text is left by trimming it. -/
theorem TrimsTo.trim_eq (trims : TrimsTo cs inner) : trim cs = inner := by
  obtain ⟨⟨front, back, rfl, frontBlank, backBlank⟩, first, last⟩ := trims
  have ahead : trimStart (front ++ inner ++ back) = trimStart (inner ++ back) := by
    rw [List.append_assoc, trimStart_append frontBlank]
  have behind : trimStart (inner ++ back).reverse = inner.reverse := by
    rw [List.reverse_append,
      trimStart_append fun c member => backBlank c (List.mem_reverse.1 member)]
    refine trimStart_eq_self fun c member => last c ?_
    rwa [List.head?_reverse] at member
  cases inner with
  | nil =>
      -- all that there is are blanks, and the first trimming takes them off already
      have blank : trimStart (back ++ []) = trimStart [] := trimStart_append backBlank
      rw [List.append_nil] at blank
      rw [trim, ahead, List.nil_append, blank]
      rfl
  | cons c rest =>
      rw [trim, ahead, List.cons_append, trimStart_cons (first c rfl), ← List.cons_append,
        behind, List.reverse_reverse]

theorem trimsTo_iff : TrimsTo cs inner ↔ trim cs = inner := by
  constructor
  · exact TrimsTo.trim_eq
  · rintro rfl
    exact trimsTo_trim cs

/-- A text without blanks is left as it is. -/
theorem trim_eq_self (filled : ∀ c ∈ cs, isBlank c = false) : trim cs = cs := by
  refine TrimsTo.trim_eq ⟨⟨[], [], by simp⟩, fun c member => ?_, fun c member => ?_⟩
  · exact filled c (List.mem_of_mem_head? member)
  · exact filled c (List.mem_of_getLast? member)

end DebtMarket.Text
