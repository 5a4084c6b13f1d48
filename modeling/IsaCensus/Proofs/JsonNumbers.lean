import IsaCensus.Json.Number

/-! Integers in a JSON text. A number of 64 bits that is written in decimal is read back, unless the
text goes on in a way that makes it another number. -/

namespace IsaCensus.Json

/-- A text in front of which a number ends. -/
def Stops (text : List Char) : Prop :=
  ∀ c ∈ text.head?, c.isDigit = false ∧ c ≠ '.' ∧ c ≠ 'e' ∧ c ≠ 'E'

section
variable {n significand : Nat} {digits rest : List Char}

namespace Stops

theorem noDigit (stops : Stops rest) : startsWithDigit rest = false := by
  cases rest with
  | nil => rfl
  | cons c rest => exact (stops c rfl).1

theorem noExponent (stops : Stops rest) : startsWithExponent rest = false := by
  cases rest with
  | nil => rfl
  | cons c rest =>
    obtain ⟨_, _, small, capital⟩ := stops c rfl
    simp [startsWithExponent, small, capital]

end Stops

theorem le_natural_from (significand : Nat) (digits : List Char) :
    significand ≤ digits.foldl (fun n c => 10 * n + digitValue c) significand := by
  induction digits generalizing significand with
  | nil => exact Nat.le_refl _
  | cons c rest ih =>
    have larger := ih (10 * significand + digitValue c)
    rw [List.foldl_cons]
    omega

theorem gather_digits (all : ∀ c ∈ digits, c.isDigit = true) (stops : startsWithDigit rest = false)
    (fits : digits.foldl (fun n c => 10 * n + digitValue c) significand < UInt64.size) :
    gather significand (digits ++ rest) =
      (digits.foldl (fun n c => 10 * n + digitValue c) significand, digits.length, rest) := by
  induction digits generalizing significand with
  | nil =>
    cases rest with
    | nil => rfl
    | cons c rest =>
      have noDigit : c.isDigit = false := stops
      simp [gather, noDigit]
  | cons c digits ih =>
    rw [List.foldl_cons] at fits
    have larger := le_natural_from (10 * significand + digitValue c) digits
    have taken : c.isDigit = true ∧ 10 * significand + digitValue c < UInt64.size :=
      ⟨all c List.mem_cons_self, by omega⟩
    have rest := ih (fun c member => all c (List.mem_cons_of_mem _ member)) fits
    rw [List.cons_append, gather, if_pos taken, rest]
    rfl

theorem natural_toDigits (n : Nat) : natural (Nat.toDigits 10 n) = n :=
  Nat.ofDigitChars_eq_foldl.symm.trans Nat.ofDigitChars_ten_toDigits

theorem toDigits_cons (n : Nat) : ∃ c rest, Nat.toDigits 10 n = c :: rest ∧ c.isDigit = true := by
  obtain ⟨c, rest, written⟩ := List.exists_cons_of_ne_nil (@Nat.toDigits_ne_nil n 10)
  have member : c ∈ Nat.toDigits 10 n := written ▸ List.mem_cons_self
  exact ⟨c, rest, written, Nat.isDigit_of_mem_toDigits (by decide) (by decide) member⟩

/-- Only zero is written with a zero in front. -/
theorem eq_zero_of_leading (leading : (Nat.toDigits 10 n).head? = some '0') : n = 0 := by
  induction n using Nat.strongRecOn with
  | _ n ih =>
    by_cases single : n < 10
    · rw [Nat.toDigits_of_lt_base single] at leading
      exact Nat.digitChar_eq_zero.mp (Option.some.inj leading)
    · obtain ⟨c, rest, written, _⟩ := toDigits_cons (n / 10)
      rw [Nat.toDigits_of_base_le (by decide) (Nat.le_of_not_lt single), written, List.cons_append,
        List.head?_cons] at leading
      have zero : n / 10 = 0 := ih (n / 10) (by omega) (by rw [written, List.head?_cons, leading])
      omega

theorem whole_toDigits (fits : n < UInt64.size) (stops : startsWithDigit rest = false) :
    whole (Nat.toDigits 10 n ++ rest) = .ok ((n, 0), rest) := by
  by_cases zero : n = 0
  · subst zero
    simp [whole, stops]
  have all : ∀ c ∈ Nat.toDigits 10 n, c.isDigit = true :=
    fun c => Nat.isDigit_of_mem_toDigits (by decide) (by decide)
  have value := natural_toDigits n
  have taken : gather 0 (Nat.toDigits 10 n ++ rest) = (n, (Nat.toDigits 10 n).length, rest) := by
    have gathered := gather_digits all stops (value.symm ▸ fits)
    rwa [← natural, value] at gathered
  -- No other number has a zero in front, where `whole` would stop.
  obtain ⟨c, others, written, digit⟩ := toDigits_cons n
  have leading : c ≠ '0' := fun same => zero (eq_zero_of_leading (by rw [written, same, List.head?_cons]))
  have behind : rest.takeWhile Char.isDigit = [] ∧ rest.dropWhile Char.isDigit = rest := by
    cases rest with
    | nil => exact ⟨rfl, rfl⟩
    | cons c rest =>
      have noDigit : ¬ c.isDigit = true := by rw [show c.isDigit = false from stops]; decide
      exact ⟨List.takeWhile_cons_of_neg noDigit, List.dropWhile_cons_of_neg noDigit⟩
  rw [written, List.cons_append] at taken ⊢
  simp [whole, digit, leading, taken, behind]

theorem number_toDigits (fits : n < UInt64.size) (stops : Stops rest) :
    number (Nat.toDigits 10 n ++ rest) = .ok (.integer n, rest) := by
  obtain ⟨c, others, written, digit⟩ := toDigits_cons n
  have unsigned : number (Nat.toDigits 10 n ++ rest) = magnitude false (Nat.toDigits 10 n ++ rest) := by
    rw [written, List.cons_append, number]
    intro _ signed
    obtain ⟨rfl, _⟩ := List.cons.inj signed
    exact absurd digit (by decide)
  have read := whole_toDigits fits stops.noDigit
  rw [unsigned, magnitude, read]
  have exponents := stops.noExponent
  simp only [bind, Except.bind]
  split
  next => exact absurd rfl (stops '.' rfl).2.1
  next => simp [exponents, signed, pure, Except.pure]

end

end IsaCensus.Json
