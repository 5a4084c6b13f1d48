import Mathlib.Data.List.Induction
import IsaCensus.Text.Numeral

/-! Numerals, which are rows of digits that may have a plus sign in front. Those whose number fits in
64 bits are the ones that are read, and the digits with which a number is written denote it. -/

namespace IsaCensus.Text

/-- The digits of all bases in the order of their values, with the two cases of letters. -/
def smallDigits : List Char :=
  ['0', '1', '2', '3', '4', '5', '6', '7', '8', '9', 'a', 'b', 'c', 'd', 'e', 'f']

def capitalDigits : List Char :=
  ['0', '1', '2', '3', '4', '5', '6', '7', '8', '9', 'A', 'B', 'C', 'D', 'E', 'F']

def IsDigit (base : Nat) (c : Char) (value : Nat) : Prop :=
  value < base ∧ (smallDigits[value]? = some c ∨ capitalDigits[value]? = some c)

/-- A row of digits, and the number that it denotes. -/
inductive Denotes (base : Nat) : List Char → Nat → Prop
  | nothing : Denotes base [] 0
  | behind {digits n c value} (front : Denotes base digits n) (digit : IsDigit base c value) :
      Denotes base (digits ++ [c]) (n * base + value)

/-- At least one digit, with or without a plus sign. -/
inductive Numeral (base : Nat) : List Char → Nat → Prop
  | plain {digits n} (nonempty : digits ≠ []) (denotes : Denotes base digits n) : Numeral base digits n
  | signed {digits n} (nonempty : digits ≠ []) (denotes : Denotes base digits n) : Numeral base ('+' :: digits) n

variable {base value n m : Nat} {c : Char} {digits text : List Char}

/-- In a run of consecutive characters each stands at its distance from the first. -/
theorem listed_in_run {alphabet : List Char} {first : Char} (count start : Nat)
    (run : ∀ n : Fin count, alphabet[n.val + start]? = some (Char.ofNat (first.toNat + n.val)))
    (behind : first ≤ c) (within : c.toNat - first.toNat < count) :
    alphabet[c.toNat - first.toNat + start]? = some c := by
  have same : first.toNat + (c.toNat - first.toNat) = c.toNat := Nat.add_sub_of_le behind
  rw [run ⟨_, within⟩, same, Char.ofNat_toNat]

theorem digit_eq_some_iff (small : base ≤ 16) : digit? base c = some value ↔ IsDigit base c value := by
  constructor
  · intro found
    simp only [digit?, Option.ite_none_right_eq_some, Option.some.injEq] at found
    obtain ⟨below, rfl⟩ := found
    refine ⟨below, ?_⟩
    split at below
    next figure =>
      have within : c.toNat - '0'.toNat < 10 := Nat.lt_succ_of_le (Nat.sub_le_sub_right figure.2 '0'.toNat)
      rw [if_pos figure]
      exact .inl (listed_in_run 10 0 (by decide) figure.1 within)
    next noFigure =>
      rw [if_neg noFigure]
      split at below
      next letter =>
        rw [if_pos letter]
        exact .inl (listed_in_run 6 10 (by decide) letter.1 (by omega))
      next noLetter =>
        rw [if_neg noLetter]
        split at below
        next capital =>
          rw [if_pos capital]
          exact .inr (listed_in_run 6 10 (by decide) capital.1 (by omega))
        next => exact absurd below (Nat.lt_irrefl base)
  · rintro ⟨below, listed⟩
    have every : ∀ base : Fin 17, ∀ value : Fin 16, value.val < base.val →
        smallDigits[value.val]?.all (digit? base · = some value.val) ∧
        capitalDigits[value.val]?.all (digit? base · = some value.val) := by decide +kernel
    obtain ⟨ofSmall, ofCapital⟩ := every ⟨base, by omega⟩ ⟨value, by omega⟩ below
    rcases listed with small | capital
    · rw [small] at ofSmall
      exact of_decide_eq_true ofSmall
    · rw [capital] at ofCapital
      exact of_decide_eq_true ofCapital

theorem digitsFrom_append (start : Nat) (front back : List Char) :
    digitsFrom base start (front ++ back) = (digitsFrom base start front).bind fun n => digitsFrom base n back := by
  induction front generalizing start with
  | nil => rfl
  | cons c rest ih =>
    simp only [List.cons_append, digitsFrom]
    cases digit? base c with
    | none => rfl
    | some digit =>
      by_cases fits : start * base + digit < UInt64.size
      · simp only [fits, if_true, ih]
      · simp only [fits, if_false]
        rfl

theorem denotes_nil : Denotes base [] n ↔ n = 0 := by
  constructor
  · generalize empty : ([] : List Char) = digits
    intro denotes
    cases denotes with
    | nothing => rfl
    | behind => exact absurd empty.symm (List.append_ne_nil_of_right_ne_nil _ (List.cons_ne_nil _ []))
  · rintro rfl
    exact .nothing

theorem denotes_concat :
    Denotes base (digits ++ [c]) n ↔
      ∃ m value, Denotes base digits m ∧ IsDigit base c value ∧ n = m * base + value := by
  constructor
  · generalize whole : digits ++ [c] = text
    intro denotes
    cases denotes with
    | nothing => exact absurd whole (List.append_ne_nil_of_right_ne_nil digits (List.cons_ne_nil c []))
    | behind front digit =>
      obtain ⟨rfl, same⟩ := List.append_inj' whole rfl
      cases same
      exact ⟨_, _, front, digit, rfl⟩
  · rintro ⟨m, value, front, digit, rfl⟩
    exact .behind front digit

theorem digitsFrom_single (small : base ≤ 16) :
    digitsFrom base m [c] = .ok n ↔ ∃ value, IsDigit base c value ∧ n = m * base + value ∧ n < UInt64.size := by
  simp only [← digit_eq_some_iff small, digitsFrom]
  cases digit? base c with
  | none => simp
  | some digit =>
    simp only [Option.some.injEq, exists_eq_left']
    split
    next fits => grind
    next => grind

/-- Digits are read just if their number fits in 64 bits. -/
theorem digitsFrom_eq_ok_iff (positive : 0 < base) (small : base ≤ 16) :
    digitsFrom base 0 digits = .ok n ↔ Denotes base digits n ∧ n < UInt64.size := by
  induction digits using List.reverseRecOn generalizing n with
  | nil =>
    rw [denotes_nil]
    constructor
    · intro read
      cases read
      exact ⟨rfl, by decide⟩
    · rintro ⟨rfl, _⟩
      rfl
  | append_singleton front c ih =>
    rw [digitsFrom_append, denotes_concat]
    constructor
    · intro read
      cases begun : digitsFrom base 0 front with
      | error fault => rw [begun] at read; cases read
      | ok m =>
        rw [begun] at read
        obtain ⟨value, digit, same, fits⟩ := (digitsFrom_single small).mp read
        exact ⟨⟨m, value, (ih.mp begun).1, digit, same⟩, fits⟩
    · rintro ⟨⟨m, value, denotes, digit, same⟩, fits⟩
      -- What the first digits denote is not larger, so it fits as well.
      have less : m ≤ m * base := Nat.le_mul_of_pos_right m positive
      rw [ih.mpr ⟨denotes, by omega⟩]
      exact (digitsFrom_single small).mpr ⟨value, digit, same, fits⟩

theorem IsDigit.unique (small : base ≤ 16) {other : Nat} (first : IsDigit base c value) (last : IsDigit base c other) :
    value = other :=
  Option.some.inj (((digit_eq_some_iff small).mpr first).symm.trans ((digit_eq_some_iff small).mpr last))

theorem IsDigit.ne_plus (digit : IsDigit base c value) : c ≠ '+' := by
  have missing : '+' ∉ smallDigits ++ capitalDigits := by decide
  rintro rfl
  exact missing (List.mem_append.mpr (digit.2.imp List.mem_of_getElem? List.mem_of_getElem?))

namespace Denotes

theorem digits_only (denotes : Denotes base digits n) : ∀ c ∈ digits, ∃ value, IsDigit base c value := by
  induction denotes with
  | nothing => exact fun _ member => nomatch member
  | behind _ digit ih =>
    intro c member
    rcases List.mem_append.mp member with early | last
    · exact ih c early
    · cases List.mem_singleton.mp last
      exact ⟨_, digit⟩

theorem unique (small : base ≤ 16) (first : Denotes base digits n) (last : Denotes base digits m) : n = m := by
  induction first generalizing m with
  | nothing => exact (denotes_nil.mp last).symm
  | behind _ digit ih =>
    obtain ⟨k, other, front, again, rfl⟩ := denotes_concat.mp last
    rw [ih front, digit.unique small again]

theorem head_ne_plus (denotes : Denotes base digits n) : ∀ c ∈ digits.head?, c ≠ '+' := by
  intro c first
  obtain ⟨value, digit⟩ := denotes.digits_only c (List.mem_of_mem_head? first)
  exact digit.ne_plus

/-- A number is denoted by the digits with which it is written. -/
theorem toDigits (base : Nat) (large : 1 < base) (small : base ≤ 16) (n : Nat) : Denotes base (Nat.toDigits base n) n := by
  induction n using Nat.strongRecOn with
  | _ n ih =>
    have written : ∀ n : Fin 16, smallDigits[n.val]? = some (Nat.digitChar n.val) := by decide
    have digit {value : Nat} (below : value < base) : IsDigit base (Nat.digitChar value) value :=
      ⟨below, .inl (written ⟨value, by omega⟩)⟩
    by_cases single : n < base
    · rw [Nat.toDigits_of_lt_base single]
      simpa using behind nothing (digit single)
    · rw [Nat.toDigits_of_base_le large (Nat.le_of_not_lt single)]
      have front := ih (n / base) (Nat.div_lt_self (by omega) large)
      have whole := behind front (digit (Nat.mod_lt n (by omega)))
      rwa [Nat.div_add_mod' n base] at whole

end Denotes

theorem numeral_plain (nonempty : digits ≠ []) (unsigned : ∀ c ∈ digits.head?, c ≠ '+') :
    numeral base digits = digitsFrom base 0 digits := by
  unfold numeral
  split
  · contradiction
  · exact absurd rfl (unsigned '+' rfl)
  · exact absurd rfl (unsigned '+' rfl)
  · rfl

theorem numeral_signed (nonempty : digits ≠ []) : numeral base ('+' :: digits) = digitsFrom base 0 digits := by
  cases digits with
  | nil => contradiction
  | cons => rfl

theorem numeral_eq_ok_iff (positive : 0 < base) (small : base ≤ 16) :
    numeral base text = .ok n ↔ Numeral base text n ∧ n < UInt64.size := by
  constructor
  · intro read
    unfold numeral at read
    split at read
    · cases read
    · cases read
    next lone =>
      obtain ⟨denotes, fits⟩ := (digitsFrom_eq_ok_iff positive small).mp read
      exact ⟨.signed lone denotes, fits⟩
    next nonempty _ _ =>
      obtain ⟨denotes, fits⟩ := (digitsFrom_eq_ok_iff positive small).mp read
      exact ⟨.plain nonempty denotes, fits⟩
  · rintro ⟨numeral, fits⟩
    cases numeral with
    | plain nonempty denotes =>
      rw [numeral_plain nonempty denotes.head_ne_plus]
      exact (digitsFrom_eq_ok_iff positive small).mpr ⟨denotes, fits⟩
    | signed nonempty denotes =>
      rw [numeral_signed nonempty]
      exact (digitsFrom_eq_ok_iff positive small).mpr ⟨denotes, fits⟩

theorem Numeral.unique (small : base ≤ 16) (first : Numeral base text n) (last : Numeral base text m) : n = m := by
  cases first with
  | plain nonempty denotes =>
    cases last with
    | plain _ again => exact denotes.unique small again
    | signed => exact absurd rfl (denotes.head_ne_plus '+' rfl)
  | signed nonempty denotes =>
    cases last with
    | plain _ again => exact absurd rfl (again.head_ne_plus '+' rfl)
    | signed _ again => exact denotes.unique small again

end IsaCensus.Text
