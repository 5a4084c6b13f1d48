import IsaCensus.Address.Literal
import IsaCensus.Proofs.Numerals
import IsaCensus.Text.Hex

/-! The literals of addresses. A grammar says which texts stand for a number, and for which one: a
numeral, which is hexadecimal behind a mark and otherwise decimal. The literals whose number fits in
64 bits are the ones that are read, and all other texts are quoted in the complaint about them. -/

namespace IsaCensus

/-- What stands in front of hexadecimal digits. -/
def hexMarks : List (List Char) := [['0', 'x'], ['0', 'X']]

/-- A text that stands for an address, and the number that it denotes. -/
inductive AddressLiteral : List Char → Nat → Prop
  | hexadecimal {mark digits n} (marked : mark ∈ hexMarks) (numeral : Text.Numeral 16 digits n) :
      AddressLiteral (mark ++ digits) n
  | decimal {text n} (unmarked : ∀ mark ∈ hexMarks, ¬ mark <+: text) (numeral : Text.Numeral 10 text n) :
      AddressLiteral text n

variable {text digits mark : List Char} {n m : Nat}

theorem literal_marked (marked : mark ∈ hexMarks) : AddressLiteral (mark ++ digits) n ↔ Text.Numeral 16 digits n := by
  refine ⟨?_, .hexadecimal marked⟩
  generalize whole : mark ++ digits = text
  intro literal
  cases literal with
  | hexadecimal other numeral =>
    have length : ∀ mark ∈ hexMarks, mark.length = 2 := by decide
    obtain ⟨_, rfl⟩ := List.append_inj whole ((length _ marked).trans (length _ other).symm)
    exact numeral
  | decimal unmarked => exact absurd ⟨digits, whole⟩ (unmarked mark marked)

theorem literal_unmarked (unmarked : ∀ mark ∈ hexMarks, ¬ mark <+: text) :
    AddressLiteral text n ↔ Text.Numeral 10 text n := by
  refine ⟨?_, .decimal unmarked⟩
  intro literal
  cases literal with
  | hexadecimal marked => exact absurd (List.prefix_append _ _) (unmarked _ marked)
  | decimal _ numeral => exact numeral

theorem addressNumber_marked (marked : mark ∈ hexMarks) : addressNumber (mark ++ digits) = Text.numeral 16 digits := by
  simp only [hexMarks, List.mem_cons, List.not_mem_nil, or_false] at marked
  rcases marked with rfl | rfl
  · rfl
  · rfl

theorem addressNumber_unmarked (unmarked : ∀ mark ∈ hexMarks, ¬ mark <+: text) :
    addressNumber text = Text.numeral 10 text := by
  unfold addressNumber
  split
  next digits => exact absurd (List.prefix_append ['0', 'x'] digits) (unmarked _ (by decide))
  next digits => exact absurd (List.prefix_append ['0', 'X'] digits) (unmarked _ (by decide))
  · rfl

theorem marked_or_unmarked (text : List Char) :
    (∃ mark ∈ hexMarks, ∃ digits, mark ++ digits = text) ∨ ∀ mark ∈ hexMarks, ¬ mark <+: text := by
  by_cases marked : ∃ mark ∈ hexMarks, mark <+: text
  · exact .inl marked
  · exact .inr fun mark listed front => marked ⟨mark, listed, front⟩

theorem addressNumber_eq_ok_iff : addressNumber text = .ok n ↔ AddressLiteral text n ∧ n < UInt64.size := by
  rcases marked_or_unmarked text with ⟨mark, marked, digits, rfl⟩ | unmarked
  · rw [addressNumber_marked marked, literal_marked marked]
    exact Text.numeral_eq_ok_iff (by decide) (by decide)
  · rw [addressNumber_unmarked unmarked, literal_unmarked unmarked]
    exact Text.numeral_eq_ok_iff (by decide) (by decide)

/-- A literal stands for one number. -/
theorem AddressLiteral.unique (first : AddressLiteral text n) (last : AddressLiteral text m) : n = m := by
  rcases marked_or_unmarked text with ⟨mark, marked, digits, rfl⟩ | unmarked
  · rw [literal_marked marked] at first last
    exact first.unique (by decide) last
  · rw [literal_unmarked unmarked] at first last
    exact first.unique (by decide) last

theorem parseAddress_eq_ok_iff {text : String} {address : UInt64} :
    parseAddress text = .ok address ↔ AddressLiteral text.toList address.toNat := by
  unfold parseAddress
  constructor
  · intro parsed
    cases read : addressNumber text.toList with
    | error cause => rw [read] at parsed; cases parsed
    | ok number =>
      rw [read] at parsed
      cases parsed
      obtain ⟨literal, fits⟩ := addressNumber_eq_ok_iff.mp read
      rwa [UInt64.toNat_ofNat_of_lt' fits]
  · intro literal
    rw [addressNumber_eq_ok_iff.mpr ⟨literal, address.toNat_lt⟩]
    exact congrArg Except.ok (UInt64.ofNat_toNat)

theorem parseAddress_refused {text : String} (strange : ∀ n, AddressLiteral text.toList n → UInt64.size ≤ n) :
    ∃ cause, parseAddress text = .error { text, cause } := by
  unfold parseAddress
  cases read : addressNumber text.toList with
  | error cause => exact ⟨cause, rfl⟩
  | ok number =>
    obtain ⟨literal, fits⟩ := addressNumber_eq_ok_iff.mp read
    exact absurd fits (Nat.not_lt_of_le (strange number literal))

theorem decimal_unmarked (denotes : Text.Denotes 10 text n) : ∀ mark ∈ hexMarks, ¬ mark <+: text := by
  have letter : ∀ mark ∈ hexMarks, mark.any (Text.digit? 10 · = none) := by decide
  intro mark marked front
  obtain ⟨c, member, noDigit⟩ := List.any_eq_true.mp (letter mark marked)
  obtain ⟨value, digit⟩ := denotes.digits_only c (front.subset member)
  cases (of_decide_eq_true noDigit).symm.trans ((Text.digit_eq_some_iff (by decide)).mpr digit)

theorem decimal_written (n : Nat) : AddressLiteral (toString n).toList n := by
  have digits := Text.Denotes.toDigits 10 (by decide) (by decide) n
  rw [Nat.toString_eq_ofList_toDigits, String.toList_ofList]
  exact .decimal (decimal_unmarked digits) (.plain Nat.toDigits_ne_nil digits)

theorem hex_written (n : Nat) : AddressLiteral (Text.hex n).toList n := by
  have digits := Text.Denotes.toDigits 16 (by decide) (by decide) n
  have text : (Text.hex n).toList = ['0', 'x'] ++ Nat.toDigits 16 n := by simp [Text.hex, Text.hexDigits]
  rw [text]
  exact .hexadecimal (by decide) (.plain Nat.toDigits_ne_nil digits)

/-- A text is read as an address just if it is a literal whose number fits in 64 bits. A literal
stands for one number only, and every text that is not read is quoted in the complaint as it is. An
address that is written in decimal or in hexadecimal is read back. -/
theorem address_literals_read :
    (∀ text address, parseAddress text = .ok address ↔ AddressLiteral text.toList address.toNat) ∧
    (∀ text n m, AddressLiteral text n → AddressLiteral text m → n = m) ∧
    (∀ text, (∀ n, AddressLiteral text.toList n → UInt64.size ≤ n) ↔
      ∃ fault, parseAddress text = .error fault ∧
        fault.message = "invalid address '" ++ text ++ "': " ++ fault.cause.message) ∧
    ∀ address : UInt64,
      parseAddress (toString address) = .ok address ∧ parseAddress (Text.hex address.toNat) = .ok address := by
  refine ⟨fun _ _ => parseAddress_eq_ok_iff, fun _ _ _ => AddressLiteral.unique, ?_, ?_⟩
  · intro text
    constructor
    · intro strange
      obtain ⟨cause, refused⟩ := parseAddress_refused strange
      exact ⟨_, refused, rfl⟩
    · rintro ⟨fault, refused, _⟩ n literal
      refine Nat.le_of_not_lt fun fits => ?_
      have read : parseAddress text = .ok n.toUInt64 :=
        parseAddress_eq_ok_iff.mpr (by rwa [UInt64.toNat_ofNat_of_lt' fits])
      cases read.symm.trans refused
  · intro address
    exact ⟨parseAddress_eq_ok_iff.mpr (decimal_written address.toNat),
      parseAddress_eq_ok_iff.mpr (hex_written address.toNat)⟩

/-- The largest address, with a sign and a zero that it does not need. -/
theorem largest_address_read :
    AddressLiteral "0X+0ffffffffFFFFFFFF".toList (0xffffffffffffffff : UInt64).toNat ∧
    ¬ AddressLiteral "0x0x10".toList 16 := by
  obtain ⟨read, _⟩ := address_literals_read
  refine ⟨(read _ _).mp (by decide), ?_⟩
  intro literal
  have parsed : parseAddress "0x0x10" = .ok 16 := (read "0x0x10" 16).mpr literal
  revert parsed
  decide

end IsaCensus
