import IsaCensus.Json.Text
import IsaCensus.Json.Value

/-! A string that was written is read back. Every character is written in one piece, plain
or escaped, and reading takes one piece at a time. -/

namespace IsaCensus.Json

theorem characters_plain {c : Char} {input : List Char} (noQuote : c ≠ '"') (noEscape : c ≠ '\\')
    (printable : ¬ c.toNat < 32) :
    characters (c :: input) = (characters input).map fun (others, rest) => (c :: others, rest) := by
  rw [characters]
  simp only [noQuote, noEscape, printable, if_false]
  cases characters input <;> rfl

theorem characters_escaped (code : List Char) {meant : Char} {input : List Char}
    (read : escaped (code ++ input) = .ok (meant, code.length)) :
    characters ('\\' :: (code ++ input)) =
      (characters input).map fun (others, rest) => (meant :: others, rest) := by
  rw [characters]
  simp [read, bind, Except.bind, pure, Except.pure]
  cases characters input <;> rfl

theorem hexValue_hexDigit : ∀ n : Fin 16, hexValue? (Value.hexDigit n.val) = some n.val := by decide

theorem hexQuad_small (n : Nat) (small : n < 32) (input : List Char) :
    hexQuad ('0' :: '0' :: Value.hexDigit (n / 16) :: Value.hexDigit (n % 16) :: input) = .ok n := by
  have high := hexValue_hexDigit ⟨n / 16, by omega⟩
  have low := hexValue_hexDigit ⟨n % 16, by omega⟩
  have zero : hexValue? '0' = some 0 := by decide
  simp only at high low
  simp [hexQuad, high, low, zero]
  omega

theorem escaped_control {c : Char} (control : c.toNat < 32) (input : List Char) :
    escaped ('u' :: '0' :: '0' :: Value.hexDigit (c.toNat / 16) :: Value.hexDigit (c.toNat % 16) :: input) =
      .ok (c, 5) := by
  have below : ¬ 0xd800 ≤ c.toNat := by omega
  have lower : ¬ 0xdc00 ≤ c.toNat := by omega
  simp only [escaped, numbered, hexQuad_small c.toNat control input]
  simp [bind, Except.bind, Except.map, isTrailing, isLeading, pure, Except.pure, below, lower]

theorem characters_escape (c : Char) (input : List Char) :
    characters (Value.escape c ++ input) =
      (characters input).map fun (others, rest) => (c :: others, rest) := by
  unfold Value.escape
  split
  · exact characters_escaped ['"'] rfl
  · exact characters_escaped ['\\'] rfl
  · exact characters_escaped ['n'] rfl
  · exact characters_escaped ['r'] rfl
  · exact characters_escaped ['t'] rfl
  · exact characters_escaped ['b'] rfl
  · exact characters_escaped ['f'] rfl
  next noQuote noEscape _ _ _ _ _ =>
    split
    next control =>
      let code := ['u', '0', '0', Value.hexDigit (c.toNat / 16), Value.hexDigit (c.toNat % 16)]
      exact characters_escaped code (escaped_control control input)
    next printable => exact characters_plain noQuote noEscape printable

/-- Reading undoes writing, whatever follows. -/
theorem text_quote (s : String) (rest : List Char) :
    text (s.toList.flatMap Value.escape ++ '"' :: rest) = .ok (s, rest) := by
  have read (chars : List Char) :
      characters (chars.flatMap Value.escape ++ '"' :: rest) = .ok (chars, rest) := by
    induction chars with
    | nil => rw [List.flatMap_nil, List.nil_append, characters]; simp
    | cons c chars ih => rw [List.flatMap_cons, List.append_assoc, characters_escape, ih]; rfl
  simp [text, read, Except.map]

end IsaCensus.Json
