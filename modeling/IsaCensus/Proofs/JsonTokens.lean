import IsaCensus.Json.Fault
import IsaCensus.Json.Value

/-! The texts of a JSON value. A value consists of tokens, and between them there can be any blanks:
the indented text has line breaks and spaces there, and the compact text has nothing. -/

namespace IsaCensus.Json

abbrev Token := List Char

def Bracket.opener : Bracket → Char
  | .square => '['
  | .curly => '\x7b'

/-- The tokens of some parts, each behind a comma, or each but the first. -/
def joined : Bool → List (List Token) → List Token
  | _, [] => []
  | true, part :: rest => part ++ joined false rest
  | false, part :: rest => [','] :: (part ++ joined false rest)

def bracketed (bracket : Bracket) (parts : List (List Token)) : List Token :=
  [bracket.opener] :: (joined true parts ++ [[bracket.close]])

namespace Value

mutual

def tokens : Value → List Token
  | .null => [['n', 'u', 'l', 'l']]
  | .bool true => [['t', 'r', 'u', 'e']]
  | .bool false => [['f', 'a', 'l', 's', 'e']]
  | .number n => [Nat.toDigits 10 n]
  | .text s => [quote s]
  | .list items => bracketed .square (itemTokens items)
  | .object members => bracketed .curly (memberTokens members)

def itemTokens : List Value → List (List Token)
  | [] => []
  | first :: rest => first.tokens :: itemTokens rest

def memberToken : String × Value → List Token
  | (name, value) => quote name :: [':'] :: value.tokens

def memberTokens : List (String × Value) → List (List Token)
  | [] => []
  | first :: rest => memberToken first :: memberTokens rest

end

/-- The text without any blanks. -/
def compact (value : Value) : String := String.ofList value.tokens.flatten

theorem itemTokens_eq (items : List Value) : itemTokens items = items.map tokens := by
  induction items with
  | nil => rfl
  | cons first rest ih => rw [itemTokens, ih, List.map_cons]

theorem memberTokens_eq (members : List (String × Value)) : memberTokens members = members.map memberToken := by
  induction members with
  | nil => rfl
  | cons first rest ih => rw [memberTokens, ih, List.map_cons]

end Value

/-- A text of these tokens, with any blanks before, between and behind them. -/
inductive Spaced : List Token → List Char → Prop
  | blanks {blanks} (blank : ∀ c ∈ blanks, isBlank c = true) : Spaced [] blanks
  | token {blanks token tokens text} (blank : ∀ c ∈ blanks, isBlank c = true) (rest : Spaced tokens text) :
      Spaced (token :: tokens) (blanks ++ (token ++ text))

namespace Spaced

variable {c : Char} {token : Token} {tokens more : List Token} {blanks text : List Char}

theorem behind_blanks (blank : ∀ c ∈ blanks, isBlank c = true) (spaced : Spaced tokens text) :
    Spaced tokens (blanks ++ text) := by
  have all {others : List Char} (blankToo : ∀ c ∈ others, isBlank c = true) :
      ∀ c ∈ blanks ++ others, isBlank c = true := fun c member =>
    (List.mem_append.mp member).elim (blank c) (blankToo c)
  cases spaced with
  | blanks more => exact .blanks (all more)
  | token more rest =>
    rw [← List.append_assoc]
    exact .token (all more) rest

theorem nothing : Spaced [] [] := .blanks fun _ member => nomatch member

theorem tight (token : Token) (rest : Spaced tokens text) : Spaced (token :: tokens) (token ++ text) := by
  have none : ∀ c ∈ ([] : List Char), isBlank c = true := fun _ member => nomatch member
  exact .token none rest

theorem flatten (tokens : List Token) : Spaced tokens tokens.flatten := by
  induction tokens with
  | nil => exact nothing
  | cons token tokens ih => exact ih.tight token

theorem trimmed_blanks (blank : ∀ c ∈ blanks, isBlank c = true) (text : List Char) :
    trimmed (blanks ++ text) = trimmed text :=
  List.dropWhile_append_of_pos blank

/-- The first token comes to the front when the blanks before it are dropped. -/
theorem starts (solid : isBlank c = false) (spaced : Spaced ((c :: token) :: tokens) text) :
    ∃ rest, Spaced tokens rest ∧ trimmed text = c :: (token ++ rest) := by
  cases spaced with
  | token blank rest =>
    refine ⟨_, rest, (trimmed_blanks blank _).trans ?_⟩
    exact List.dropWhile_cons_of_neg (by simp [solid])

theorem ends (spaced : Spaced [] text) : trimmed text = [] := by
  cases spaced with
  | blanks blank => exact (congrArg trimmed (List.append_nil text).symm).trans (trimmed_blanks blank [])

/-- No token is shorter in the text. -/
theorem length_le (spaced : Spaced tokens text) : tokens.flatten.length ≤ text.length := by
  induction spaced with
  | blanks => exact Nat.zero_le _
  | token _ _ ih =>
    simp only [List.flatten_cons, List.length_append]
    omega

end Spaced

/-- Whether a text has these tokens. -/
def hasTokens : List Token → List Char → Bool
  | [], text => text.all isBlank
  | token :: tokens, text =>
    token.isPrefixOf (trimmed text) && hasTokens tokens ((trimmed text).drop token.length)

theorem spaced_of_hasTokens {tokens : List Token} {text : List Char} (has : hasTokens tokens text = true) :
    Spaced tokens text := by
  induction tokens generalizing text with
  | nil => exact .blanks (List.all_eq_true.mp has)
  | cons token tokens ih =>
    obtain ⟨front, rest⟩ := Bool.and_eq_true_iff.mp has
    obtain ⟨behind, written⟩ := List.isPrefixOf_iff_prefix.mp front
    rw [← written, List.drop_left] at rest
    have blank : ∀ c ∈ text.takeWhile isBlank, isBlank c = true := List.all_eq_true.mp List.all_takeWhile
    have parts : text.takeWhile isBlank ++ (token ++ behind) = text := by
      rw [written]
      exact List.takeWhile_append_dropWhile
    exact parts ▸ .token blank (ih rest)

namespace Value

theorem newLine_blank (level : Nat) : ∀ c ∈ newLine level, isBlank c = true := by
  intro c member
  rcases List.mem_cons.mp member with rfl | space
  · rfl
  · rw [List.eq_of_mem_replicate space]
    rfl

/-! A text is spaced from its end to its front: what stands behind a value first, then the value. -/

mutual

theorem chars_spaced {more : List Token} {text : List Char} (level : Nat) (spaced : Spaced more text) :
    ∀ value : Value, Spaced (value.tokens ++ more) (value.chars level ++ text)
  | .null => spaced.tight _
  | .bool true => spaced.tight _
  | .bool false => spaced.tight _
  | .number _ => spaced.tight _
  | .text _ => spaced.tight _
  | .list [] => (spaced.tight [']']).tight ['[']
  | .list (first :: rest) => by
    have closed := (spaced.tight [']']).behind_blanks (newLine_blank level)
    have items := chars_spaced (level + 1) (itemChars_spaced (level + 1) closed rest) first
    have whole := (items.behind_blanks (newLine_blank (level + 1))).tight ['[']
    simpa [chars, tokens, itemTokens, bracketed, joined, Bracket.opener, Bracket.close] using whole
  | .object [] => (spaced.tight ['\x7d']).tight ['\x7b']
  | .object (first :: rest) => by
    have closed := (spaced.tight ['\x7d']).behind_blanks (newLine_blank level)
    have members := memberChar_spaced (level + 1) (memberChars_spaced (level + 1) closed rest) first
    have whole := (members.behind_blanks (newLine_blank (level + 1))).tight ['\x7b']
    simpa [chars, tokens, memberTokens, bracketed, joined, Bracket.opener, Bracket.close] using whole

theorem itemChars_spaced {more : List Token} {text : List Char} (level : Nat) (spaced : Spaced more text) :
    ∀ items : List Value, Spaced (joined false (itemTokens items) ++ more) (itemChars level items ++ text)
  | [] => spaced
  | first :: rest => by
    have items := chars_spaced level (itemChars_spaced level spaced rest) first
    have whole := (items.behind_blanks (newLine_blank level)).tight [',']
    simpa [itemChars, itemTokens, joined] using whole

theorem memberChar_spaced {more : List Token} {text : List Char} (level : Nat) (spaced : Spaced more text) :
    ∀ member : String × Value, Spaced (memberToken member ++ more) (memberChar level member ++ text)
  | (name, value) => by
    have blank : ∀ c ∈ [' '], isBlank c = true := List.forall_mem_singleton.mpr rfl
    have item := (chars_spaced level spaced value).behind_blanks blank
    have whole := (item.tight [':']).tight (quote name)
    simpa [memberChar, memberToken] using whole

theorem memberChars_spaced {more : List Token} {text : List Char} (level : Nat) (spaced : Spaced more text) :
    ∀ members : List (String × Value),
      Spaced (joined false (memberTokens members) ++ more) (memberChars level members ++ text)
  | [] => spaced
  | first :: rest => by
    have members := memberChar_spaced level (memberChars_spaced level spaced rest) first
    have whole := (members.behind_blanks (newLine_blank level)).tight [',']
    simpa [memberChars, memberTokens, joined] using whole

end

theorem render_spaced (value : Value) : Spaced value.tokens value.render.toList := by
  have spaced := chars_spaced 0 Spaced.nothing value
  simpa [render] using spaced

theorem compact_spaced (value : Value) : Spaced value.tokens value.compact.toList := by
  rw [compact, String.toList_ofList]
  exact .flatten value.tokens

end Value

end IsaCensus.Json
