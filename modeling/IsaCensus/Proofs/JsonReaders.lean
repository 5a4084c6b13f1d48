import IsaCensus.Json.Quoting
import IsaCensus.Json.Shape
import IsaCensus.Proofs.JsonNumbers
import IsaCensus.Proofs.JsonTokens

/-! Readers of a JSON text. What a reader takes from the tokens of a value does not depend on the
blanks between them. For a list this follows from its items, and for a record from its fields. -/

namespace IsaCensus.Json

/-- What can come behind a value: the next item, the end of what the value is in, or nothing. -/
inductive Ends : List Token → Prop
  | nothing : Ends []
  | comma (more : List Token) : Ends ([','] :: more)
  | bracket (bracket : Bracket) (more : List Token) : Ends ([bracket.close] :: more)

section
variable {α : Type}

/-- From the tokens of the value the result is read, and what comes behind them is left. -/
def Reads (read : List Char → Except Fault (Reading α)) (value : Value) (result : α) : Prop :=
  ∀ (more : List Token) (text : List Char), Ends more → Spaced (value.tokens ++ more) text →
    ∃ rest, Spaced more rest ∧ read text = .ok (result, rest)

end

theorem stops_of_blank {c : Char} {rest : List Char} (blank : isBlank c = true) : Stops (c :: rest) := by
  intro d same
  cases same
  simp only [isBlank, Bool.or_eq_true, decide_eq_true_eq] at blank
  rcases blank with ((rfl | rfl) | rfl) | rfl <;> decide

/-- A number ends before the blanks and tokens that can come behind it. -/
theorem Ends.stops {more : List Token} {rest : List Char} (ends : Ends more) (spaced : Spaced more rest) :
    Stops rest := by
  cases spaced with
  | blanks blank =>
    cases rest with
    | nil => exact fun _ none => nomatch none
    | cons c rest => exact stops_of_blank (blank c List.mem_cons_self)
  | @token blanks _ _ _ blank =>
    cases blanks with
    | cons c blanks => exact stops_of_blank (blank c List.mem_cons_self)
    | nil =>
      cases ends with
      | comma => intro c same; cases same; decide
      | bracket bracket => intro c same; cases same; cases bracket <;> decide

theorem digit_solid {c : Char} (digit : c.isDigit = true) : isBlank c = false := by
  refine Bool.eq_false_iff.mpr fun blank => ?_
  have stops : Stops [c] := stops_of_blank blank
  exact absurd (digit.symm.trans (stops c rfl).1) (by decide)

namespace Value

/-- How the first token of a value begins. -/
theorem tokens_begin (value : Value) : ∃ c token tokens, value.tokens = (c :: token) :: tokens ∧
    isBlank c = false ∧ c ≠ ']' ∧ (c = 'n' → value = .null) := by
  cases value with
  | null => exact ⟨_, _, _, rfl, by decide, by decide, fun _ => rfl⟩
  | bool value => cases value <;> exact ⟨_, _, _, rfl, by decide, by decide, fun same => absurd same (by decide)⟩
  | number n =>
    obtain ⟨c, digits, written, digit⟩ := toDigits_cons n
    refine ⟨c, digits, [], by rw [tokens, written], digit_solid digit, ?_, ?_⟩ <;>
      · rintro rfl
        exact absurd digit (by decide)
  | text | list | object => exact ⟨_, _, _, rfl, by decide, by decide, fun same => absurd same (by decide)⟩

end Value

section
variable {more : List Token} {text : List Char}

/-- The front of a text that goes on with a value. -/
theorem Spaced.front {value : Value} (spaced : Spaced (value.tokens ++ more) text) :
    ∃ c rest, trimmed text = c :: rest ∧ c ≠ ']' ∧ (c = 'n' → value = .null) ∧
      Spaced (value.tokens ++ more) (c :: rest) := by
  obtain ⟨c, token, tokens, begins, solid, item, null⟩ := value.tokens_begin
  rw [begins] at spaced ⊢
  obtain ⟨rest, spaced, front⟩ := spaced.starts solid
  exact ⟨c, token ++ rest, front, item, null, spaced.tight (c :: token)⟩

/-- A string in front is read up to its closing quote. -/
theorem Spaced.quoted {s : String} (spaced : Spaced (Value.quote s :: more) text) :
    ∃ chars rest, trimmed text = '"' :: chars ∧ Json.text chars = .ok (s, rest) ∧ Spaced more rest := by
  obtain ⟨rest, spaced, front⟩ := spaced.starts rfl
  refine ⟨_, rest, front, ?_, spaced⟩
  rw [List.append_assoc]
  exact text_quote s rest

theorem word_reads (expected : String) (n : UInt64) : Reads (word expected) (.number n.toNat) n := by
  intro more text ends spaced
  obtain ⟨c, digits, written, digit⟩ := toDigits_cons n.toNat
  rw [Value.tokens, written] at spaced
  obtain ⟨rest, spaced, front⟩ := spaced.starts (digit_solid digit)
  have read := number_toDigits n.toNat_lt_size (ends.stops spaced)
  rw [written, List.cons_append] at read
  have starts : startsNumber (c :: (digits ++ rest)) = true := by simp [startsNumber, digit]
  exact ⟨rest, spaced, by simp [word, front, starts, read, bind, Except.bind, pure, Except.pure]⟩

theorem count_reads (expected : String) {n limit : Nat} (below : n < limit) (small : limit ≤ UInt64.size) :
    Reads (count expected limit) (.number n) n := by
  intro more text ends spaced
  have size : n.toUInt64.toNat = n := UInt64.toNat_ofNat_of_lt' (Nat.lt_of_lt_of_le below small)
  have spaced : Spaced ((Value.number n.toUInt64.toNat).tokens ++ more) text := size.symm ▸ spaced
  obtain ⟨rest, spaced, read⟩ := word_reads expected n.toUInt64 _ _ ends spaced
  exact ⟨rest, spaced, by simp [count, read, bind, Except.bind, pure, Except.pure, size, below]⟩

theorem truth_reads (b : Bool) : Reads truth (.bool b) b := by
  intro more text _ spaced
  cases b with
  | true =>
    obtain ⟨rest, spaced, front⟩ := spaced.starts rfl
    exact ⟨rest, spaced, by simp [truth, front, afterWord, Except.map]⟩
  | false =>
    obtain ⟨rest, spaced, front⟩ := spaced.starts rfl
    exact ⟨rest, spaced, by simp [truth, front, afterWord, Except.map]⟩

theorem string_reads (s : String) : Reads string (.text s) s := by
  intro more text _ spaced
  obtain ⟨chars, rest, front, read, spaced⟩ := spaced.quoted
  exact ⟨rest, spaced, by simp [string, front, read]⟩

section
variable {α : Type} {read : List Char → Except Fault (Reading α)}

theorem none_reads : Reads (optional read) .null none := by
  intro more text _ spaced
  obtain ⟨rest, spaced, front⟩ := spaced.starts rfl
  exact ⟨rest, spaced, by simp [optional, front, afterWord, Except.map]⟩

theorem some_reads {value : Value} {result : α} (reads : Reads read value result) (present : value ≠ .null) :
    Reads (optional read) value (some result) := by
  intro more text ends spaced
  obtain ⟨c, others, front, _, null, spaced⟩ := spaced.front
  obtain ⟨rest, spaced, done⟩ := reads _ _ ends spaced
  have word : c ≠ 'n' := fun same => present (null same)
  refine ⟨rest, spaced, ?_⟩
  rw [optional, front]
  split
  next same => exact absurd (List.cons.inj same).1 word
  next => rw [done]; rfl

theorem variant_reads (known : List String) {ofName? : String → Option α} {name : String} {result : α}
    (means : ofName? name = some result) : Reads (variant known ofName?) (.text name) result := by
  intro more text _ spaced
  obtain ⟨chars, rest, front, read, spaced⟩ := spaced.quoted
  exact ⟨rest, spaced, by simp [variant, front, read, named, means, bind, Except.bind, pure, Except.pure]⟩

end

theorem joined_ends (parts : List (List Token)) (bracket : Bracket) (more : List Token) :
    Ends (joined false parts ++ [bracket.close] :: more) := by
  cases parts with
  | nil => exact .bracket bracket more
  | cons => exact .comma _

theorem joined_length {parts : List (List Token)} (solid : ∀ part ∈ parts, 0 < part.flatten.length) (first : Bool) :
    parts.length ≤ (joined first parts).flatten.length := by
  induction parts generalizing first with
  | nil => exact Nat.zero_le _
  | cons part parts ih =>
    have here := solid part List.mem_cons_self
    have others := ih (fun part member => solid part (List.mem_cons_of_mem _ member)) false
    cases first <;> simp only [joined, List.flatten_cons, List.flatten_append, List.length_append, List.length_cons] <;>
      omega

/-- Behind an opening bracket the text is at least as long as the list of the parts that stand in it. -/
theorem Spaced.inside {α : Type} (bracket : Bracket) {tokens : α → List Token}
    (solid : ∀ part, 0 < (tokens part).flatten.length) {parts : List α}
    (spaced : Spaced (bracketed bracket (parts.map tokens) ++ more) text) :
    ∃ rest, trimmed text = bracket.opener :: rest ∧ parts.length < rest.length + 1 ∧
      Spaced (joined true (parts.map tokens) ++ [bracket.close] :: more) rest := by
  have opener : isBlank bracket.opener = false := by cases bracket <;> rfl
  rw [bracketed, List.cons_append, List.append_assoc] at spaced
  obtain ⟨rest, spaced, front⟩ := spaced.starts opener
  have long := spaced.length_le
  have short := @joined_length (parts.map tokens)
    (fun part member => by obtain ⟨one, _, rfl⟩ := List.mem_map.mp member; exact solid one) true
  rw [List.flatten_append, List.length_append] at long
  rw [List.length_map] at short
  exact ⟨rest, front, by omega, spaced⟩

theorem Value.tokens_solid (value : Value) : 0 < value.tokens.flatten.length := by
  obtain ⟨c, token, tokens, begins, _⟩ := value.tokens_begin
  rw [begins]
  exact Nat.zero_lt_succ _

theorem Value.memberToken_solid (member : String × Value) : 0 < (memberToken member).flatten.length := by
  obtain ⟨name, value⟩ := member
  exact Nat.zero_lt_succ _

theorem nextItem_goes_on {first : Bool} {value : Value} {parts : List (List Token)}
    (spaced : Spaced (joined first (value.tokens :: parts) ++ more) text) :
    ∃ rest, nextItem first text = .ok (true, rest) ∧ Spaced (value.tokens ++ (joined false parts ++ more)) rest := by
  cases first with
  | true =>
    rw [joined, List.append_assoc] at spaced
    obtain ⟨c, rest, front, item, _, spaced⟩ := spaced.front
    exact ⟨c :: rest, by simp [nextItem, front, item], spaced⟩
  | false =>
    rw [joined, List.cons_append, List.append_assoc] at spaced
    obtain ⟨rest, spaced, comma⟩ := spaced.starts rfl
    obtain ⟨c, others, front, item, _, spaced⟩ := spaced.front
    exact ⟨c :: others, by simp [nextItem, comma, front, item], spaced⟩

theorem nextItem_over (first : Bool) (spaced : Spaced ([']'] :: more) text) :
    ∃ rest, nextItem first text = .ok (false, rest) ∧ Spaced more rest := by
  obtain ⟨rest, spaced, front⟩ := spaced.starts rfl
  exact ⟨rest, by simp [nextItem, front], spaced⟩

theorem nextName_goes_on {first : Bool} {name : String} {part : List Token} {parts : List (List Token)}
    (spaced : Spaced (joined first ((Value.quote name :: part) :: parts) ++ more) text) :
    ∃ rest, nextName first text = .ok (some name, rest) ∧ Spaced (part ++ (joined false parts ++ more)) rest := by
  cases first with
  | true =>
    rw [joined, List.append_assoc, List.cons_append] at spaced
    obtain ⟨chars, rest, front, read, spaced⟩ := spaced.quoted
    exact ⟨rest, by simp [nextName, front, read, Except.map], spaced⟩
  | false =>
    rw [joined, List.cons_append, List.append_assoc, List.cons_append] at spaced
    obtain ⟨rest, spaced, comma⟩ := spaced.starts rfl
    obtain ⟨chars, rest, front, read, spaced⟩ := spaced.quoted
    exact ⟨rest, by simp [nextName, comma, front, read, Except.map], spaced⟩

theorem nextName_over (first : Bool) (spaced : Spaced (['\x7d'] :: more) text) :
    ∃ rest, nextName first text = .ok (none, rest) ∧ Spaced more rest := by
  obtain ⟨rest, spaced, front⟩ := spaced.starts rfl
  exact ⟨rest, by simp [nextName, front], spaced⟩

theorem afterColon_reads (spaced : Spaced ([':'] :: more) text) :
    ∃ rest, afterColon text = .ok rest ∧ Spaced more rest := by
  obtain ⟨rest, spaced, front⟩ := spaced.starts rfl
  exact ⟨rest, by simp [afterColon, front], spaced⟩

/-- The front of a text that goes on with a member. -/
theorem Spaced.member {first : Bool} {name : String} {value : Value} {parts : List (List Token)}
    (spaced : Spaced (joined first (Value.memberToken (name, value) :: parts) ++ more) text) :
    ∃ behind rest, nextName first text = .ok (some name, behind) ∧ afterColon behind = .ok rest ∧
      Spaced (value.tokens ++ (joined false parts ++ more)) rest := by
  obtain ⟨behind, found, spaced⟩ := nextName_goes_on spaced
  obtain ⟨rest, colon, spaced⟩ := afterColon_reads spaced
  exact ⟨behind, rest, found, colon, spaced⟩

section
variable {α : Type} {read : List Char → Except Fault (Reading α)} {toJson : α → Value}

theorem items_read {results : List α} (each : ∀ result ∈ results, Reads read (toJson result) result)
    {fuel : Nat} (enough : results.length < fuel) {first : Bool}
    (spaced : Spaced (joined first (results.map fun result => (toJson result).tokens) ++ [']'] :: more) text) :
    ∃ rest, Spaced more rest ∧ items read fuel first text = .ok (results, rest) := by
  induction results generalizing fuel first text with
  | nil =>
    obtain ⟨fuel, rfl⟩ := Nat.exists_eq_add_one.mpr enough
    obtain ⟨rest, ended, spaced⟩ := nextItem_over first spaced
    exact ⟨rest, spaced, by simp [items, ended, bind, Except.bind, pure, Except.pure]⟩
  | cons result results ih =>
    obtain ⟨fuel, rfl⟩ := Nat.exists_eq_add_one.mpr (Nat.zero_lt_of_lt enough)
    obtain ⟨item, found, spaced⟩ := nextItem_goes_on spaced
    obtain ⟨behind, spaced, one⟩ := each result List.mem_cons_self _ _ (joined_ends _ .square more) spaced
    have others := fun other member => each other (List.mem_cons_of_mem result member)
    obtain ⟨rest, spaced, all⟩ := ih others (Nat.lt_of_succ_lt_succ enough) spaced
    exact ⟨rest, spaced, by simp [items, found, one, all, bind, Except.bind, pure, Except.pure]⟩

/-- A list is read if its items are. -/
theorem list_reads {results : List α} (each : ∀ result ∈ results, Reads read (toJson result) result) :
    Reads (list read) (.list (results.map toJson)) results := by
  intro more text _ spaced
  rw [Value.tokens, Value.itemTokens_eq, List.map_map] at spaced
  obtain ⟨inside, front, enough, spaced⟩ := spaced.inside .square fun result => (toJson result).tokens_solid
  obtain ⟨rest, spaced, read⟩ := items_read each enough spaced
  exact ⟨rest, spaced, by rw [list, front]; exact read⟩

theorem entries_read {results : List (String × α)}
    (each : ∀ result ∈ results, Reads read (toJson result.2) result.2)
    {fuel : Nat} (enough : results.length < fuel) {first : Bool}
    (spaced : Spaced (joined first (results.map fun result => Value.memberToken (result.1, toJson result.2)) ++
      ['\x7d'] :: more) text) :
    ∃ rest, Spaced more rest ∧ entries read fuel first text = .ok (results, rest) := by
  induction results generalizing fuel first text with
  | nil =>
    obtain ⟨fuel, rfl⟩ := Nat.exists_eq_add_one.mpr enough
    obtain ⟨rest, ended, spaced⟩ := nextName_over first spaced
    exact ⟨rest, spaced, by simp [entries, ended, bind, Except.bind, pure, Except.pure]⟩
  | cons result results ih =>
    obtain ⟨fuel, rfl⟩ := Nat.exists_eq_add_one.mpr (Nat.zero_lt_of_lt enough)
    obtain ⟨name, item, found, colon, spaced⟩ := spaced.member
    obtain ⟨behind, spaced, one⟩ := each result List.mem_cons_self _ _ (joined_ends _ .curly more) spaced
    have others := fun other member => each other (List.mem_cons_of_mem result member)
    obtain ⟨rest, spaced, all⟩ := ih others (Nat.lt_of_succ_lt_succ enough) spaced
    exact ⟨rest, spaced, by simp [entries, found, colon, one, all, bind, Except.bind, pure, Except.pure]⟩

theorem table_reads {results : List (String × α)}
    (each : ∀ result ∈ results, Reads read (toJson result.2) result.2) :
    Reads (table read) (.object (results.map fun result => (result.1, toJson result.2))) results := by
  intro more text _ spaced
  rw [Value.tokens, Value.memberTokens_eq, List.map_map] at spaced
  obtain ⟨inside, front, enough, spaced⟩ := spaced.inside .curly fun _ => Value.memberToken_solid _
  obtain ⟨rest, spaced, read⟩ := entries_read each enough spaced
  exact ⟨rest, spaced, by rw [table, front]; exact read⟩

end

end

section
variable {ρ : Type} {fields used : List (FieldReader ρ)} {members : List (String × Value)}
  {record start result : ρ}

/-- Some fields take a record to another one when they are read from these members, one each. -/
inductive Fills : List (FieldReader ρ) → List (String × Value) → ρ → ρ → Prop
  | nothing (record : ρ) : Fills [] [] record record
  | field {field : FieldReader ρ} {value : Value} {fields members} {before between after : ρ}
      (here : Reads (field.read before) value between) (rest : Fills fields members between after) :
      Fills (field :: fields) ((field.name, value) :: members) before after

theorem of_reads {α : Type} {name : String} {read : List Char → Except Fault (Reading α)} {set : ρ → α → ρ}
    {value : Value} {result : α} (reads : Reads read value result) :
    Reads ((FieldReader.of name read set).read record) value (set record result) := by
  intro more text ends spaced
  obtain ⟨rest, spaced, read⟩ := reads _ _ ends spaced
  exact ⟨rest, spaced, by simp [FieldReader.of, read, Except.map]⟩

theorem Fills.of {α : Type} {name : String} {read : List Char → Except Fault (Reading α)} {set : ρ → α → ρ}
    {value : Value} {given : α} (reads : Reads read value given) (rest : Fills fields members (set start given) result) :
    Fills (.of name read set :: fields) ((name, value) :: members) start result :=
  .field (of_reads reads) rest

theorem find_named {field : FieldReader ρ} (once : (fields.map FieldReader.name).Nodup) (listed : field ∈ fields) :
    fields.find? (·.name = field.name) = some field := by
  induction fields with
  | nil => nomatch listed
  | cons other fields ih =>
    rw [List.map_cons, List.nodup_cons] at once
    rcases List.mem_cons.mp listed with rfl | listed
    · simp
    · have different : other.name ≠ field.name := fun same =>
        once.1 (same ▸ List.mem_map_of_mem listed)
      simp [different, ih once.2 listed]

theorem members_read (fills : Fills used members record result)
    (listed : ∀ field ∈ used, fields.find? (·.name = field.name) = some field)
    (once : (used.map FieldReader.name).Nodup) {seen : List String} (unseen : ∀ field ∈ used, field.name ∉ seen)
    {fuel : Nat} (enough : members.length < fuel) {first : Bool} {more : List Token} {text : List Char}
    (spaced : Spaced (joined first (members.map Value.memberToken) ++ ['\x7d'] :: more) text) :
    ∃ rest, Spaced more rest ∧ Json.members fields fuel seen first record text = .ok (result, rest) := by
  -- The fields are in the order of the text, so what was seen are the names of those before.
  induction fills generalizing seen fuel first text with
  | nothing record =>
    obtain ⟨fuel, rfl⟩ := Nat.exists_eq_add_one.mpr enough
    obtain ⟨rest, ended, spaced⟩ := nextName_over first spaced
    exact ⟨rest, spaced, by simp [Json.members, ended, bind, Except.bind, pure, Except.pure]⟩
  | @field field value used members before between after here fills ih =>
    obtain ⟨fuel, rfl⟩ := Nat.exists_eq_add_one.mpr (Nat.zero_lt_of_lt enough)
    obtain ⟨name, item, found, colon, spaced⟩ := spaced.member
    obtain ⟨behind, spaced, one⟩ := here _ _ (joined_ends _ .curly more) spaced
    obtain ⟨another, once⟩ := List.nodup_cons.mp once
    have stillUnseen : ∀ other ∈ used, other.name ∉ field.name :: seen := fun other member again =>
      (List.mem_cons.mp again).elim (fun same => another (same ▸ List.mem_map_of_mem member))
        (unseen other (List.mem_cons_of_mem field member))
    obtain ⟨rest, spaced, all⟩ := ih (fun other member => listed other (List.mem_cons_of_mem field member)) once
      stillUnseen (Nat.lt_of_succ_lt_succ enough) spaced
    have new : field.name ∉ seen := unseen field List.mem_cons_self
    exact ⟨rest, spaced, by
      simp [Json.members, found, listed field List.mem_cons_self, new, colon, one, all, bind, Except.bind]⟩

/-- A record is read from any of its fields in any order. -/
theorem record_reads (expected : String) (fills : Fills used members start result)
    (distinct : (fields.map FieldReader.name).Nodup) (known : used ⊆ fields)
    (once : (used.map FieldReader.name).Nodup) :
    Reads (Json.record expected fields start) (.object members) result := by
  intro more text _ spaced
  rw [Value.tokens, Value.memberTokens_eq] at spaced
  obtain ⟨inside, front, enough, spaced⟩ := spaced.inside .curly Value.memberToken_solid
  obtain ⟨rest, spaced, read⟩ := members_read fills (fun field member => find_named distinct (known member)) once
    (fun _ _ => List.not_mem_nil) enough spaced
  exact ⟨rest, spaced, by rw [Json.record, front]; exact read⟩

theorem Fills.noted (fills : Fills used members record result) (found : List String) :
    Fills (used.map FieldReader.noted) members (record, found)
      (result, (used.map FieldReader.name).reverse ++ found) := by
  induction fills generalizing found with
  | nothing record => exact .nothing _
  | @field field value used members before between after here fills ih =>
    rw [List.map_cons, List.map_cons, List.reverse_cons, List.append_assoc]
    have noted : Reads (field.noted.read (before, found)) value (between, field.name :: found) := by
      intro more text ends spaced
      obtain ⟨rest, spaced, read⟩ := here _ _ ends spaced
      exact ⟨rest, spaced, by simp [FieldReader.noted, read, Except.map]⟩
    exact .field noted (ih _)

/-- A record that has to have its fields is read from all of them. -/
theorem wholeRecord_reads (expected : String) (optional : List String) (fills : Fills fields members start result)
    (distinct : (fields.map FieldReader.name).Nodup) :
    Reads (wholeRecord expected fields optional start) (.object members) result := by
  intro more text ends spaced
  have names : (fields.map FieldReader.noted).map FieldReader.name = fields.map FieldReader.name := by
    rw [List.map_map]
    rfl
  obtain ⟨rest, behind, read⟩ := record_reads expected (fills.noted []) (names ▸ distinct) (List.Subset.refl _)
    (names ▸ distinct) _ _ ends spaced
  -- The names were noted from the first field to the last, so the last one is in front.
  have complete : missing? expected fields optional ((fields.map FieldReader.name).reverse ++ []) text = none := by
    obtain ⟨inside, _, (front : trimmed text = '\x7b' :: inside)⟩ := spaced.starts rfl
    have none : fields.find? (fun field => field.name ∉ (fields.map FieldReader.name).reverse ++ [] ++ optional) =
        none := by
      refine List.find?_eq_none.mpr fun field member absent => ?_
      have found : field.name ∈ fields.map FieldReader.name := List.mem_map_of_mem member
      simp [found] at absent
    rw [missing?, front]
    simp only [opening, none, Option.map_none]
  exact ⟨rest, behind, by simp only [wholeRecord, read, complete, bind, Except.bind, pure, Except.pure]⟩

end

/-- A text that consists of one value is read from its tokens. -/
theorem document_reads {α : Type} {read : List Char → Except Fault (Reading α)} {value : Value} {result : α}
    (reads : Reads read value result) {text : String} (spaced : Spaced value.tokens text.toList) :
    document read text = .ok result := by
  obtain ⟨rest, spaced, read⟩ := reads [] text.toList .nothing ((List.append_nil value.tokens).symm ▸ spaced)
  simp [document, read, spaced.ends, bind, Except.bind, pure, Except.pure]

end IsaCensus.Json
