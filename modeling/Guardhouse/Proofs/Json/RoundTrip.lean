import Guardhouse.Json.Record
import Guardhouse.Proofs.Json.Scan

/-!
# What is written can be read

Every value that can be written reads back from its text, whether that is compact
(`Written.read?_compact`) or has each item on a line of its own (`Written.read?_pretty`). Between
the value and both of its texts stand its tokens: a writer only chooses the blanks between them, and
the reader never sees these.
-/

namespace Guardhouse
namespace Json

/-! ### Naturals -/

theorem digitChar_ne_zero : ∀ n < 10, 0 < n → Nat.digitChar n ≠ '0' := by decide

theorem head?_toDigits {n : Nat} (h : 0 < n) : (Nat.toDigits 10 n).head? ≠ some '0' := by
  induction n using Nat.strongRecOn with
  | ind n ih =>
    rcases Nat.lt_or_ge n 10 with hsmall | hlarge
    · rw [Nat.toDigits_of_lt_base hsmall, List.head?_cons]
      intro hzero
      exact digitChar_ne_zero n hsmall h (Option.some_inj.1 hzero)
    · have hdigits := ih (n / 10) (by omega) (by omega)
      rw [Nat.toDigits_of_base_le (by omega) hlarge,
        List.head?_append_of_ne_nil _ Nat.toDigits_ne_nil]
      exact hdigits

theorem isWholePart_toDigits (n : Nat) : Token.isWholePart (Nat.toDigits 10 n) = true := by
  rcases Nat.eq_zero_or_pos n with rfl | hpos
  · decide
  · have hhead := head?_toDigits hpos
    cases hdigits : Nat.toDigits 10 n with
    | nil => exact absurd hdigits Nat.toDigits_ne_nil
    | cons c cs =>
      rw [hdigits] at hhead
      have hc : (c != '0') = true := by simpa using hhead
      unfold Token.isWholePart
      split
      · cases ‹c :: cs = []›
      · rfl
      · next h =>
        cases h
        exact hc

theorem isDigit_toDigits (n : Nat) : ∀ c ∈ Nat.toDigits 10 n, c.isDigit = true :=
  fun _ hc => Nat.isDigit_of_mem_toDigits (by omega) (by omega) hc

theorem isLiteral_toString (n : Nat) : Token.IsLiteral (toString n) := by
  have hlist : (toString n).toList = Nat.toDigits 10 n := Nat.toList_repr
  have hdigit := isDigit_toDigits n
  have hwhole : Decimal.spanDigits (Nat.toDigits 10 n) = (Nat.toDigits 10 n, []) := by
    have htake := Token.takeWhile_append hdigit (fun _ hc => nomatch hc : ∀ c ∈ [].head?, _)
    have hdrop := Token.dropWhile_append hdigit (fun _ hc => nomatch hc : ∀ c ∈ [].head?, _)
    rw [List.append_nil] at htake hdrop
    rw [Decimal.spanDigits, htake, hdrop]
  have hunsigned : Token.isUnsignedNumber (Nat.toDigits 10 n) = true := by
    rw [Token.isUnsignedNumber, hwhole]
    show (Token.isWholePart (Nat.toDigits 10 n) && _) = true
    rw [isWholePart_toDigits, Bool.true_and]
    rfl
  constructor
  · rw [hlist]
    intro c hc
    simp [Token.isNumeric, hdigit c hc]
  · rw [hlist, Token.isNumber]
    · exact hunsigned
    · intro rest hminus
      exact absurd (hdigit '-' (hminus ▸ List.mem_cons_self)) (by decide)

/-- A natural is read as it is written. -/
theorem literalNatural?_toString (n : Nat) : literalNatural? (toString n) = some n := by
  have hlist : (toString n).toList = Nat.toDigits 10 n := Nat.toList_repr
  have hdigits : ((Nat.toDigits 10 n).isEmpty ||
      (Nat.toDigits 10 n).any fun c => !c.isDigit) = false := by
    rw [Bool.or_eq_false_iff, List.any_eq_false]
    refine ⟨by simp [Nat.toDigits_ne_nil], ?_⟩
    intro c hc
    simp [isDigit_toDigits n c hc]
  have hvalue : Decimal.naturalFrom 0 (Nat.toDigits 10 n) = n :=
    Nat.ofDigitChars_eq_foldl.symm.trans Nat.ofDigitChars_ten_toDigits
  rw [literalNatural?, hlist, Decimal.natural?, if_neg (by simp [hdigits]), hvalue]

theorem word?_ofWord (n : UInt64) : (ofWord n).word? = some n := by
  show (literalNatural? (toString n.toNat)).bind _ = some n
  rw [literalNatural?_toString, Option.bind_some, if_pos n.toNat_lt, UInt64.ofNat_toNat]

/-! ### Values and their tokens -/

/-- A value that can be written: its numbers are numbers, and nothing in it is broken. -/
inductive Written : Json → Prop
  | null : Written .null
  | bool (value : Bool) : Written (.bool value)
  | number {literal : String} (h : Token.IsLiteral literal) : Written (.number literal)
  | text (content : String) : Written (.text content)
  | array {items : List Json} (h : ∀ item ∈ items, Written item) : Written (.array items)
  | object {fields : List (String × Json)} (h : ∀ field ∈ fields, Written field.2) :
      Written (.object fields)

theorem written_ofWord (n : UInt64) : Written (.ofWord n) := .number (isLiteral_toString n.toNat)

mutual

/-- The tokens of a value. -/
def tokens : Json → List Token
  | .null => [.word "null"]
  | .bool true => [.word "true"]
  | .bool false => [.word "false"]
  | .number literal => [.number literal]
  | .text content => [.text (some content)]
  | .broken => [.text none]
  | .array items =>
    .openBracket :: ([.comma].intercalate (tokensOfItems items) ++ [.closeBracket])
  | .object fields =>
    .openBrace :: ([.comma].intercalate (tokensOfFields fields) ++ [.closeBrace])

/-- The tokens of each item of an array. -/
def tokensOfItems : List Json → List (List Token)
  | [] => []
  | item :: rest => tokens item :: tokensOfItems rest

/-- The tokens of each field of an object. -/
def tokensOfFields : List (String × Json) → List (List Token)
  | [] => []
  | (name, value) :: rest => (.text (some name) :: .colon :: tokens value) :: tokensOfFields rest

end

/-- The tokens of one field. -/
def fieldTokens (field : String × Json) : List Token :=
  .text (some field.1) :: .colon :: field.2.tokens

theorem tokensOfItems_eq_map (items : List Json) : tokensOfItems items = items.map tokens := by
  induction items with
  | nil => rfl
  | cons item items ih => rw [tokensOfItems, ih, List.map_cons]

theorem tokensOfFields_eq_map (fields : List (String × Json)) :
    tokensOfFields fields = fields.map fieldTokens := by
  induction fields with
  | nil => rfl
  | cons field fields ih =>
    obtain ⟨name, value⟩ := field
    rw [tokensOfFields, ih, List.map_cons]
    rfl

/-! ### Writing -/

section Writing

open Token (Scans)

theorem compactItems_eq_map (items : List Json) : compactItems items = items.map compact := by
  induction items with
  | nil => rfl
  | cons item items ih => rw [compactItems, ih, List.map_cons]

theorem compactFields_eq_map (fields : List (String × Json)) :
    compactFields fields = fields.map fun field => quote field.1 ++ ":" ++ field.2.compact := by
  induction fields with
  | nil => rfl
  | cons field fields ih =>
    obtain ⟨name, value⟩ := field
    rw [compactFields, ih, List.map_cons]

theorem prettyItems_eq_map (level : Nat) (items : List Json) :
    prettyItems level items = items.map (prettyAt level) := by
  induction items with
  | nil => rfl
  | cons item items ih => rw [prettyItems, ih, List.map_cons]

theorem prettyFields_eq_map (level : Nat) (fields : List (String × Json)) :
    prettyFields level fields =
      fields.map fun field => quote field.1 ++ ": " ++ field.2.prettyAt level := by
  induction fields with
  | nil => rfl
  | cons field fields ih =>
    obtain ⟨name, value⟩ := field
    rw [prettyFields, ih, List.map_cons]

/-- A field with blanks after its colon. -/
theorem scans_field {name value : String} (gap : String) {ts : List Token}
    (hgap : ∀ c ∈ gap.toList, Token.isBlank c = true) (h : Scans value.toList ts) :
    Scans (quote name ++ (":" ++ gap) ++ value).toList (.text (some name) :: .colon :: ts) := by
  have hcolon : Scans (':' :: (gap.toList ++ value.toList)) (.colon :: ts) :=
    (h.blanks hgap).mark .colon
  have htext : (quote name ++ (":" ++ gap) ++ value).toList =
      (quote name).toList ++ ':' :: (gap.toList ++ value.toList) := by
    simp only [String.toList_append, List.append_assoc]
    rfl
  rw [htext]
  exact (Scans.quote name).append hcolon (Token.Mark.closed .colon _)

theorem Written.scans_compact {v : Json} (h : v.Written) : Scans v.compact.toList v.tokens := by
  induction h with
  | null => exact Scans.word (.inl rfl)
  | bool value =>
    cases value with
    | true => exact Scans.word (.inr (.inl rfl))
    | false => exact Scans.word (.inr (.inr rfl))
  | number h => exact Scans.literal h
  | text content => exact Scans.quote content
  | @array items _ ih =>
    have hitems : Scans ([','].intercalate (items.map fun item => item.compact.toList))
        ([.comma].intercalate (items.map tokens)) :=
      Scans.intercalate (List.forall_mem_nil _) ih
    rw [compact, tokens, compactItems_eq_map, tokensOfItems_eq_map, String.toList_append,
      String.toList_append, String.toList_intercalate, List.map_map, List.append_assoc]
    exact hitems.enclosed .openBracket .closeBracket
  | @object fields _ ih =>
    have hfields : Scans ([','].intercalate (fields.map fun field =>
          (quote field.1 ++ ":" ++ field.2.compact).toList))
        ([.comma].intercalate (fields.map fieldTokens)) :=
      Scans.intercalate (List.forall_mem_nil _) fun field hfield =>
        scans_field "" (List.all_eq_true.1 rfl) (ih field hfield)
    rw [compact, tokens, compactFields_eq_map, tokensOfFields_eq_map, String.toList_append,
      String.toList_append, String.toList_intercalate, List.map_map, List.append_assoc]
    exact hfields.enclosed .openBrace .closeBrace

theorem toList_newLine (level : Nat) :
    (newLine level).toList = '\n' :: List.replicate (2 * level) ' ' := by
  simp only [newLine, String.toList_append, String.toList_ofList]
  rfl

theorem isBlank_newLine (level : Nat) : ∀ c ∈ (newLine level).toList, Token.isBlank c = true := by
  intro c hc
  rw [toList_newLine] at hc
  rcases List.mem_cons.1 hc with rfl | hindent
  · decide
  · cases List.eq_of_mem_replicate hindent
    decide

theorem closed_newLine (level : Nat) (cs : List Char) :
    Token.Closed ((newLine level).toList ++ cs) := by
  rw [toList_newLine]
  rintro _ ⟨⟩
  decide

/-- Items on lines of their own, between brackets. -/
theorem scans_block {α : Type} {opening closing : String} {o c : Char} {ot ct : Token}
    (hopening : opening.toList = [o]) (hclosing : closing.toList = [c])
    (ho : Token.Mark o ot) (hc : Token.Mark c ct) (level : Nat) {text : α → String}
    {piece : α → List Token} {xs : List α} (h : ∀ x ∈ xs, Scans (text x).toList (piece x)) :
    Scans (block opening closing level (xs.map text)).toList
      (ot :: ([.comma].intercalate (xs.map piece) ++ [ct])) := by
  unfold block
  split
  · next hempty =>
    have hnil : xs = [] := by simpa using hempty
    rw [hnil, String.toList_append, hopening, hclosing]
    exact Scans.nil.enclosed ho hc
  · have hitems := Scans.intercalate (isBlank_newLine (level + 1)) h
    have hlast : Scans ((newLine level).toList ++ [c]) [ct] :=
      (Scans.nil.mark hc).blanks (isBlank_newLine level)
    have hinner := (hitems.append hlast (closed_newLine level _)).blanks (isBlank_newLine (level + 1))
    have htext : (opening ++ newLine (level + 1) ++
          String.intercalate ("," ++ newLine (level + 1)) (xs.map text) ++ newLine level ++
          closing).toList =
        o :: ((newLine (level + 1)).toList ++
          ((',' :: (newLine (level + 1)).toList).intercalate (xs.map fun x => (text x).toList) ++
            ((newLine level).toList ++ [c]))) := by
      simp only [String.toList_append, String.toList_intercalate, hopening, hclosing, List.map_map,
        List.append_assoc]
      rfl
    rw [htext]
    exact hinner.mark ho

theorem Written.scans_prettyAt {v : Json} (h : v.Written) (level : Nat) :
    Scans (v.prettyAt level).toList v.tokens := by
  induction h generalizing level with
  | null => exact Scans.word (.inl rfl)
  | bool value =>
    cases value with
    | true => exact Scans.word (.inr (.inl rfl))
    | false => exact Scans.word (.inr (.inr rfl))
  | number h => exact Scans.literal h
  | text content => exact Scans.quote content
  | @array items _ ih =>
    rw [prettyAt, tokens, prettyItems_eq_map, tokensOfItems_eq_map]
    exact scans_block rfl rfl .openBracket .closeBracket level fun item hitem =>
      ih item hitem (level + 1)
  | @object fields _ ih =>
    rw [prettyAt, tokens, prettyFields_eq_map, tokensOfFields_eq_map]
    exact scans_block rfl rfl .openBrace .closeBrace level fun field hfield =>
      scans_field " " (List.all_eq_true.1 rfl) (ih field hfield (level + 1))

end Writing

/-! ### Reading -/

/-- A value is read from its tokens, whatever follows them. -/
def Reads (v : Json) : Prop :=
  ∀ fuel rest, 2 * v.tokens.length ≤ fuel → value? fuel (v.tokens ++ rest) = some (v, rest)

theorem intercalate_comma (ts us : List Token) (tss : List (List Token)) :
    [Token.comma].intercalate (ts :: us :: tss) =
      ts ++ .comma :: [Token.comma].intercalate (us :: tss) := by
  rw [List.intercalate_cons_cons, List.append_assoc, List.singleton_append]

/-- The first piece comes first. -/
theorem exists_intercalate (ts : List Token) (tss : List (List Token)) :
    ∃ more, [Token.comma].intercalate (ts :: tss) = ts ++ more := by
  cases tss with
  | nil => exact ⟨[], by rw [List.intercalate_singleton, List.append_nil]⟩
  | cons us tss => exact ⟨_, intercalate_comma ts us tss⟩

theorem items?_tokens {items : List Json} (hne : items ≠ []) (h : ∀ item ∈ items, item.Reads)
    {fuel : Nat} (rest : List Token)
    (hfuel : 2 * ([Token.comma].intercalate (items.map tokens)).length < fuel) :
    items? fuel ([.comma].intercalate (items.map tokens) ++ .closeBracket :: rest) =
      some (items, rest) := by
  induction items generalizing fuel with
  | nil => exact absurd rfl hne
  | cons item items ih =>
    obtain ⟨fuel, rfl⟩ : ∃ n, fuel = n + 1 := ⟨fuel - 1, by omega⟩
    have hitem := h item List.mem_cons_self
    have hitems : ∀ item ∈ items, item.Reads := fun item hi => h item (List.mem_cons_of_mem _ hi)
    cases items with
    | nil =>
      rw [List.map_singleton, List.intercalate_singleton] at hfuel ⊢
      rw [items?, hitem fuel _ (by omega)]
      rfl
    | cons next items =>
      rw [List.map_cons, List.map_cons, intercalate_comma, ← List.map_cons] at hfuel ⊢
      rw [List.length_append, List.length_cons] at hfuel
      have hmore := ih (List.cons_ne_nil _ _) hitems (show 2 * _ < fuel by omega)
      rw [List.append_assoc, List.cons_append, items?, hitem fuel _ (by omega)]
      show (items? fuel _).bind _ = _
      rw [hmore]
      rfl

theorem fields?_tokens {fields : List (String × Json)} (hne : fields ≠ [])
    (h : ∀ field ∈ fields, field.2.Reads) {fuel : Nat} (rest : List Token)
    (hfuel : 2 * ([Token.comma].intercalate (fields.map fieldTokens)).length < fuel) :
    fields? fuel ([.comma].intercalate (fields.map fieldTokens) ++ .closeBrace :: rest) =
      some (fields.map fun field => (some field.1, field.2), rest) := by
  induction fields generalizing fuel with
  | nil => exact absurd rfl hne
  | cons field fields ih =>
    obtain ⟨fuel, rfl⟩ : ∃ n, fuel = n + 1 := ⟨fuel - 1, by omega⟩
    have hvalue := h field List.mem_cons_self
    have hfields : ∀ field ∈ fields, field.2.Reads :=
      fun field hf => h field (List.mem_cons_of_mem _ hf)
    have hlength : (fieldTokens field).length = field.2.tokens.length + 2 := rfl
    cases fields with
    | nil =>
      rw [List.map_singleton, List.intercalate_singleton] at hfuel ⊢
      rw [fieldTokens, List.cons_append, List.cons_append, fields?, hvalue fuel _ (by omega)]
      rfl
    | cons next fields =>
      rw [List.map_cons, List.map_cons, intercalate_comma, ← List.map_cons] at hfuel ⊢
      rw [List.length_append, List.length_cons] at hfuel
      have hmore := ih (List.cons_ne_nil _ _) hfields (show 2 * _ < fuel by omega)
      rw [List.append_assoc, List.cons_append, fieldTokens, List.cons_append, List.cons_append,
        fields?, hvalue fuel _ (by omega)]
      show (fields? fuel _).bind _ = _
      rw [hmore]
      rfl

/-- Reading one by one what was written one by one. -/
theorem mapM_map {α β : Type} {read? : β → Option α} {write : α → β} {xs : List α}
    (h : ∀ x ∈ xs, read? (write x) = some x) : (xs.map write).mapM read? = some xs := by
  induction xs with
  | nil => rfl
  | cons x xs ih =>
    have hxs := ih fun x hx => h x (List.mem_cons_of_mem _ hx)
    rw [List.map_cons, List.mapM_cons, h x List.mem_cons_self, hxs]
    rfl

theorem ofFields_some (fields : List (String × Json)) :
    ofFields (fields.map fun field => (some field.1, field.2)) = .object fields := by
  rw [ofFields, mapM_map]
  exact fun _ _ => rfl

/-- No value begins with a closing bracket. -/
theorem exists_tokens (v : Json) : ∃ token ts, v.tokens = token :: ts ∧ token ≠ .closeBracket := by
  cases v with
  | bool value => cases value <;> exact ⟨_, _, rfl, Token.noConfusion⟩
  | _ => exact ⟨_, _, rfl, Token.noConfusion⟩

theorem exists_fuel {v : Json} {fuel : Nat} (h : 2 * v.tokens.length ≤ fuel) :
    ∃ n, fuel = n + 1 := by
  obtain ⟨token, ts, htokens, -⟩ := exists_tokens v
  rw [htokens, List.length_cons] at h
  exact ⟨fuel - 1, by omega⟩

theorem reads_array {items : List Json} (h : ∀ item ∈ items, item.Reads) :
    (Json.array items).Reads := by
  intro fuel rest hfuel
  obtain ⟨fuel, rfl⟩ := exists_fuel hfuel
  rw [tokens, tokensOfItems_eq_map] at hfuel ⊢
  rw [List.length_cons, List.length_append, List.length_singleton] at hfuel
  rw [List.cons_append, List.append_assoc, List.singleton_append]
  cases items with
  | nil => rfl
  | cons item items =>
    have hitems := items?_tokens (List.cons_ne_nil _ _) h rest (show 2 * _ < fuel by omega)
    -- an array is not empty if something else than its closing bracket comes first
    obtain ⟨token, ts, htokens, hne⟩ := exists_tokens item
    obtain ⟨more, hfirst⟩ := exists_intercalate item.tokens (items.map tokens)
    rw [List.map_cons, hfirst, htokens, List.cons_append, List.cons_append] at hitems ⊢
    rw [value?]
    · rw [hitems]
      rfl
    · rintro rest ⟨⟩
      exact hne rfl

theorem reads_object {fields : List (String × Json)} (h : ∀ field ∈ fields, field.2.Reads) :
    (Json.object fields).Reads := by
  intro fuel rest hfuel
  obtain ⟨fuel, rfl⟩ := exists_fuel hfuel
  rw [tokens, tokensOfFields_eq_map] at hfuel ⊢
  rw [List.length_cons, List.length_append, List.length_singleton] at hfuel
  rw [List.cons_append, List.append_assoc, List.singleton_append]
  cases fields with
  | nil => rfl
  | cons field fields =>
    have hfields := fields?_tokens (List.cons_ne_nil _ _) h rest (show 2 * _ < fuel by omega)
    obtain ⟨more, hfirst⟩ := exists_intercalate (fieldTokens field) (fields.map fieldTokens)
    rw [List.map_cons, hfirst, fieldTokens, List.cons_append, List.cons_append] at hfields ⊢
    show (fields? fuel _).bind _ = _
    rw [hfields, ← ofFields_some]
    rfl

theorem Written.reads {v : Json} (h : v.Written) : v.Reads := by
  induction h with
  | array _ ih => exact reads_array ih
  | object _ ih => exact reads_object ih
  | bool value =>
    intro fuel rest hfuel
    obtain ⟨fuel, rfl⟩ := exists_fuel hfuel
    cases value <;> rfl
  | _ =>
    intro fuel rest hfuel
    obtain ⟨fuel, rfl⟩ := exists_fuel hfuel
    rfl

/-- Whoever writes a value as its tokens, with blanks in between, writes it so that it is read. -/
theorem Written.read? {v : Json} (h : v.Written) {s : String}
    (hs : Token.Scans s.toList v.tokens) : Json.read? s = some v := by
  have hvalue := h.reads (2 * v.tokens.length + 2) [] (by omega)
  rw [List.append_nil] at hvalue
  rw [Json.read?, hs.scan?]
  show (value? _ _).bind _ = _
  rw [hvalue]
  rfl

theorem Written.read?_compact {v : Json} (h : v.Written) : Json.read? v.compact = some v :=
  h.read? h.scans_compact

theorem Written.read?_pretty {v : Json} (h : v.Written) : Json.read? v.pretty = some v :=
  h.read? (h.scans_prettyAt 0)

/-! ### Lists -/

theorem listOf?_map {α : Type} {item? : Json → Option α} {toJson : α → Json} {xs : List α}
    (h : ∀ x ∈ xs, item? (toJson x) = some x) :
    listOf? item? (.array (xs.map toJson)) = some xs :=
  mapM_map h

end Json
end Guardhouse
