import Guardhouse.Json.Token
import Guardhouse.Json.Writer
import Mathlib.Data.List.Basic

/-!
# Text and its tokens

What is written between quotes is scanned as the same text, whatever has been escaped
(`Token.scanString?_flatMap`), and a literal or a word as itself, unless something follows that goes
on with it. `Token.Scans` relates a piece of text to its tokens, so that pieces can be put together:
in front of whatever may follow, it adds these tokens.
-/

namespace Guardhouse
namespace Json
namespace Token

/-! ### Strings -/

theorem hexValue?_digitChar : ∀ n < 16, hexValue? (Nat.digitChar n) = some n := by decide

/-- Two digits are enough for a character below the blank. -/
theorem hexValue4?_hexDigit {n : Nat} (h : n < 256) :
    hexValue4? '0' '0' (hexDigit (n / 16)) (hexDigit n) = some n := by
  have hzero : hexValue? '0' = some 0 := by decide
  have hhigh : hexValue? (hexDigit (n / 16)) = some (n / 16 % 16) :=
    hexValue?_digitChar _ (Nat.mod_lt _ (by omega))
  have hlow : hexValue? (hexDigit n) = some (n % 16) :=
    hexValue?_digitChar _ (Nat.mod_lt _ (by omega))
  rw [hexValue4?, hzero, hhigh, hlow]
  show some (((0 * 16 + 0) * 16 + n / 16 % 16) * 16 + n % 16) = some n
  congr 1
  omega

theorem scanString?_escape (c : Char) (rest : List Char) :
    scanString? (escape c ++ rest) =
      (scanString? rest).map fun scanned => (c.toNat :: scanned.1, scanned.2) := by
  unfold escape
  split
  case h_8 hquote hbackslash _ _ _ _ _ =>
    split
    · next hcontrol =>
      simp only [List.cons_append, List.nil_append, scanString?,
        hexValue4?_hexDigit (Nat.lt_trans hcontrol (by omega))]
      cases scanString? rest <;> rfl
    · next hplain =>
      have hkept : ¬((decide (c.toNat < 0x20) || c == '\\') = true) := by
        simpa [hplain] using hbackslash
      rw [List.singleton_append, scanString?, if_neg hkept]
      · cases scanString? rest <;> rfl
      all_goals simp_all
  all_goals
    cases hrest : scanString? rest <;> simp [scanString?, escaped?, hrest]

theorem scanString?_flatMap (cs rest : List Char) :
    scanString? (cs.flatMap escape ++ '"' :: rest) = some (cs.map Char.toNat, rest) := by
  induction cs with
  | nil => rfl
  | cons c cs ih =>
    rw [List.flatMap_cons, List.append_assoc, scanString?_escape, ih]
    rfl

/-- No character is half of a surrogate pair. -/
theorem characters?_toNat (cs : List Char) : characters? (cs.map Char.toNat) = some cs := by
  induction cs with
  | nil => rfl
  | cons c cs ih =>
    have hvalid : c.toNat < 0xD800 ∨ 0xDFFF < c.toNat ∧ c.toNat < 0x110000 := c.valid
    have hhigh : ¬isHighHalf c.toNat = true := by
      simp only [isHighHalf, Bool.and_eq_true, decide_eq_true_eq]
      omega
    have hlow : ¬isLowHalf c.toNat = true := by
      simp only [isLowHalf, Bool.and_eq_true, decide_eq_true_eq]
      omega
    rw [List.map_cons, characters?.eq_def]
    dsimp only
    rw [if_neg hhigh, if_neg hlow, ih, Option.map_some, Char.ofNat_toNat]

theorem next?_quote (cs rest : List Char) :
    next? '"' (cs.flatMap escape ++ '"' :: rest) =
      some (.text (some (String.ofList cs)), rest) := by
  show (scanString? _).map _ = _
  rw [scanString?_flatMap, Option.map_some]
  dsimp only
  rw [characters?_toNat, Option.map_some]

/-! ### Runs of characters -/

/-- A text does not go on with a number or a word. -/
def Closed (cs : List Char) : Prop := ∀ c ∈ cs.head?, isNumeric c = false ∧ c.isAlpha = false

theorem closed_nil : Closed [] := fun _ h => nomatch h

/-- The characters that are tokens by themselves. -/
inductive Mark : Char → Token → Prop
  | openBrace : Mark '{' .openBrace
  | closeBrace : Mark '}' .closeBrace
  | openBracket : Mark '[' .openBracket
  | closeBracket : Mark ']' .closeBracket
  | comma : Mark ',' .comma
  | colon : Mark ':' .colon

namespace Mark

variable {c : Char} {token : Token}

theorem isBlank (h : Mark c token) : isBlank c = false := by cases h <;> decide

theorem next? (h : Mark c token) (rest : List Char) : next? c rest = some (token, rest) := by
  cases h <;> rfl

theorem closed (h : Mark c token) (cs : List Char) : Closed (c :: cs) := by
  rintro _ ⟨⟩
  cases h <;> decide

end Mark

theorem Closed.append {cs rest : List Char} (hcs : Closed cs) (hrest : Closed rest) :
    Closed (cs ++ rest) := by
  cases cs with
  | nil => exact hrest
  | cons c cs => exact hcs

section Runs

variable {p : Char → Bool} {cs rest : List Char}

theorem takeWhile_append (hcs : ∀ c ∈ cs, p c = true) (hrest : ∀ c ∈ rest.head?, p c = false) :
    (cs ++ rest).takeWhile p = cs := by
  rw [List.takeWhile_append_of_pos hcs]
  cases rest with
  | nil => exact List.append_nil cs
  | cons c rest =>
    rw [List.takeWhile_cons_of_neg (by simp [hrest c rfl]), List.append_nil]

theorem dropWhile_append (hcs : ∀ c ∈ cs, p c = true) (hrest : ∀ c ∈ rest.head?, p c = false) :
    (cs ++ rest).dropWhile p = rest := by
  rw [List.dropWhile_append_of_pos hcs]
  cases rest with
  | nil => rfl
  | cons c rest => exact List.dropWhile_cons_of_neg (by simp [hrest c rfl])

end Runs

/-- A text that is scanned as one number. -/
def IsLiteral (literal : String) : Prop :=
  (∀ c ∈ literal.toList, isNumeric c = true) ∧ isNumber literal.toList = true

theorem next?_literal {literal : String} {c : Char} {cs rest : List Char}
    (h : IsLiteral literal) (hcs : literal.toList = c :: cs) (hrest : Closed rest) :
    next? c (cs ++ rest) = some (.number literal, rest) := by
  obtain ⟨hnumeric, hnumber⟩ := h
  rw [hcs] at hnumeric hnumber
  have htake := takeWhile_append hnumeric fun c hc => (hrest c hc).1
  have hdrop := dropWhile_append hnumeric fun c hc => (hrest c hc).1
  have hc : isNumeric c = true := hnumeric c List.mem_cons_self
  unfold next?
  split
  case h_8 =>
    rw [if_pos hc, ← List.cons_append, htake, hdrop, if_pos hnumber, ← hcs, String.ofList_toList]
  all_goals exact absurd hc (by decide)

/-- The words of values. -/
def IsWord (name : String) : Prop := name = "null" ∨ name = "true" ∨ name = "false"

theorem next?_word {name : String} {c : Char} {cs rest : List Char} (h : IsWord name)
    (hcs : name.toList = c :: cs) (hrest : Closed rest) :
    next? c (cs ++ rest) = some (.word name, rest) := by
  have hname : (name == "null" || name == "true" || name == "false") = true := by
    simpa [IsWord, or_assoc] using h
  have halpha : name.toList.all Char.isAlpha = true := by
    rcases h with rfl | rfl | rfl <;> rfl
  have hnumeric : isNumeric c = false := by
    rcases h with rfl | rfl | rfl <;> cases hcs <;> decide
  rw [hcs, List.all_eq_true] at halpha
  have htake := takeWhile_append halpha fun c hc => (hrest c hc).2
  have hdrop := dropWhile_append halpha fun c hc => (hrest c hc).2
  have hc : c.isAlpha = true := halpha c List.mem_cons_self
  unfold next?
  split
  case h_8 =>
    rw [if_neg (by simp [hnumeric])]
    dsimp only
    rw [← List.cons_append, htake, hdrop, ← hcs, String.ofList_toList, if_pos hname]
  all_goals exact absurd hc (by decide)

/-! ### Pieces of text -/

theorem scanFuel?_mono {fuel fuel' : Nat} {cs : List Char} {tokens : List Token}
    (h : scanFuel? fuel cs = some tokens) (hle : fuel ≤ fuel') :
    scanFuel? fuel' cs = some tokens := by
  induction fuel generalizing fuel' cs tokens with
  | zero =>
    cases cs with
    | nil => cases fuel' <;> exact h
    | cons c rest => cases h
  | succ fuel ih =>
    cases cs with
    | nil => cases fuel' <;> exact h
    | cons c rest =>
      obtain ⟨fuel', rfl⟩ : ∃ n, fuel' = n + 1 := ⟨fuel' - 1, by omega⟩
      have hle : fuel ≤ fuel' := by omega
      rw [scanFuel?] at h ⊢
      split
      · next hblank =>
        rw [if_pos hblank] at h
        exact ih h hle
      · next hblank =>
        rw [if_neg hblank] at h
        obtain ⟨⟨token, rest⟩, hnext, h⟩ := Option.bind_eq_some_iff.1 h
        obtain ⟨more, hmore, h⟩ := Option.bind_eq_some_iff.1 h
        exact Option.bind_eq_some_iff.2
          ⟨(token, rest), hnext, Option.bind_eq_some_iff.2 ⟨more, ih hmore hle, h⟩⟩

/-- A piece of text adds some tokens to those of what follows. -/
def Scans (cs : List Char) (tokens : List Token) : Prop :=
  ∀ ⦃rest more fuel⦄, Closed rest → scanFuel? fuel rest = some more →
    scanFuel? (cs.length + fuel) (cs ++ rest) = some (tokens ++ more)

namespace Scans

variable {c : Char} {cs cs' : List Char} {token : Token} {tokens tokens' : List Token}

theorem nil : Scans [] [] := by
  intro rest more fuel _ hmore
  rw [List.length_nil, Nat.zero_add]
  exact hmore

theorem append (h : Scans cs tokens) (h' : Scans cs' tokens') (hclosed : Closed cs') :
    Scans (cs ++ cs') (tokens ++ tokens') := by
  intro rest more fuel hrest hmore
  rw [List.length_append, Nat.add_assoc, List.append_assoc, List.append_assoc]
  exact h (hclosed.append hrest) (h' hrest hmore)

/-- A blank adds no token. -/
theorem blank (hc : isBlank c = true) (h : Scans cs tokens) : Scans (c :: cs) tokens := by
  intro rest more fuel hrest hmore
  rw [List.length_cons, Nat.add_right_comm, List.cons_append, scanFuel?, if_pos hc]
  exact h hrest hmore

theorem blanks {gap : List Char} (hgap : ∀ c ∈ gap, isBlank c = true) (h : Scans cs tokens) :
    Scans (gap ++ cs) tokens := by
  induction gap with
  | nil => exact h
  | cons c gap ih =>
    have hrest := ih fun c hc => hgap c (List.mem_cons_of_mem _ hc)
    exact hrest.blank (hgap c List.mem_cons_self)

theorem scanFuel?_of_next {rest rest' : List Char} {more : List Token} {fuel : Nat}
    (hc : isBlank c = false) (hnext : next? c rest = some (token, rest'))
    (hmore : scanFuel? fuel rest' = some more) :
    scanFuel? (fuel + 1) (c :: rest) = some (token :: more) := by
  rw [scanFuel?, if_neg (by simp [hc]), hnext]
  show (scanFuel? fuel rest').bind _ = _
  rw [hmore]
  rfl

/-- A text is scanned as one token, unless something follows that goes on with it. -/
theorem of_next (hc : isBlank c = false)
    (hnext : ∀ rest, Closed rest → next? c (cs ++ rest) = some (token, rest)) :
    Scans (c :: cs) [token] := by
  intro rest more fuel hrest hmore
  rw [List.length_cons, Nat.add_right_comm]
  exact scanFuel?_of_next hc (hnext rest hrest) (scanFuel?_mono hmore (Nat.le_add_left _ _))

theorem mark (hc : Mark c token) (h : Scans cs tokens) : Scans (c :: cs) (token :: tokens) := by
  intro rest more fuel hrest hmore
  rw [List.length_cons, Nat.add_right_comm]
  exact scanFuel?_of_next hc.isBlank (hc.next? _) (h hrest hmore)

theorem enclosed {c' : Char} {token' : Token} (hc : Mark c token) (hc' : Mark c' token')
    (h : Scans cs tokens) : Scans (c :: (cs ++ [c'])) (token :: (tokens ++ [token'])) :=
  (h.append (nil.mark hc') (hc'.closed [])).mark hc

theorem quote (s : String) : Scans (quote s).toList [.text (some s)] := by
  have hquote : (Json.quote s).toList = '"' :: (s.toList.flatMap escape ++ ['"']) :=
    String.toList_ofList
  rw [hquote]
  apply of_next (by decide)
  intro rest _
  rw [List.append_assoc, List.singleton_append, next?_quote, String.ofList_toList]

theorem literal {literal : String} (h : IsLiteral literal) :
    Scans literal.toList [.number literal] := by
  cases hcs : literal.toList with
  | nil => exact absurd h.2 (by rw [hcs]; decide)
  | cons c cs =>
    have hc : isNumeric c = true := h.1 c (hcs ▸ List.mem_cons_self)
    refine of_next ?_ fun rest hrest => next?_literal h hcs hrest
    rw [Bool.eq_false_iff]
    intro hblank
    simp only [isBlank, Bool.or_eq_true, beq_iff_eq] at hblank
    rcases hblank with ((rfl | rfl) | rfl) | rfl <;> exact absurd hc (by decide)

theorem word {name : String} (h : IsWord name) : Scans name.toList [.word name] := by
  cases hcs : name.toList with
  | nil => rcases h with rfl | rfl | rfl <;> cases hcs
  | cons c cs =>
    refine of_next ?_ fun rest hrest => next?_word h hcs hrest
    rcases h with rfl | rfl | rfl <;> cases hcs <;> decide

/-- Pieces with commas between them, perhaps with blanks after the commas. -/
theorem intercalate {α : Type} {text : α → List Char} {piece : α → List Token} {gap : List Char}
    (hgap : ∀ c ∈ gap, isBlank c = true) {xs : List α}
    (h : ∀ x ∈ xs, Scans (text x) (piece x)) :
    Scans ((',' :: gap).intercalate (xs.map text)) ([.comma].intercalate (xs.map piece)) := by
  induction xs with
  | nil => exact nil
  | cons x xs ih =>
    have hx := h x List.mem_cons_self
    have hxs := ih fun x hx => h x (List.mem_cons_of_mem _ hx)
    cases xs with
    | nil =>
      rw [List.map_singleton, List.map_singleton, List.intercalate_singleton,
        List.intercalate_singleton]
      exact hx
    | cons y xs =>
      rw [List.map_cons, List.map_cons, List.map_cons, List.map_cons, List.intercalate_cons_cons,
        List.intercalate_cons_cons, List.append_assoc, List.append_assoc, List.cons_append]
      exact hx.append ((hxs.blanks hgap).mark .comma) (Mark.closed .comma _)

theorem scan? {s : String} (h : Scans s.toList tokens) : scan? s = some tokens := by
  have hall : scanFuel? (s.toList.length + 0) (s.toList ++ []) = some (tokens ++ []) :=
    h closed_nil rfl
  rw [Nat.add_zero, List.append_nil, List.append_nil] at hall
  exact hall

end Scans
end Token
end Json
end Guardhouse
