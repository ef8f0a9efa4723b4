import CqlClient.Proofs.Format.Condition

/-!
# Legible literals

The literal of a value without floats and objects shows the value. `readLiteral` takes a literal from
the front of a text: a text in quotes, an array in parentheses, or a word. By `literal_legible` it
takes what was written, and no more, if a blank, a comma, a closing parenthesis or nothing follows.
-/

namespace CqlClient

open Writing

inductive Json.IsLegible : Json → Prop where
  | null : IsLegible .null
  | bool (b : Bool) : IsLegible (.bool b)
  | int (n : Int) : IsLegible (.int n)
  | str (s : String) : IsLegible (.str s)
  | arr (items : List Json) (each : ∀ v ∈ items, IsLegible v) : IsLegible (.arr items)

/-! ## Reading -/

/-- The characters that may follow a literal. -/
def literalEnds : List Char := [' ', ',', ')']

/-- Reads the rest of a text in quotes; in `closing` it has met a quote that ends the text unless
another one follows. -/
def readQuoted : (closing : Bool) → List Char → Option (List Char × List Char)
  | false, [] => none
  | true, [] => some ([], [])
  | false, c :: rest =>
    if c = '\'' then readQuoted true rest
    else (readQuoted false rest).map fun (content, rest) => (c :: content, rest)
  | true, c :: rest =>
    if c = '\'' then (readQuoted false rest).map fun (content, rest) => (c :: content, rest)
    else some ([], c :: rest)

/-- The value of a word, if it is one of a literal. -/
def wordValue? (word : List Char) : Option Json :=
  match Formatter.readWord word with
  | some (.literal v) => some v
  | _ => none

/-- Reads a word and what it stands for. -/
def readWordValue (cs : List Char) : Option (Json × List Char) :=
  (wordValue? (cs.takeWhile (· ∉ literalEnds))).map fun v => (v, cs.dropWhile (· ∉ literalEnds))

mutual

/-- Reads a literal; every level of nesting takes two units of fuel. -/
def readValue : Nat → List Char → Option (Json × List Char)
  | 0, _ => none
  | fuel + 1, cs =>
    match cs with
    | '\'' :: rest => (readQuoted false rest).map fun (content, rest) =>
      (.str (String.ofList content), rest)
    | '(' :: ')' :: rest => some (.arr [], rest)
    | '(' :: rest => (readItems fuel rest).map fun (items, rest) => (.arr items, rest)
    | cs => readWordValue cs

def readItems : Nat → List Char → Option (List Json × List Char)
  | 0, _ => none
  | fuel + 1, cs =>
    match readValue fuel cs with
    | some (v, ')' :: rest) => some ([v], rest)
    | some (v, ',' :: ' ' :: rest) =>
      (readItems fuel rest).map fun (items, rest) => (v :: items, rest)
    | _ => none

end

def readLiteral (cs : List Char) : Option (Json × List Char) := readValue (2 * cs.length) cs

/-! ## Words and texts -/

theorem readQuoted_closing {rest : List Char} (ends : StartsIn literalEnds rest) :
    readQuoted true rest = some ([], rest) := by
  cases rest with
  | nil => rfl
  | cons c rest =>
    have other : c ≠ '\'' := by
      rintro rfl
      revert ends
      simp [StartsIn, literalEnds]
    rw [readQuoted, if_neg other]

theorem readQuoted_doubled (content : List Char) {rest : List Char}
    (ends : StartsIn literalEnds rest) :
    readQuoted false (doubled '\'' content ++ '\'' :: rest) = some (content, rest) := by
  induction content with
  | nil => exact readQuoted_closing ends
  | cons c content ih =>
    by_cases quote : c = '\''
    · have twice : doubled '\'' (c :: content) = '\'' :: '\'' :: doubled '\'' content := by
        simp [doubled, quote]
      rw [twice, List.cons_append, List.cons_append, readQuoted, if_pos rfl, readQuoted, if_pos rfl,
        ih, quote]
      rfl
    · have once : doubled '\'' (c :: content) = c :: doubled '\'' content := by
        simp [doubled, quote]
      rw [once, List.cons_append, readQuoted, if_neg quote, ih]
      rfl

/-- A word is no text and no array, and it ends where a literal may end. -/
def IsLiteralWord (word : List Char) : Prop := word ≠ [] ∧ ∀ c ∈ word, c ∉ '\'' :: '(' :: literalEnds

theorem readWordValue_append {word rest : List Char} (inside : ∀ c ∈ word, c ∉ literalEnds)
    (ends : StartsIn literalEnds rest) :
    readWordValue (word ++ rest) = (wordValue? word).map fun v => (v, rest) := by
  have inside' : ∀ c ∈ word, decide (c ∉ literalEnds) = true := by simpa using inside
  have stops : rest.takeWhile (· ∉ literalEnds) = [] ∧ rest.dropWhile (· ∉ literalEnds) = rest := by
    cases rest with
    | nil => exact ⟨rfl, rfl⟩
    | cons c rest =>
      have stop : ¬ decide (c ∉ literalEnds) = true := by simpa [StartsIn] using ends
      exact ⟨List.takeWhile_cons_of_neg stop, List.dropWhile_cons_of_neg stop⟩
  rw [readWordValue, List.takeWhile_append_of_pos inside', List.dropWhile_append_of_pos inside',
    stops.1, stops.2, List.append_nil]

theorem readValue_word {word rest : List Char} (h : IsLiteralWord word)
    (ends : StartsIn literalEnds rest) (fuel : Nat) :
    readValue (fuel + 1) (word ++ rest) = (wordValue? word).map fun v => (v, rest) := by
  have inside (c : Char) (member : c ∈ word) : c ∉ literalEnds := fun stop =>
    h.2 c member (List.mem_cons_of_mem _ (List.mem_cons_of_mem _ stop))
  rw [← readWordValue_append inside ends]
  obtain ⟨c, word, rfl⟩ := List.exists_cons_of_ne_nil h.1
  have first := h.2 c List.mem_cons_self
  simp only [List.mem_cons, not_or] at first
  simp [readValue, first]

theorem isLiteralWord_intChars (n : Int) : IsLiteralWord (Text.intChars n) := by
  have other : ∀ c ∈ '\'' :: '(' :: literalEnds, ¬ IsNumeric c := by simp [literalEnds, IsNumeric]
  exact ⟨intChars_ne_nil n, fun c member special =>
    other c special (isNumeric_of_mem_intChars member)⟩

/-! ## Values -/

namespace Json

/-- With so much fuel the literal of the value is read, up to its end. -/
def IsRead (v : Json) : Prop :=
  ∀ fuel rest, 2 * (literalChars v).length ≤ fuel → StartsIn literalEnds rest →
    readValue fuel (literalChars v ++ rest) = some (v, rest)

variable {v : Json}

theorem isRead_of_word (word : IsLiteralWord (literalChars v))
    (value : wordValue? (literalChars v) = some v) : v.IsRead := by
  intro fuel rest enough ends
  have some_char := List.length_pos_of_ne_nil word.1
  obtain ⟨fuel, rfl⟩ : ∃ n, fuel = n + 1 := ⟨fuel - 1, by omega⟩
  rw [readValue_word word ends, value]
  rfl

theorem isRead_str (s : String) : (str s).IsRead := by
  intro fuel rest enough ends
  have written : literalChars (.str s) ++ rest =
      '\'' :: (doubled '\'' s.toList ++ '\'' :: rest) := by
    simp [literalChars, quoteText, doubled]
  have some_char : 0 < (literalChars (.str s)).length := by simp [literalChars, quoteText]
  obtain ⟨fuel, rfl⟩ : ∃ n, fuel = n + 1 := ⟨fuel - 1, by omega⟩
  rw [written, readValue, readQuoted_doubled _ ends]
  simp

/-- No literal starts as an array ends. -/
theorem IsLegible.exists_first (h : v.IsLegible) : ∃ c cs, literalChars v = c :: cs ∧ c ≠ ')' := by
  cases h with
  | null => exact ⟨_, _, rfl, by decide⟩
  | bool b => cases b <;> exact ⟨_, _, rfl, by decide⟩
  | int n =>
    obtain ⟨filled, inside⟩ := isLiteralWord_intChars n
    obtain ⟨c, cs, chars⟩ := List.exists_cons_of_ne_nil filled
    refine ⟨c, cs, chars, ?_⟩
    rintro rfl
    exact inside ')' (chars ▸ List.mem_cons_self) (by decide)
  | str s => exact ⟨_, _, rfl, by decide⟩
  | arr items each => exact ⟨_, _, rfl, by decide⟩

theorem readItems_literalItems {items : List Json} (filled : items ≠ [])
    (each : ∀ v ∈ items, v.IsRead) (rest : List Char) (fuel : Nat)
    (enough : 2 * (literalItems items).length < fuel) :
    readItems fuel (literalItems items ++ ')' :: rest) = some (items, rest) := by
  induction items generalizing fuel with
  | nil => exact absurd rfl filled
  | cons v items ih =>
    obtain ⟨first, others⟩ := List.forall_mem_cons.1 each
    obtain ⟨fuel, rfl⟩ : ∃ n, fuel = n + 1 := ⟨fuel - 1, by omega⟩
    cases items with
    | nil =>
      have closed : StartsIn literalEnds (')' :: rest) := by simp [StartsIn, literalEnds]
      rw [literalItems] at enough ⊢
      rw [readItems, first fuel _ (by omega) closed]
      rfl
    | cons w items =>
      have comma (more : List Char) : StartsIn literalEnds (',' :: more) := by
        simp [StartsIn, literalEnds]
      simp only [literalItems, List.length_append, List.length_cons] at enough
      rw [literalItems, List.append_assoc, List.cons_append, List.cons_append, readItems,
        first fuel _ (by omega) (comma _)]
      simp only [ih (by simp) others fuel (by omega), Option.map_some]

theorem isRead_arr {items : List Json} (legible : ∀ v ∈ items, v.IsLegible)
    (each : ∀ v ∈ items, v.IsRead) : (arr items).IsRead := by
  intro fuel rest enough ends
  have written : literalChars (.arr items) ++ rest = '(' :: (literalItems items ++ ')' :: rest) := by
    simp [literalChars]
  have length : (literalChars (.arr items)).length = (literalItems items).length + 2 := by
    simp [literalChars]
  obtain ⟨fuel, rfl⟩ : ∃ n, fuel = n + 1 := ⟨fuel - 1, by omega⟩
  rw [written]
  cases items with
  | nil => rfl
  | cons v items =>
    have read := readItems_literalItems (by simp) each rest fuel (by omega)
    obtain ⟨c, cs, chars, opened⟩ := (legible v List.mem_cons_self).exists_first
    obtain ⟨more, items_eq⟩ : ∃ more, literalItems (v :: items) = c :: more := by
      cases items with
      | nil => exact ⟨cs, chars⟩
      | cons w items => exact ⟨_, by rw [literalItems, chars, List.cons_append]⟩
    rw [items_eq, List.cons_append] at read ⊢
    simp [readValue, opened, read]

theorem IsLegible.isRead (h : v.IsLegible) : v.IsRead := by
  induction h with
  | null => exact isRead_of_word (by simp [IsLiteralWord, literalChars, literalEnds]) rfl
  | bool b => cases b <;> exact isRead_of_word (by simp [IsLiteralWord, literalChars, literalEnds]) rfl
  | int n =>
    refine isRead_of_word (isLiteralWord_intChars n) ?_
    rw [wordValue?, literalChars, Formatter.readWord_intChars]
  | str s => exact isRead_str s
  | arr items each ih => exact isRead_arr each ih

end Json

/-- A legible value is written, and it is read back from any text in which its literal comes first
and ends. So two of them are never written the same. -/
theorem literal_legible {v : Json} (h : v.IsLegible) (f : Formatter) :
    f.formatExpr (.literal v) = .ok (literal v) ∧
    (∀ rest, StartsIn literalEnds rest →
      readLiteral ((literal v).toList ++ rest) = some (v, rest)) ∧
    ∀ w : Json, w.IsLegible → literal v = literal w → v = w := by
  have read {v : Json} (h : v.IsLegible) {rest : List Char} (ends : StartsIn literalEnds rest) :
      readLiteral ((literal v).toList ++ rest) = some (v, rest) := by
    rw [readLiteral, literal, String.toList_ofList]
    exact h.isRead _ _ (by rw [List.length_append]; omega) ends
  refine ⟨rfl, fun rest => read h, fun w hw same => ?_⟩
  have ends : StartsIn literalEnds [] := trivial
  have left := read h ends
  rw [same, read hw ends] at left
  exact (congrArg Prod.fst (Option.some.inj left)).symm

theorem nested_literal_legible :
    let v : Json := .arr [.str "a', (", .arr [], .arr [.null, .int (-7)], .str ""]
    v.IsLegible ∧ readLiteral ((literal v).toList ++ ") AND".toList) = some (v, ") AND".toList) := by
  intro v
  have legible : v.IsLegible := .arr _ (by
    simp only [List.forall_mem_cons]
    exact ⟨.str _, .arr _ nofun, .arr _ (by simp [Json.IsLegible.null, Json.IsLegible.int]), .str _,
      nofun⟩)
  have ends : StartsIn literalEnds ") AND".toList := by simp [StartsIn, literalEnds]
  exact ⟨legible, (literal_legible legible .neutral).2.1 _ ends⟩

end CqlClient
