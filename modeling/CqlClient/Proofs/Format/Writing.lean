import CqlClient.Proofs.Format.Lexemes

/-!
# Ways of writing

A way of writing values down is readable if a text that begins with a value determines the value and
what is left, as long as what comes after a value is what may come after it. Lists and optional
clauses of a readable kind are readable again, and so are its values one after another.
-/

namespace CqlClient

/-- How values are written, which values are, and what may come after them. -/
structure Writing (α β : Type) where
  write : α → List β
  covers : α → Prop
  follows : List β → Prop

namespace Writing

variable {α β γ : Type} {W : Writing α β} {separator : List β}

def Reads (W : Writing α β) (a : α) : Prop :=
  ∀ ⦃b r s⦄, W.covers b → W.follows r → W.follows s → W.write a ++ r = W.write b ++ s →
    a = b ∧ r = s

def Readable (W : Writing α β) : Prop := ∀ a, W.covers a → W.Reads a

def Begins (W : Writing α β) (r : List β) : Prop := ∃ a s, W.covers a ∧ r = W.write a ++ s

theorem not_prefix_append {xs ys : List β} (n : Nat)
    (h : n ≤ xs.length ∧ n ≤ ys.length ∧ xs.take n ≠ ys.take n) (rest : List β) :
    ¬ xs <+: ys ++ rest := by
  rintro ⟨later, eq⟩
  have heads := congrArg (List.take n) eq
  rw [List.take_append_of_le_length h.1, List.take_append_of_le_length h.2.1] at heads
  exact h.2.2 heads

/-- The text is over, or goes on with one of these. -/
def StartsIn (ends : List β) : List β → Prop
  | [] => True
  | x :: _ => x ∈ ends

theorem StartsIn.mono {ends ends' r : List β} (sub : ∀ x ∈ ends, x ∈ ends') (h : StartsIn ends r) :
    StartsIn ends' r := by
  cases r with
  | nil => trivial
  | cons x r => exact sub x h

/-- Two runs that break off at the first of some ends are the same if the whole texts are. -/
theorem append_eq_of_run {ends xs ys r s : List β} (hx : ∀ x ∈ xs, x ∉ ends)
    (hy : ∀ y ∈ ys, y ∉ ends) (hr : StartsIn ends r) (hs : StartsIn ends s)
    (eq : xs ++ r = ys ++ s) : xs = ys ∧ r = s := by
  induction xs generalizing ys with
  | nil =>
    cases ys with
    | nil => exact ⟨rfl, eq⟩
    | cons y ys =>
      obtain rfl : r = y :: (ys ++ s) := eq
      exact absurd hr (hy y List.mem_cons_self)
  | cons x xs ih =>
    cases ys with
    | nil =>
      obtain rfl : x :: (xs ++ r) = s := eq
      exact absurd hs (hx x List.mem_cons_self)
    | cons y ys =>
      obtain ⟨rfl, rest⟩ := List.cons.inj eq
      obtain ⟨rfl, same⟩ := ih (fun x member => hx x (List.mem_cons_of_mem _ member))
        (fun y member => hy y (List.mem_cons_of_mem _ member)) rest
      exact ⟨rfl, same⟩

/-! ## Lists -/

def listed (W : Writing α β) (separator : List β) : Writing (List α) β where
  write xs := separator.intercalate (xs.map W.write)
  covers xs := ∀ x ∈ xs, W.covers x
  follows r := W.follows r ∧ ¬ separator <+: r ∧ ¬ W.Begins r

/-- The items of a list after the first one. -/
def further (W : Writing α β) (separator : List β) (xs : List α) : List β :=
  xs.flatMap fun x => separator ++ W.write x

theorem further_cons (x : α) (xs : List α) (r : List β) :
    W.further separator (x :: xs) ++ r =
      separator ++ (W.write x ++ (W.further separator xs ++ r)) := by
  simp only [further, List.flatMap_cons, List.append_assoc]

theorem listed_cons (x : α) (xs : List α) (r : List β) :
    (W.listed separator).write (x :: xs) ++ r = W.write x ++ (W.further separator xs ++ r) := by
  induction xs generalizing x with
  | nil => simp [listed, further]
  | cons y xs ih =>
    have rest := ih y
    simp only [listed, List.map_cons] at rest ⊢
    rw [List.intercalate_cons_cons, List.append_assoc, List.append_assoc, rest, further_cons]

theorem follows_further (more : ∀ r, W.follows (separator ++ r)) (xs : List α) {r : List β}
    (h : W.follows r) : W.follows (W.further separator xs ++ r) := by
  cases xs with
  | nil => exact h
  | cons x xs =>
    rw [further_cons]
    exact more _

theorem reads_further (more : ∀ r, W.follows (separator ++ r)) {xs ys : List α} {r s : List β}
    (each : ∀ x ∈ xs, W.Reads x) (covered : ∀ y ∈ ys, W.covers y) (hr : W.follows r)
    (hs : W.follows s) (ends : ¬ separator <+: r) (ends' : ¬ separator <+: s)
    (eq : W.further separator xs ++ r = W.further separator ys ++ s) : xs = ys ∧ r = s := by
  induction xs generalizing ys with
  | nil =>
    cases ys with
    | nil => exact ⟨rfl, eq⟩
    | cons y ys =>
      rw [further_cons] at eq
      exact absurd ⟨_, eq.symm⟩ ends
  | cons x xs ih =>
    cases ys with
    | nil =>
      rw [further_cons] at eq
      exact absurd ⟨_, eq⟩ ends'
    | cons y ys =>
      obtain ⟨first, rest⟩ := List.forall_mem_cons.1 each
      obtain ⟨covers, later⟩ := List.forall_mem_cons.1 covered
      rw [further_cons, further_cons] at eq
      obtain ⟨rfl, left⟩ := first covers (follows_further more xs hr) (follows_further more ys hs)
        (List.append_cancel_left eq)
      obtain ⟨rfl, same⟩ := ih rest later left
      exact ⟨rfl, same⟩

theorem reads_listed (more : ∀ r, W.follows (separator ++ r)) {xs : List α}
    (covered : ∀ x ∈ xs, W.covers x) (each : ∀ x ∈ xs, W.Reads x) :
    (W.listed separator).Reads xs := by
  intro ys r s covered' hr hs eq
  cases xs with
  | nil =>
    cases ys with
    | nil => exact ⟨rfl, eq⟩
    | cons y ys =>
      rw [listed_cons] at eq
      exact absurd ⟨y, _, covered' y List.mem_cons_self, eq⟩ hr.2.2
  | cons x xs =>
    cases ys with
    | nil =>
      rw [listed_cons] at eq
      exact absurd ⟨x, _, covered x List.mem_cons_self, eq.symm⟩ hs.2.2
    | cons y ys =>
      obtain ⟨first, rest⟩ := List.forall_mem_cons.1 each
      obtain ⟨covers, later⟩ := List.forall_mem_cons.1 covered'
      rw [listed_cons, listed_cons] at eq
      obtain ⟨rfl, left⟩ :=
        first covers (follows_further more xs hr.1) (follows_further more ys hs.1) eq
      obtain ⟨rfl, same⟩ := reads_further more rest later hr.1 hs.1 hr.2.1 hs.2.1 left
      exact ⟨rfl, same⟩

theorem Readable.listed (h : W.Readable) (more : ∀ r, W.follows (separator ++ r)) :
    (W.listed separator).Readable :=
  fun _ covered => reads_listed more covered fun x member => h x (covered x member)

/-! ## Parts of a value -/

variable {V : Writing γ β}

/-- Values that are written as their images are. -/
def via (W : Writing α β) (g : γ → α) : Writing γ β where
  write c := W.write (g c)
  covers c := W.covers (g c)
  follows := W.follows

theorem Readable.via (h : W.Readable) {g : γ → α} (injective : Function.Injective g) :
    (W.via g).Readable := by
  intro c covered d r s covered' hr hs eq
  obtain ⟨same, left⟩ := h (g c) covered covered' hr hs eq
  exact ⟨injective same, left⟩

theorem Begins.of_via {g : γ → α} {r : List β} : (W.via g).Begins r → W.Begins r := by
  rintro ⟨c, s, covered, rfl⟩
  exact ⟨g c, s, covered, rfl⟩

def after (before : List β) (W : Writing α β) : Writing α β where
  write a := before ++ W.write a
  covers := W.covers
  follows := W.follows

theorem Readable.after (h : W.Readable) (before : List β) : (W.after before).Readable := by
  intro a covered b r s covered' hr hs eq
  have same : before ++ (W.write a ++ r) = before ++ (W.write b ++ s) := by
    simpa [Writing.after] using eq
  exact h a covered covered' hr hs (List.append_cancel_left same)

def pair (W : Writing α β) (V : Writing γ β) : Writing (α × γ) β where
  write p := W.write p.1 ++ V.write p.2
  covers p := W.covers p.1 ∧ V.covers p.2
  follows r := V.follows r ∧ ∀ c, V.covers c → W.follows (V.write c ++ r)

theorem Begins.of_pair {r : List β} : (W.pair V).Begins r → W.Begins r := by
  rintro ⟨⟨a, c⟩, s, covered, rfl⟩
  exact ⟨a, V.write c ++ s, covered.1, List.append_assoc ..⟩

theorem Readable.pair (hW : W.Readable) (hV : V.Readable) : (W.pair V).Readable := by
  rintro ⟨a, c⟩ ⟨ha, hc⟩ ⟨b, d⟩ r s ⟨hb, hd⟩ hr hs eq
  have same : W.write a ++ (V.write c ++ r) = W.write b ++ (V.write d ++ s) := by
    simpa [Writing.pair] using eq
  obtain ⟨rfl, left⟩ := hW a ha hb (hr.2 c hc) (hs.2 d hd) same
  obtain ⟨rfl, rest⟩ := hV c hc hd hr.1 hs.1 left
  exact ⟨rfl, rest⟩

/-- A value with a text before it, or nothing. -/
def optional (before : List β) (W : Writing α β) : Writing (Option α) β where
  write
    | none => []
    | some a => before ++ W.write a
  covers o := ∀ a ∈ o, W.covers a
  follows r := W.follows r ∧ ¬ before <+: r

theorem Readable.optional (h : W.Readable) (before : List β) : (W.optional before).Readable := by
  intro o covered o' r s covered' hr hs eq
  cases o with
  | none =>
    cases o' with
    | none => exact ⟨rfl, eq⟩
    | some b => exact absurd ⟨_, (eq.trans (List.append_assoc ..)).symm⟩ hr.2
  | some a =>
    cases o' with
    | none => exact absurd ⟨_, (List.append_assoc ..).symm.trans eq⟩ hs.2
    | some b =>
      obtain ⟨rfl, left⟩ := h.after before a (covered a rfl) (covered' b rfl) hr.1 hs.1 eq
      exact ⟨rfl, left⟩

theorem write_optional (before : List β) (o : Option α) (r : List β) :
    (W.optional before).write o ++ r = r ∨
      ∃ rest, (W.optional before).write o ++ r = before ++ rest := by
  cases o with
  | none => exact .inl rfl
  | some a => exact .inr ⟨W.write a ++ r, List.append_assoc ..⟩

/-! ## In parentheses -/

def grouped (W : Writing α Lexeme) : Writing α Lexeme where
  write a := enclosed (W.write a)
  covers := W.covers
  follows _ := True

theorem Reads.grouped {W : Writing α Lexeme} {a : α} (h : W.Reads a)
    (closing : ∀ r, W.follows (.char ')' :: r)) : W.grouped.Reads a := by
  intro b r s covered _ _ eq
  have same : W.write a ++ (.char ')' :: r) = W.write b ++ (.char ')' :: s) := by
    simpa [Writing.grouped, enclosed] using eq
  obtain ⟨rfl, closed⟩ := h covered (closing r) (closing s) same
  exact ⟨rfl, (List.cons.inj closed).2⟩

theorem Readable.grouped {W : Writing α Lexeme} (h : W.Readable)
    (closing : ∀ r, W.follows (.char ')' :: r)) : W.grouped.Readable :=
  fun a covered => (h a covered).grouped closing

/-! ## Texts -/

section Texts

variable {W : Writing α Lexeme} {V : Writing γ Lexeme} {t u : String} {a : α}

/-- The text is that of a value, lexeme by lexeme. -/
structure Spells (W : Writing α Lexeme) (t : String) (a : α) : Prop where
  covers : W.covers a
  spelled : Spelled t (W.write a)

theorem Readable.eq_of_spells (h : W.Readable) (ends : W.follows []) {b : α} (ha : W.Spells t a)
    (hb : W.Spells t b) : a = b := by
  have same : W.write a = W.write b :=
    Option.some.inj (ha.spelled.lex_eq.symm.trans hb.spelled.lex_eq)
  exact (h a ha.covers hb.covers ends ends (by rw [same])).1

/-- No value starts with a quoted region. -/
def Apart (W : Writing α Lexeme) : Prop := ∀ a m, (W.write a).head? = some m → ¬ m.IsRegion

theorem apart_grouped (W : Writing α Lexeme) : W.grouped.Apart := by
  intro a m first region
  cases first
  exact region

theorem not_isRegion_of_plain_append {cs : List Char} (some_char : cs ≠ []) {ls : List Lexeme}
    {m : Lexeme} (first : (plain cs ++ ls).head? = some m) : ¬ m.IsRegion := by
  cases cs with
  | nil => exact absurd rfl some_char
  | cons c cs =>
    cases first
    exact id

theorem apart_after {s : String} (some_char : s.toList ≠ []) : (W.after (plain s.toList)).Apart :=
  fun _ _ first => not_isRegion_of_plain_append some_char first

theorem apart_optional {s : String} (some_char : s.toList ≠ []) :
    (W.optional (plain s.toList)).Apart := by
  intro o m first
  cases o with
  | none => cases first
  | some a => exact not_isRegion_of_plain_append some_char first

theorem Apart.pair (hW : W.Apart) (hV : V.Apart) : (W.pair V).Apart := by
  rintro ⟨a, c⟩ m first
  cases written : W.write a with
  | nil =>
    simp only [Writing.pair, written] at first
    exact hV c m first
  | cons l ls =>
    simp only [Writing.pair, written] at first
    exact hW a m (by rw [written]; exact first)

theorem Spells.pair (ha : W.Spells t a) {c : γ} (hc : V.Spells u c) (apart : V.Apart) :
    (W.pair V).Spells (t ++ u) (a, c) :=
  ⟨⟨ha.covers, hc.covers⟩, ha.spelled.append hc.spelled (apart c)⟩

theorem Spells.after (ha : W.Spells t a) {s : String} (quoteless : Quoteless s.toList) :
    (W.after (plain s.toList)).Spells (s ++ t) a :=
  ⟨ha.covers, ha.spelled.prepend quoteless⟩

theorem Spells.via {g : γ → α} {c : γ} (h : W.Spells t (g c)) : (W.via g).Spells t c :=
  ⟨h.covers, h.spelled⟩

theorem spells_none (W : Writing α Lexeme) (before : List Lexeme) :
    (W.optional before).Spells "" none :=
  ⟨by simp [Writing.optional], .of_quoteless (by decide)⟩

theorem Spells.some (ha : W.Spells t a) {s : String} (quoteless : Quoteless s.toList) :
    (W.optional (plain s.toList)).Spells (s ++ t) (some a) :=
  ⟨by simpa [Writing.optional] using ha.covers, ha.spelled.prepend quoteless⟩

theorem Spells.grouped (ha : W.Spells t a) : W.grouped.Spells (Formatter.parenthesized t) a :=
  ⟨ha.covers, Formatter.parenthesized_spelled ha.spelled⟩

theorem Spells.listed {separator : String} {ts : List String} {xs : List α}
    (some_char : separator.toList ≠ []) (quoteless : Quoteless separator.toList)
    (each : List.Forall₂ W.Spells ts xs) :
    (W.listed (plain separator.toList)).Spells (separator.intercalate ts) xs := by
  refine ⟨?_, .intercalate some_char quoteless ?_⟩
  · induction each with
    | nil => simp [Writing.listed]
    | cons head _ ih => exact List.forall_mem_cons.2 ⟨head.covers, ih⟩
  · rw [List.forall₂_map_right_iff]
    exact each.imp fun _ _ h => h.spelled

end Texts

end Writing

end CqlClient
