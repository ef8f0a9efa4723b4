import CqlClient.Proofs.Schema.Rendering

/-!
# Reading schema statements

A server learns from the text of a statement which keyspace or table is to be created, or which
column is to be added. `SchemaStatement.read` is such a reader. Names end at the next double quote,
and the items of a table definition are parted by the commas outside parentheses. What a connector
with the default formatter renders is read back: `read_keyspaceCreation`, `read_creation` and
`read_addition`.
-/

namespace CqlClient

inductive SchemaStatement where
  | createKeyspace (name : Identifier) (replication : String)
  | createTable (keyspace table : Identifier) (columns : List (Identifier × String))
      (key : List Identifier)
  | addColumn (keyspace table : Identifier) (column : Identifier × String)
  deriving DecidableEq

namespace SchemaStatement

/-! ## The reader -/

def expect (text : String) (cs : List Char) : Option (List Char) := cs.dropPrefix? text.toList

def readName : List Char → Option (Identifier × List Char)
  | [] => none
  | c :: cs =>
    if c = '*' then some (.star, cs)
    else if c = '"' then do
      let rest ← expect "\"" (cs.dropWhile (· ≠ '"'))
      some (.quoted (String.ofList (cs.takeWhile (· ≠ '"'))), rest)
    else none

def readTableName (cs : List Char) : Option (Identifier × Identifier × List Char) := do
  let (keyspace, cs) ← readName cs
  let cs ← expect "." cs
  let (table, cs) ← readName cs
  some (keyspace, table, cs)

def readWholeName (cs : List Char) : Option Identifier := do
  let (name, rest) ← readName cs
  if rest = [] then some name else none

/-- A column with its type, which is all that follows the name. -/
def readColumn (cs : List Char) : Option (Identifier × String) := do
  let (name, cs) ← readName cs
  let cs ← expect " " cs
  some (name, String.ofList cs)

/-- The number of parentheses open after a character; none for a comma outside all of them. -/
def nesting (depth : Nat) (c : Char) : Option Nat :=
  if c = '(' then some (depth + 1)
  else if c = ')' then some (depth - 1)
  else if c = ',' ∧ depth = 0 then none
  else some depth

/-- The texts between the commas; with the item being read and the parentheses open in it. -/
def itemsFrom (depth : Nat) (item : List Char) : List Char → List (List Char)
  | [] => [item]
  | c :: cs =>
    match nesting depth c with
    | some depth => itemsFrom depth (item ++ [c]) cs
    | none => item :: itemsFrom 0 [] cs

/-- The items of a list, without the blanks before them. -/
def items (cs : List Char) : List (List Char) := (itemsFrom 0 [] cs).map (·.dropWhile (· = ' '))

def beforeParenthesis (cs : List Char) : Option (List Char) :=
  if cs.getLast? = some ')' then some cs.dropLast else none

def readKey (cs : List Char) : Option (List Identifier) := do
  let cs ← expect "PRIMARY KEY (" cs
  let cs ← beforeParenthesis cs
  (items cs).mapM readWholeName

/-- Columns, and the key after the last of them if there is one. -/
def readItems : List (List Char) → Option (List (Identifier × String) × List Identifier)
  | [] => some ([], [])
  | item :: rest =>
    match readColumn item with
    | some column => (readItems rest).map fun (columns, key) => (column :: columns, key)
    | none => if rest = [] then (readKey item).map ([], ·) else none

def readKeyspaceCreation (cs : List Char) : Option SchemaStatement := do
  let cs ← expect "CREATE KEYSPACE IF NOT EXISTS " cs
  let (name, cs) ← readName cs
  let cs ← expect " WITH replication = " cs
  some (.createKeyspace name (String.ofList cs))

def readTableCreation (cs : List Char) : Option SchemaStatement := do
  let cs ← expect "CREATE TABLE IF NOT EXISTS " cs
  let (keyspace, table, cs) ← readTableName cs
  let cs ← expect " (" cs
  let cs ← beforeParenthesis cs
  let (columns, key) ← readItems (items cs)
  some (.createTable keyspace table columns key)

def readAddition (cs : List Char) : Option SchemaStatement := do
  let cs ← expect "ALTER TABLE " cs
  let (keyspace, table, cs) ← readTableName cs
  let cs ← expect " ADD " cs
  let column ← readColumn cs
  some (.addColumn keyspace table column)

/-- What a statement does to the schema; none for any other statement. -/
def read (cql : String) : Option SchemaStatement :=
  (readKeyspaceCreation cql.toList).or
    ((readTableCreation cql.toList).or (readAddition cql.toList))

/-! ## Names -/

@[simp] theorem expect_append (text : String) (cs : List Char) :
    expect text (text.toList ++ cs) = some cs :=
  List.dropPrefix?_append_of_beq cs (by simp)

end SchemaStatement

/-- The name ends at the next quote. -/
def Identifier.IsClosed : Identifier → Prop
  | .star => True
  | .quoted name => '"' ∉ name.toList

theorem Identifier.toList_text_quoted (name : String) :
    (quoted name).text.toList = '"' :: (name.toList ++ ['"']) := by
  simp [text]

/-- The star, or an identifier between quotes. -/
def Identifier.IsWritten : Identifier → Prop
  | .star => True
  | .quoted name => Name.isIdentifier name.toList

theorem Identifier.IsWritten.isClosed {i : Identifier} (h : i.IsWritten) : i.IsClosed := by
  cases i with
  | star => trivial
  | quoted name => exact Name.not_mem_of_isIdentifier h (by decide)

theorem Name.IsWritable.isWritten {name : String} (h : IsWritable name) :
    (identifier name).IsWritten := by
  rw [identifier]
  split
  · trivial
  · rename_i star
    exact h.resolve_left star

theorem Name.IsWritable.isClosed {name : String} (h : IsWritable name) :
    (identifier name).IsClosed :=
  h.isWritten.isClosed

namespace SchemaStatement

theorem readName_append {i : Identifier} (h : i.IsClosed) (rest : List Char) :
    readName (i.text.toList ++ rest) = some (i, rest) := by
  cases i with
  | star => rfl
  | quoted name =>
    have inside : ∀ c ∈ name.toList, decide (c ≠ '"') = true := fun c member =>
      decide_eq_true fun same => h (same ▸ member)
    rw [Identifier.toList_text_quoted, List.cons_append, List.append_assoc, List.singleton_append,
      readName, if_neg (by decide), if_pos rfl, List.dropWhile_append_of_pos inside,
      List.takeWhile_append_of_pos inside]
    have closing : expect "\"" ('"' :: rest) = some rest := expect_append "\"" rest
    simp [closing]

theorem readTableName_append {keyspace table : Identifier} (hk : keyspace.IsClosed)
    (ht : table.IsClosed) (rest : List Char) :
    readTableName ((keyspace.text ++ "." ++ table.text).toList ++ rest) =
      some (keyspace, table, rest) := by
  simp only [readTableName, String.toList_append, List.append_assoc, readName_append hk,
    Option.bind_eq_bind, Option.bind_some, expect_append, readName_append ht]

theorem readColumn_append {name : Identifier} (h : name.IsClosed) (type : String) :
    readColumn (name.text ++ " " ++ type).toList = some (name, type) := by
  simp only [readColumn, String.toList_append, List.append_assoc, readName_append h,
    Option.bind_eq_bind, Option.bind_some, expect_append, String.ofList_toList]

/-! ## Items -/

/-- No comma stands outside parentheses, and all of these are closed. -/
def Whole (cs : List Char) : Prop := cs.foldlM nesting 0 = some 0

instance (cs : List Char) : Decidable (Whole cs) := inferInstanceAs (Decidable (_ = _))

def Flat (cs : List Char) : Prop := ∀ c ∈ cs, c ∉ ['(', ')', ',']

instance (cs : List Char) : Decidable (Flat cs) := List.decidableBAll _ cs

theorem Flat.foldlM_nesting {cs : List Char} (h : Flat cs) (depth : Nat) :
    cs.foldlM nesting depth = some depth := by
  induction cs with
  | nil => rfl
  | cons c cs ih =>
    obtain ⟨first, rest⟩ := List.forall_mem_cons.1 h
    simp only [List.mem_cons, List.not_mem_nil, or_false, not_or] at first
    have same : nesting depth c = some depth := by simp [nesting, first]
    rw [List.foldlM_cons, same]
    exact ih rest

theorem Flat.whole {cs : List Char} (h : Flat cs) : Whole cs := h.foldlM_nesting 0

theorem Whole.append {cs ds : List Char} (hc : Whole cs) (hd : Whole ds) : Whole (cs ++ ds) := by
  rw [Whole, List.foldlM_append, hc]
  exact hd

theorem Whole.applied {cs ds : List Char} (hc : Flat cs) (hd : ds.foldlM nesting 1 = some 1) :
    Whole (cs ++ '(' :: (ds ++ [')'])) := by
  refine hc.whole.append ?_
  have opened : nesting 0 '(' = some 1 := rfl
  rw [Whole, List.foldlM_cons, opened, Option.bind_eq_bind, Option.bind_some, List.foldlM_append, hd]
  rfl

theorem itemsFrom_append {cs : List Char} {depth depth' : Nat}
    (h : cs.foldlM nesting depth = some depth') (item rest : List Char) :
    itemsFrom depth item (cs ++ rest) = itemsFrom depth' (item ++ cs) rest := by
  induction cs generalizing depth item with
  | nil =>
    obtain rfl := Option.some.inj h
    simp
  | cons c cs ih =>
    rw [List.foldlM_cons] at h
    obtain ⟨next, nested, h⟩ := Option.bind_eq_some_iff.1 h
    rw [List.cons_append, itemsFrom, nested]
    simp only [ih h, List.append_assoc, List.singleton_append]

theorem itemsFrom_intercalate {xs : List Char} {xss : List (List Char)} (first : Whole xs)
    (rest : ∀ ys ∈ xss, Whole ys) (item : List Char) :
    itemsFrom 0 item ([',', ' '].intercalate (xs :: xss)) = (item ++ xs) :: xss.map (' ' :: ·) := by
  induction xss generalizing xs item with
  | nil =>
    rw [List.intercalate_singleton, ← List.append_nil xs, itemsFrom_append first, List.append_nil]
    rfl
  | cons ys xss ih =>
    obtain ⟨second, others⟩ := List.forall_mem_cons.1 rest
    rw [List.intercalate_cons_cons, List.append_assoc, itemsFrom_append first, List.cons_append,
      itemsFrom]
    have comma : nesting 0 ',' = none := rfl
    have blank : nesting 0 ' ' = some 0 := rfl
    simp only [comma]
    rw [List.singleton_append, itemsFrom]
    simp only [blank]
    rw [ih second others]
    rfl

theorem items_intercalate {xss : List (List Char)} (some_item : xss ≠ [])
    (whole : ∀ xs ∈ xss, Whole xs) (dark : ∀ xs ∈ xss, xs.head? ≠ some ' ') :
    items (", ".toList.intercalate xss) = xss := by
  have strip {xs : List Char} (h : xs.head? ≠ some ' ') : xs.dropWhile (· = ' ') = xs := by
    cases xs with
    | nil => rfl
    | cons c cs =>
      have other : c ≠ ' ' := by simpa using h
      rw [List.dropWhile_cons_of_neg (by simpa using other)]
  cases xss with
  | nil => exact absurd rfl some_item
  | cons xs xss =>
    obtain ⟨first, rest⟩ := List.forall_mem_cons.1 whole
    obtain ⟨start, starts⟩ := List.forall_mem_cons.1 dark
    have separator : ", ".toList = [',', ' '] := rfl
    rw [items, separator, itemsFrom_intercalate first rest, List.nil_append, List.map_cons,
      strip start, List.map_map]
    congr 1
    have each (ys : List Char) (member : ys ∈ xss) :
        ((·.dropWhile (· = ' ')) ∘ (' ' :: ·)) ys = ys := by
      simpa using strip (starts ys member)
    rw [List.map_congr_left each, List.map_id']

end SchemaStatement

/-! ## Definitions of columns -/

open SchemaStatement

theorem flat_of_isNumeric {cs : List Char} (h : ∀ c ∈ cs, IsNumeric c) : Flat cs := by
  intro c member special
  have numeric := h c member
  simp only [List.mem_cons, List.not_mem_nil, or_false] at special
  rcases special with rfl | rfl | rfl
  · revert numeric; decide
  · revert numeric; decide
  · revert numeric; decide

theorem flat_intText (n : Int) : Flat (Text.intText n).toList := by
  rw [Text.intText, String.toList_ofList]
  exact flat_of_isNumeric fun c => isNumeric_of_mem_intChars

namespace TypeTemplate

def IsPlain : TypeTemplate → Prop
  | .fixed text => Whole text.toList
  | .sized base => Flat base.toList
  | .scaled base => Flat base.toList

instance : (t : TypeTemplate) → Decidable t.IsPlain
  | .fixed text => inferInstanceAs (Decidable (Whole text.toList))
  | .sized base => inferInstanceAs (Decidable (Flat base.toList))
  | .scaled base => inferInstanceAs (Decidable (Flat base.toList))

theorem isPlain_of_find? {name : String} {t : TypeTemplate} (h : find? name = some t) :
    t.IsPlain := by
  have all : ∀ entry ∈ table, entry.2.IsPlain := by decide
  obtain ⟨l₁, l₂, split, -⟩ := List.lookup_eq_some_iff.1 h
  exact all (name, t) (split ▸ List.mem_append_right _ List.mem_cons_self)

theorem whole_render {t : TypeTemplate} (h : t.IsPlain) (size scale : Option Int) :
    Whole (t.render size scale).toList := by
  cases t with
  | fixed text => exact h
  | sized base =>
    have flat : Flat base.toList := h
    rw [render]
    split
    · rename_i n size
      have nested := (flat_intText n).foldlM_nesting 1
      simpa using Whole.applied flat nested
    · exact flat.whole
  | scaled base =>
    have flat : Flat base.toList := h
    rw [render]
    split
    · rename_i n m size scale
      have nested : ((Text.intText n).toList ++ ',' :: (Text.intText m).toList).foldlM nesting 1 =
          some 1 := by
        rw [List.foldlM_append, (flat_intText n).foldlM_nesting, Option.bind_eq_bind,
          Option.bind_some, List.foldlM_cons]
        exact (flat_intText m).foldlM_nesting 1
      simpa using Whole.applied flat nested
    · exact flat.whole

end TypeTemplate

theorem Identifier.IsWritten.flat {i : Identifier} (h : i.IsWritten) : Flat i.text.toList := by
  cases i with
  | star => decide
  | quoted name =>
    have absent {c : Char} (other : Name.isSubsequent c = false) : c ∉ name.toList :=
      Name.not_mem_of_isIdentifier h other
    rw [toList_text_quoted]
    intro c member special
    rw [List.mem_cons, List.mem_append, List.mem_singleton, or_left_comm, or_self] at member
    simp only [List.mem_cons, List.not_mem_nil, or_false] at special
    rcases special with rfl | rfl | rfl
    · exact absurd (member.resolve_right (by decide)) (absent (by decide))
    · exact absurd (member.resolve_right (by decide)) (absent (by decide))
    · exact absurd (member.resolve_right (by decide)) (absent (by decide))

theorem Identifier.head?_text_append (i : Identifier) (cs : List Char) :
    (i.text.toList ++ cs).head? ≠ some ' ' := by
  cases i with
  | star => simp [text]
  | quoted name => simp [toList_text_quoted]

namespace Field

theorem whole_typeText (f : Field) : Whole f.typeText.toList := by
  rw [typeText, columnType]
  cases found : TypeTemplate.find? f.type with
  | none => rfl
  | some template =>
    have whole := TypeTemplate.whole_render (TypeTemplate.isPlain_of_find? found) f.size f.scale
    cases f.many with
    | false => exact whole
    | true =>
      have opening : Flat "LIST<".toList := by decide
      have closing : Flat ">".toList := by decide
      simpa using (opening.whole.append whole).append closing.whole

def declared (f : Field) : Identifier × String := (Name.identifier f.name, f.typeText)

end Field

/-! ## Items of a table definition -/

inductive TableItem where
  | column (name : Identifier) (type : String)
  | key (names : List Identifier)
  deriving DecidableEq

namespace TableItem

def text : TableItem → String
  | .column name type => name.text ++ " " ++ type
  | .key names => "PRIMARY KEY (" ++ ", ".intercalate (names.map Identifier.text) ++ ")"

/-- The names are written as such, a type is whole, and a key has some name. -/
def IsWritten : TableItem → Prop
  | .column name type => name.IsWritten ∧ Whole type.toList
  | .key names => names ≠ [] ∧ ∀ name ∈ names, name.IsWritten

theorem toList_text_key (names : List Identifier) :
    (key names).text.toList = "PRIMARY KEY (".toList ++
      ((", ".intercalate (names.map Identifier.text)).toList ++ ")".toList) := by
  simp only [text, String.toList_append, List.append_assoc]

theorem IsWritten.whole {item : TableItem} (h : item.IsWritten) : Whole item.text.toList := by
  cases item with
  | column name type =>
    have blank : Flat " ".toList := by decide
    rw [text, String.toList_append, String.toList_append]
    exact (h.1.flat.whole.append blank.whole).append h.2
  | key names =>
    have inner : (", ".intercalate (names.map Identifier.text)).toList.foldlM nesting 1 =
        some 1 := by
      rw [String.toList_intercalate]
      refine intercalate_of_append (P := fun cs => cs.foldlM nesting 1 = some 1) rfl ?_ rfl ?_
      · intro cs ds hc hd
        rw [List.foldlM_append, hc]
        exact hd
      · simp only [List.map_map, List.forall_mem_map, Function.comp]
        exact fun name member => (h.2 name member).flat.foldlM_nesting 1
    have opening : Flat "PRIMARY KEY ".toList := by decide
    have start : "PRIMARY KEY (".toList = "PRIMARY KEY ".toList ++ ['('] := rfl
    have parenthesis : ")".toList = [')'] := rfl
    rw [toList_text_key, start, parenthesis, List.append_assoc]
    exact Whole.applied opening inner

theorem head?_text (item : TableItem) : item.text.toList.head? ≠ some ' ' := by
  cases item with
  | column name type =>
    rw [text, String.toList_append, String.toList_append, List.append_assoc]
    exact name.head?_text_append _
  | key names =>
    rw [toList_text_key]
    exact fun blank => by cases blank

end TableItem

namespace Table

/-- The clause of a key, if it has some name. -/
def keyItem (names : List Identifier) : List TableItem :=
  if names.isEmpty then [] else [.key names]

/-- What the creation of a table with these fields states. -/
def declarations (fields : List Field) : List TableItem :=
  fields.map (fun f => .column f.declared.1 f.declared.2) ++
    keyItem ((keyNames fields).map Name.identifier)

theorem keyClause_eq (names : List Identifier) :
    keyClause (names.map Identifier.text) = (keyItem names).map TableItem.text := by
  cases names <;> rfl

theorem parts_eq (fields : List Field) :
    parts fields = (declarations fields).map TableItem.text := by
  rw [parts, declarations, List.map_append, List.map_map, ← keyClause_eq, List.map_map]
  rfl

variable {fields : List Field}

theorem declarations_ne_nil (some_field : fields ≠ []) : declarations fields ≠ [] := by
  simp [declarations, some_field]

theorem key_written (h : ∀ f ∈ fields, Name.IsWritable f.name) :
    ∀ name ∈ (keyNames fields).map Name.identifier, name.IsWritten := by
  simp only [keyNames, List.forall_mem_map]
  exact fun f member => (h f (List.mem_of_mem_filter member)).isWritten

theorem declarations_written (h : ∀ f ∈ fields, Name.IsWritable f.name) :
    ∀ item ∈ declarations fields, item.IsWritten := by
  refine List.forall_mem_append.2 ⟨List.forall_mem_map.2 fun f member => ?_, fun item member => ?_⟩
  · exact ⟨(h f member).isWritten, f.whole_typeText⟩
  · rw [keyItem] at member
    split at member
    · cases member
    · rename_i some_name
      obtain rfl := List.mem_singleton.1 member
      exact ⟨mt List.isEmpty_iff.2 some_name, key_written h⟩

end Table

/-! ## Statements -/

namespace SchemaStatement

theorem beforeParenthesis_append (cs : List Char) :
    beforeParenthesis (cs ++ ")".toList) = some cs := by
  have last : (cs ++ [')']).getLast? = some ')' := List.getLast?_concat
  rw [beforeParenthesis]
  exact (if_pos last).trans (congrArg some List.dropLast_concat)

/-! ### Items -/

theorem items_texts {is : List TableItem} (some_item : is ≠ []) (h : ∀ i ∈ is, i.IsWritten) :
    items (", ".intercalate (is.map TableItem.text)).toList = is.map (·.text.toList) := by
  rw [String.toList_intercalate, List.map_map]
  refine items_intercalate (by simpa using some_item) ?_ ?_
  · simp only [List.forall_mem_map, Function.comp]
    exact fun i member => (h i member).whole
  · simp only [List.forall_mem_map, Function.comp]
    exact fun i _ => i.head?_text

theorem readKey_text {names : List Identifier} (h : (TableItem.key names).IsWritten) :
    readKey (TableItem.key names).text.toList = some names := by
  have split : items (", ".intercalate (names.map Identifier.text)).toList =
      names.map (·.text.toList) := by
    rw [String.toList_intercalate, List.map_map]
    refine items_intercalate (by simpa using h.1) ?_ ?_
    · simp only [List.forall_mem_map, Function.comp]
      exact fun name member => (h.2 name member).flat.whole
    · simp only [List.forall_mem_map, Function.comp]
      exact fun name _ => by simpa using name.head?_text_append []
  have each (name : Identifier) (member : name ∈ names) :
      readWholeName name.text.toList = some name := by
    have read := readName_append (h.2 name member).isClosed []
    rw [List.append_nil] at read
    simp [readWholeName, read]
  simp only [readKey, TableItem.toList_text_key, expect_append, Option.bind_eq_bind,
    Option.bind_some, beforeParenthesis_append, split]
  exact (mapM_map_eq_some each).trans (congrArg some (List.map_id names))

/-- The clause of a key starts with a letter, a column with a quote or the star. -/
theorem readColumn_text_key (names : List Identifier) :
    readColumn (TableItem.key names).text.toList = none := by
  rw [TableItem.toList_text_key]
  rfl

/-! ### Whole statements -/

variable {fields : List Field}

theorem readItems_columns {columns : List (Identifier × String)}
    (h : ∀ column ∈ columns, column.1.IsWritten) (tail : List (List Char)) :
    readItems (columns.map (fun (name, type) => (TableItem.column name type).text.toList) ++ tail) =
      (readItems tail).map fun (others, key) => (columns ++ others, key) := by
  induction columns with
  | nil => simp
  | cons column columns ih =>
    obtain ⟨first, rest⟩ := List.forall_mem_cons.1 h
    have read : readColumn (TableItem.column column.1 column.2).text.toList = some column :=
      readColumn_append first.isClosed column.2
    rw [List.map_cons, List.cons_append, readItems, read]
    simp only [ih rest, Option.map_map]
    rfl

theorem readItems_keyItem {names : List Identifier} (h : ∀ name ∈ names, name.IsWritten) :
    readItems ((Table.keyItem names).map (·.text.toList)) = some ([], names) := by
  cases names with
  | nil => rfl
  | cons name names =>
    have item : Table.keyItem (name :: names) = [.key (name :: names)] := rfl
    rw [item, List.map_singleton, readItems, readColumn_text_key]
    simp only [if_true, readKey_text ⟨List.cons_ne_nil name names, h⟩, Option.map_some]

theorem read_keyspaceCreation {name : String} (h : Name.IsWritable name) (replication : String) :
    read ("CREATE KEYSPACE IF NOT EXISTS " ++ (Name.identifier name).text ++
      " WITH replication = " ++ replication) =
        some (.createKeyspace (Name.identifier name) replication) := by
  have keyspace : readKeyspaceCreation ("CREATE KEYSPACE IF NOT EXISTS " ++
      (Name.identifier name).text ++ " WITH replication = " ++ replication).toList =
        some (.createKeyspace (Name.identifier name) replication) := by
    simp only [readKeyspaceCreation, String.toList_append, List.append_assoc, expect_append,
      Option.bind_eq_bind, Option.bind_some, readName_append h.isClosed, String.ofList_toList]
  rw [read, keyspace, Option.some_or]

variable {t : Table} {keyspace : String}

theorem toList_additionText (name : String) (f : Field) :
    (Table.additionText name f).toList =
      "ALTER TABLE ".toList ++ (name.toList ++ (" ADD ".toList ++ f.definition.toList)) := by
  unfold Table.additionText
  simp only [String.toList_append, List.append_assoc]

theorem read_addition (ht : t.IsWritable keyspace) {f : Field} (h : Name.IsWritable f.name) :
    read (Table.additionText (t.nameIn keyspace) f) =
      some (.addColumn (Name.identifier keyspace) (Name.identifier t.name) f.declared) := by
  have column : readAddition (Table.additionText (t.nameIn keyspace) f).toList =
      some (.addColumn (Name.identifier keyspace) (Name.identifier t.name) f.declared) := by
    simp only [toList_additionText, readAddition, expect_append, Option.bind_eq_bind,
      Option.bind_some, Table.nameIn, readTableName_append ht.keyspace.isClosed ht.name.isClosed,
      Field.definition, readColumn_append h.isClosed]
    rfl
  have no_creation (cs : List Char) : readKeyspaceCreation ("ALTER TABLE ".toList ++ cs) = none ∧
      readTableCreation ("ALTER TABLE ".toList ++ cs) = none := ⟨rfl, rfl⟩
  rw [read, column, toList_additionText, (no_creation _).1, (no_creation _).2, Option.none_or,
    Option.none_or]

theorem read_query {cql : String} (h : "SELECT ".toList <+: cql.toList) : read cql = none := by
  obtain ⟨rest, whole⟩ := h
  rw [read, ← whole]
  rfl

theorem read_keyspacePresenceQuery : read Keyspace.presenceQuery = none := read_query (by decide +kernel)

theorem read_presenceQuery : read Table.presenceQuery = none := read_query (by decide +kernel)

theorem read_columnsQuery : read Table.columnsQuery = none := read_query (by decide +kernel)

theorem items_parts (some_field : fields ≠ []) (h : ∀ f ∈ fields, Name.IsWritable f.name) :
    items (", ".intercalate (Table.parts fields)).toList =
      (Table.declarations fields).map (·.text.toList) := by
  rw [Table.parts_eq]
  exact items_texts (Table.declarations_ne_nil some_field) (Table.declarations_written h)

theorem readItems_declarations (h : ∀ f ∈ fields, Name.IsWritable f.name) :
    readItems ((Table.declarations fields).map (·.text.toList)) =
      some (fields.map Field.declared, (Table.keyNames fields).map Name.identifier) := by
  have columns : ∀ column ∈ fields.map Field.declared, column.1.IsWritten :=
    List.forall_mem_map.2 fun f member => (h f member).isWritten
  rw [Table.declarations, List.map_append, List.map_map]
  refine (List.map_map ▸ readItems_columns columns _).trans ?_
  simp only [readItems_keyItem (Table.key_written h), Option.map_some, List.append_nil]

theorem toList_creationText (name : String) :
    (Table.creationText name fields).toList = "CREATE TABLE IF NOT EXISTS ".toList ++
      (name.toList ++ (" (".toList ++
        ((", ".intercalate (Table.parts fields)).toList ++ ")".toList))) := by
  unfold Table.creationText
  simp only [String.toList_append, List.append_assoc]

theorem read_creation (ht : t.IsWritable keyspace) (some_field : fields ≠ [])
    (h : ∀ f ∈ fields, Name.IsWritable f.name) :
    read (Table.creationText (t.nameIn keyspace) fields) =
      some (.createTable (Name.identifier keyspace) (Name.identifier t.name)
        (fields.map Field.declared) ((Table.keyNames fields).map Name.identifier)) := by
  have table : readTableCreation (Table.creationText (t.nameIn keyspace) fields).toList =
      some (.createTable (Name.identifier keyspace) (Name.identifier t.name)
        (fields.map Field.declared) ((Table.keyNames fields).map Name.identifier)) := by
    simp only [toList_creationText, readTableCreation, expect_append, Option.bind_eq_bind,
      Option.bind_some, Table.nameIn, readTableName_append ht.keyspace.isClosed ht.name.isClosed,
      beforeParenthesis_append, items_parts some_field h, readItems_declarations h]
  have no_keyspace (cs : List Char) :
      readKeyspaceCreation ("CREATE TABLE IF NOT EXISTS ".toList ++ cs) = none := rfl
  rw [read, table, toList_creationText, no_keyspace, Option.none_or, Option.some_or]

end SchemaStatement

end CqlClient
