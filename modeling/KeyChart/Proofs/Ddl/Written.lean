import KeyChart.Ddl.Script
import KeyChart.Engine
import KeyChart.Proofs.Ddl.Spelling

/-!
# Written declarations

Declarations of tables as one writes them down: names are arbitrary and go between
quotes, types are bare words with numbers behind them. Each piece of a declaration has
its text, the tokens as which the text is read, and what it declares.
-/

namespace KeyChart.Ddl.Written

/-! ## Types -/

/-- A bare word that is no keyword. -/
structure Word where
  first : Char
  rest : List Char
  starts : startsWord first = true
  continues : rest.all isWordPart = true
  plain : wordToken (first :: rest) = .ident (String.ofList (first :: rest))

/-- A number, with a sign or without. -/
structure Number where
  negative : Bool
  first : Char
  rest : List Char
  starts : first.isDigit = true
  continues : rest.all isNumberPart = true

/-- A word of a type, with numbers in parentheses behind it if there are any. -/
structure TypeWord where
  word : Word
  arguments : List Number

def Word.text (w : Word) : String := String.ofList (w.first :: w.rest)

def Number.text (n : Number) : String :=
  String.ofList (if n.negative then '-' :: n.first :: n.rest else n.first :: n.rest)

def TypeWord.text (w : TypeWord) : String :=
  if w.arguments.isEmpty then w.word.text
  else w.word.text ++ "(" ++ ",".intercalate (w.arguments.map Number.text) ++ ")"

def TypeWord.tokens (w : TypeWord) : List Token :=
  if w.arguments.isEmpty then [.ident w.word.text]
  else [.ident w.word.text] ++ [.lparen] ++
    [Token.comma].intercalate (w.arguments.map fun n => [.num n.text]) ++ [.rparen]

/-- The text of a type: its words with blanks between them. -/
def typeText (type : List TypeWord) : String := " ".intercalate (type.map TypeWord.text)

/-! ## Columns and tables -/

/-- A table that is referred to. Without columns its row identity is meant. -/
structure Reference where
  target : String
  columns : List String
  deriving DecidableEq

/-- What can be said of a column behind its type. -/
inductive ColumnClause where
  | notNull
  | unique
  | primaryKey
  | references (ref : Reference)
  deriving DecidableEq

/-- A column with its type and its clauses. -/
structure Column where
  name : String
  type : List TypeWord
  clauses : List ColumnClause

/-- The columns of a key: at least one. -/
structure KeyColumns where
  names : List String
  nonempty : names ≠ []

/-- A key of a table. -/
inductive TableKey where
  | primaryKey (key : KeyColumns)
  | unique (key : KeyColumns)
  | foreignKey (name : Option String) (key : KeyColumns) (ref : Reference)

/-- What stands between the parentheses of a table. -/
inductive Item where
  | column (c : Column)
  | key (k : TableKey)

/-- A table: first its columns, then its keys. -/
structure Table where
  name : String
  columns : List Column
  keys : List TableKey

def Table.items (t : Table) : List Item := t.columns.map .column ++ t.keys.map .key

/-! ## Texts -/

def namesText (names : List String) : String :=
  "(" ++ ", ".intercalate (names.map quoteIdent) ++ ")"

def Reference.text (r : Reference) : String :=
  "REFERENCES " ++ quoteIdent r.target ++
    if r.columns.isEmpty then "" else " " ++ namesText r.columns

def ColumnClause.text : ColumnClause → String
  | notNull => "NOT NULL"
  | unique => "UNIQUE"
  | primaryKey => "PRIMARY KEY"
  | references ref => ref.text

def Column.text (c : Column) : String :=
  quoteIdent c.name ++ " " ++ typeText c.type ++
    String.join (c.clauses.map fun clause => " " ++ clause.text)

def constraintText : Option String → String
  | none => ""
  | some name => "CONSTRAINT " ++ quoteIdent name ++ " "

def TableKey.text : TableKey → String
  | primaryKey key => "PRIMARY KEY " ++ namesText key.names
  | unique key => "UNIQUE " ++ namesText key.names
  | foreignKey name key ref =>
    constraintText name ++ ("FOREIGN KEY " ++ namesText key.names ++ " " ++ ref.text)

def Item.text : Item → String
  | column c => c.text
  | key k => k.text

def Table.text (t : Table) : String :=
  "CREATE TABLE " ++ quoteIdent t.name ++ " (" ++ ", ".intercalate (t.items.map Item.text) ++ ")"

/-- The text of a script: its statements with semicolons between them. -/
def scriptText (tables : List Table) : String := "; ".intercalate (tables.map Table.text)

/-! ## Tokens -/

def namesTokens (names : List String) : List Token :=
  [.lparen] ++ [Token.comma].intercalate (names.map fun name => [.ident name]) ++ [.rparen]

def Reference.tokens (r : Reference) : List Token :=
  [.keyword .references, .ident r.target] ++
    if r.columns.isEmpty then [] else namesTokens r.columns

def ColumnClause.tokens : ColumnClause → List Token
  | notNull => [.keyword .not, .keyword .null]
  | unique => [.keyword .unique]
  | primaryKey => [.keyword .primary, .keyword .key]
  | references ref => ref.tokens

def Column.tokens (c : Column) : List Token :=
  [.ident c.name] ++ c.type.flatMap TypeWord.tokens ++ c.clauses.flatMap ColumnClause.tokens

def constraintTokens : Option String → List Token
  | none => []
  | some name => [.keyword .constraint, .ident name]

def TableKey.tokens : TableKey → List Token
  | primaryKey key => [.keyword .primary, .keyword .key] ++ namesTokens key.names
  | unique key => [.keyword .unique] ++ namesTokens key.names
  | foreignKey name key ref =>
    constraintTokens name ++
      ([.keyword .foreign, .keyword .key] ++ namesTokens key.names ++ ref.tokens)

def Item.tokens : Item → List Token
  | column c => c.tokens
  | key k => k.tokens

def Table.tokens (t : Table) : List Token :=
  [.keyword .create, .keyword .table, .ident t.name, .lparen] ++
    [Token.comma].intercalate (t.items.map Item.tokens) ++ [.rparen]

/-! ## What is declared -/

/-- What pieces of a table declare, each kind in order. -/
structure Content where
  columns : List ColumnDecl := []
  primaryKeys : List (List String) := []
  uniques : List (List String) := []
  foreignKeys : List ForeignKeyDecl := []

/-- What a list of pieces declares. -/
def Content.concat (cs : List Content) : Content :=
  ⟨cs.flatMap Content.columns, cs.flatMap Content.primaryKeys, cs.flatMap Content.uniques,
    cs.flatMap Content.foreignKeys⟩

def Reference.targetColumns (r : Reference) : List String :=
  if r.columns.isEmpty then [rowId] else r.columns

def Column.decl (c : Column) : ColumnDecl :=
  ⟨c.name, typeText c.type, ColumnType.ofSql (typeText c.type), decide (.notNull ∈ c.clauses)⟩

/-- A key clause of a column is a key of that column alone. -/
def ColumnClause.content (table column : String) : ColumnClause → Content
  | notNull => {}
  | unique => { uniques := [[column]] }
  | primaryKey => { primaryKeys := [[column]] }
  | references ref => { foreignKeys := [⟨none, table, [column], ref.target, ref.targetColumns⟩] }

def Column.content (table : String) (c : Column) : Content :=
  Content.concat (c.clauses.map (ColumnClause.content table c.name) ++ [{ columns := [c.decl] }])

def TableKey.content (table : String) : TableKey → Content
  | primaryKey key => { primaryKeys := [key.names] }
  | unique key => { uniques := [key.names] }
  | foreignKey name key ref =>
    { foreignKeys := [⟨name, table, key.names, ref.target, ref.targetColumns⟩] }

def Item.content (table : String) : Item → Content
  | column c => c.content table
  | key k => k.content table

def Table.content (t : Table) : Content :=
  Content.concat (t.items.map (Item.content t.name))

/-- The table that is declared. If more than one primary key is written, it is the last. -/
def Table.decl (t : Table) : TableDecl :=
  ⟨t.name, t.columns.map Column.decl, t.content.primaryKeys.getLast?.getD [], t.content.uniques⟩

def Table.foreignKeys (t : Table) : List ForeignKeyDecl := t.content.foreignKeys

theorem Column.columns_content (table : String) (c : Column) :
    (c.content table).columns = [c.decl] := by
  have hclause : ∀ clause : ColumnClause, (clause.content table c.name).columns = [] := by
    intro clause
    cases clause <;> rfl
  simp [Column.content, Content.concat, List.flatMap_map, hclause]

theorem TableKey.columns_content (table : String) (k : TableKey) :
    (k.content table).columns = [] := by
  cases k <;> rfl

theorem Table.columns_content (t : Table) : t.content.columns = t.columns.map Column.decl := by
  have hkeys : t.keys.flatMap (fun _ => ([] : List ColumnDecl)) = [] := by simp
  rw [List.map_eq_flatMap]
  simp [Table.content, Content.concat, Table.items, List.flatMap_map, Item.content,
    Column.columns_content, TableKey.columns_content, hkeys]

/-! ## Created tables -/

/-- A column of a table that an engine creates, with the words of its type. -/
structure CreatedColumn where
  name : String
  type : List TypeWord
  primaryKey : Bool

def CreatedColumn.toDef (c : CreatedColumn) : ColumnDef := ⟨c.name, typeText c.type, c.primaryKey⟩

def CreatedColumn.column (c : CreatedColumn) : Column :=
  ⟨c.name, c.type, if c.primaryKey then [.primaryKey] else []⟩

def createdTable (name : String) (columns : List CreatedColumn) : Table :=
  ⟨name, columns.map CreatedColumn.column, []⟩

theorem CreatedColumn.text_column (c : CreatedColumn) : c.column.text = c.toDef.toSql := by
  unfold CreatedColumn.column CreatedColumn.toDef Column.text ColumnDef.toSql
  cases c.primaryKey <;> simp [ColumnClause.text]

theorem createTableSql_eq_scriptText (name : String) (columns : List CreatedColumn) :
    createTableSql name (columns.map CreatedColumn.toDef) =
      scriptText [createdTable name columns] := by
  have hitems : (columns.map CreatedColumn.toDef).map ColumnDef.toSql =
      (createdTable name columns).items.map Item.text := by
    simp [createdTable, Table.items, Item.text, Function.comp_def, CreatedColumn.text_column]
  show _ = "; ".intercalate [(createdTable name columns).text]
  rw [String.intercalate_singleton]
  exact congrArg (fun items => "CREATE TABLE " ++ quoteIdent name ++ " (" ++
    ", ".intercalate items ++ ")") hitems

/-- The type with which a column of some kind is created is a word. -/
theorem exists_typeText_eq_toSql (type : ColumnType) : ∃ words, typeText words = type.toSql := by
  cases type with
  | numeric =>
    exact ⟨[⟨⟨'R', ['E', 'A', 'L'], rfl, rfl, by decide +kernel⟩, []⟩], by decide +kernel⟩
  | string =>
    exact ⟨[⟨⟨'T', ['E', 'X', 'T'], rfl, rfl, by decide +kernel⟩, []⟩], by decide +kernel⟩
  | datetime =>
    exact ⟨[⟨⟨'T', ['I', 'M', 'E', 'S', 'T', 'A', 'M', 'P'], rfl, rfl, by decide +kernel⟩, []⟩],
      by decide +kernel⟩

/-! ## How the texts are read -/

theorem marks_blank : Marks " " [] := ⟨by decide, by decide, rfl⟩

theorem marks_comma : Marks ", " [.comma] := ⟨by decide, by decide, rfl⟩

theorem marks_open : Marks "(" [.lparen] := ⟨by decide, by decide, rfl⟩

theorem marks_close : Marks ")" [.rparen] := ⟨by decide, by decide, rfl⟩

/-- Two pieces with a blank between them. -/
theorem spells_blank {s s' : String} {ts ts' : List Token} (h : Spells s ts) (h' : Spells s' ts') :
    Spells (s ++ " " ++ s') (ts ++ ts') := by
  have hblank := h.append marks_blank h'
  rwa [List.append_nil] at hblank

theorem Word.spells (w : Word) : Spells w.text [.ident w.text] := by
  have hword := spells_word w.starts w.continues
  rwa [w.plain] at hword

theorem Number.spells (n : Number) : Spells n.text [.num n.text] := by
  have hrest := List.all_eq_true.mp n.continues
  intro rest h
  unfold Number.text
  rw [String.toList_ofList]
  split
  · exact tokens_negative n.starts hrest h
  · exact tokens_number n.starts hrest h

theorem TypeWord.spells (w : TypeWord) : Spells w.text w.tokens := by
  have hcomma : Marks "," [.comma] := ⟨by decide, by decide, rfl⟩
  have harguments := spells_intercalate hcomma Number.spells w.arguments
  unfold TypeWord.text TypeWord.tokens
  split
  · exact w.word.spells
  · exact (w.word.spells.append marks_open harguments).close marks_close

theorem intercalate_nil {α : Type} (xs : List (List α)) :
    ([] : List α).intercalate xs = xs.flatten := by
  induction xs with
  | nil => rfl
  | cons x xs ih =>
    cases xs with
    | nil => simp [List.intercalate]
    | cons y xs =>
      rw [List.intercalate_cons_cons, ih]
      simp

theorem spells_typeText (type : List TypeWord) :
    Spells (typeText type) (type.flatMap TypeWord.tokens) := by
  have htype := spells_intercalate marks_blank TypeWord.spells type
  rwa [intercalate_nil] at htype

theorem spells_namesText (names : List String) : Spells (namesText names) (namesTokens names) := by
  have hnames := spells_intercalate marks_comma spells_quoteIdent names
  exact (marks_open.append hnames).close marks_close

/-- Two keywords with a blank between them. -/
theorem spells_keywords {v w : Keyword} {s t phrase : String} (hv : (v, s) ∈ Keyword.spellings)
    (hw : (w, t) ∈ Keyword.spellings) (hphrase : s ++ " " ++ t = phrase) :
    Spells phrase [.keyword v, .keyword w] := by
  rw [← hphrase]
  exact spells_blank (spells_keyword hv) (spells_keyword hw)

theorem spells_primaryKey : Spells "PRIMARY KEY" [.keyword .primary, .keyword .key] :=
  spells_keywords (s := "PRIMARY") (t := "KEY") (by decide) (by decide) rfl

theorem Reference.spells (r : Reference) : Spells r.text r.tokens := by
  have hword : Spells "REFERENCES" [.keyword .references] := spells_keyword (by decide)
  have htarget := spells_blank hword (spells_quoteIdent r.target)
  unfold Reference.text Reference.tokens
  split
  · simpa using htarget
  · have hcolumns := spells_blank htarget (spells_namesText r.columns)
    rwa [String.append_assoc] at hcolumns

theorem ColumnClause.spells (clause : ColumnClause) : Spells clause.text clause.tokens := by
  cases clause with
  | notNull => exact spells_keywords (s := "NOT") (t := "NULL") (by decide) (by decide) rfl
  | unique => exact spells_keyword (by decide)
  | primaryKey => exact spells_primaryKey
  | references ref => exact ref.spells

theorem Column.spells (c : Column) : Spells c.text c.tokens := by
  have htype := spells_blank (spells_quoteIdent c.name) (spells_typeText c.type)
  obtain ⟨hclauses, hbreaks⟩ := spells_join marks_blank ColumnClause.spells c.clauses
  exact htype.append_of_breaks hclauses hbreaks

theorem TableKey.spells (k : TableKey) : Spells k.text k.tokens := by
  cases k with
  | primaryKey key =>
    show Spells ("PRIMARY KEY" ++ " " ++ namesText key.names) _
    exact spells_blank spells_primaryKey (spells_namesText key.names)
  | unique key =>
    have hword : Spells "UNIQUE" [.keyword .unique] := spells_keyword (by decide)
    show Spells ("UNIQUE" ++ " " ++ namesText key.names) _
    exact spells_blank hword (spells_namesText key.names)
  | foreignKey name key ref =>
    have hwords : Spells "FOREIGN KEY" [.keyword .foreign, .keyword .key] :=
      spells_keywords (s := "FOREIGN") (t := "KEY") (by decide) (by decide) rfl
    have hkey := spells_blank (spells_blank hwords (spells_namesText key.names)) ref.spells
    cases name with
    | none =>
      show Spells ("" ++ ("FOREIGN KEY" ++ " " ++ namesText key.names ++ " " ++ ref.text)) _
      rw [String.empty_append]
      exact hkey
    | some name =>
      have hword : Spells "CONSTRAINT" [.keyword .constraint] := spells_keyword (by decide)
      have hname := spells_blank hword (spells_quoteIdent name)
      show Spells ("CONSTRAINT" ++ " " ++ quoteIdent name ++ " " ++
        ("FOREIGN KEY" ++ " " ++ namesText key.names ++ " " ++ ref.text)) _
      exact spells_blank hname hkey

theorem Item.spells (i : Item) : Spells i.text i.tokens := by
  cases i with
  | column c => exact c.spells
  | key k => exact k.spells

theorem Table.spells (t : Table) : Spells t.text t.tokens := by
  have hopen : Marks " (" [.lparen] := ⟨by decide, by decide, rfl⟩
  have hwords : Spells "CREATE TABLE" [.keyword .create, .keyword .table] :=
    spells_keywords (s := "CREATE") (t := "TABLE") (by decide) (by decide) rfl
  have hname := spells_blank hwords (spells_quoteIdent t.name)
  have hitems := spells_intercalate marks_comma Item.spells t.items
  show Spells ("CREATE TABLE" ++ " " ++ quoteIdent t.name ++ " (" ++ _ ++ ")") _
  exact (hname.append hopen hitems).close marks_close

theorem tokens_scriptText (tables : List Table) :
    tokens (scriptText tables).toList =
      [Token.semicolon].intercalate (tables.map Table.tokens) := by
  have hsemicolon : Marks "; " [.semicolon] := ⟨by decide, by decide, rfl⟩
  exact (spells_intercalate hsemicolon Table.spells tables).tokens_eq

end KeyChart.Ddl.Written
