import KeyChart.Ddl.Parser
import KeyChart.Proofs.Ddl.Written

/-!
# Written declarations are read back

Every reader hands back the tokens that follow the piece it reads, so that a list of
pieces is read by reading the first one and then the rest. What follows a piece matters:
a reference without columns must not be followed by a parenthesis, and a unique clause not
by `KEY`.
-/

namespace KeyChart.Ddl

open Written (Content ColumnClause)

/-! ## Tables under construction -/

/-- Adds what a piece declares to a table under construction. -/
def Body.add (body : Body) (c : Content) : Body where
  table :=
    { body.table with
      columns := body.table.columns ++ c.columns
      primaryKey := c.primaryKeys.getLast?.getD body.table.primaryKey
      uniques := body.table.uniques ++ c.uniques }
  foreignKeys := body.foreignKeys ++ c.foreignKeys

@[simp] theorem Body.name_add (body : Body) (c : Content) :
    (body.add c).table.name = body.table.name := rfl

@[simp] theorem Body.add_concat_nil (body : Body) : body.add (Content.concat []) = body := by
  simp [Body.add, Content.concat]

@[simp] theorem Body.add_concat_cons (body : Body) (c : Content) (cs : List Content) :
    body.add (Content.concat (c :: cs)) = (body.add c).add (Content.concat cs) := by
  simp [Body.add, Content.concat]

theorem Body.add_concat_append (body : Body) (cs ds : List Content) :
    body.add (Content.concat (cs ++ ds)) =
      (body.add (Content.concat cs)).add (Content.concat ds) := by
  induction cs generalizing body with
  | nil => simp
  | cons c cs ih => simp [ih]

/-- What clauses change in their column itself. -/
def ColumnDecl.withClauses (column : ColumnDecl) (clauses : List ColumnClause) : ColumnDecl :=
  { column with notNull := column.notNull || decide (.notNull ∈ clauses) }

namespace Written

/-! ## What may follow a piece -/

/-- What follows an item of a table: its comma, or the parenthesis behind the last one. -/
inductive EndsItem : List Token → Prop where
  | comma (rest : List Token) : EndsItem (.comma :: rest)
  | close (rest : List Token) : EndsItem (.rparen :: rest)

/-- What follows a type, a clause or a list of columns. -/
inductive EndsPiece : List Token → Prop where
  | item {ts : List Token} (h : EndsItem ts) : EndsPiece ts
  | keyword {word : Keyword} (h : word ≠ .key) (rest : List Token) :
    EndsPiece (.keyword word :: rest)

variable {rest : List Token}

theorem skipItem_of_endsItem (h : EndsItem rest) : skipItem 0 rest = rest := by
  cases h <;> rfl

theorem eat_key_of_endsPiece (h : EndsPiece rest) : eat .key rest = rest := by
  cases h with
  | item h => cases h <;> rfl
  | keyword hword rest => simp [eat, hword]

theorem columnList_of_endsPiece (h : EndsPiece rest) : columnList rest = .ok ([], rest) := by
  cases h with
  | item h => cases h <;> rfl
  | keyword => rfl

theorem head?_ne_dot_of_endsPiece (h : EndsPiece rest) : rest.head? ≠ some .dot := by
  cases h with
  | item h => cases h <;> simp
  | keyword => simp

theorem endsPiece_clauses (clauses : List ColumnClause) (h : EndsItem rest) :
    EndsPiece (clauses.flatMap ColumnClause.tokens ++ rest) := by
  cases clauses with
  | nil => exact .item h
  | cons clause clauses =>
    cases clause <;> exact .keyword (by decide) _

/-! ## Names and references -/

theorem intercalate_cons_cons (t : Token) (x y : List Token) (xs : List (List Token)) :
    [t].intercalate (x :: y :: xs) = x ++ t :: [t].intercalate (y :: xs) := by
  rw [List.intercalate_cons_cons, List.append_assoc, List.singleton_append]

theorem columnNames_names (names : List String) (rest : List Token) :
    columnNames ([Token.comma].intercalate (names.map fun name => [.ident name]) ++
      .rparen :: rest) = .ok (names, rest) := by
  induction names with
  | nil => rfl
  | cons name names ih =>
    cases names with
    | nil => rfl
    | cons next names =>
      simp only [List.map_cons, List.intercalate_cons_cons, List.cons_append, List.nil_append,
        columnNames] at ih ⊢
      rw [ih]

theorem columnList_names (names : List String) (rest : List Token) :
    columnList (namesTokens names ++ rest) = .ok (names, rest) := by
  have hnames := columnNames_names names rest
  simpa [namesTokens, columnList] using hnames

theorem qualifiedName_ident {name : String} (h : rest.head? ≠ some .dot) :
    qualifiedName (.ident name :: rest) = (some name, rest) := by
  cases rest with
  | nil => rfl
  | cons t rest =>
    cases t with
    | dot => exact absurd rfl h
    | _ => rfl

/-- What follows the keyword of a reference. -/
theorem reference_tokens (r : Reference) (h : EndsPiece rest) :
    reference (r.tokens.tail ++ rest) = .ok ((r.target, r.targetColumns), rest) := by
  unfold Reference.tokens Reference.targetColumns
  by_cases hcolumns : r.columns.isEmpty
  · have hdot := head?_ne_dot_of_endsPiece h
    simp [hcolumns, reference, qualifiedName_ident hdot, columnList_of_endsPiece h]
  · have hdot : (namesTokens r.columns ++ rest).head? ≠ some .dot := by simp [namesTokens]
    simp [hcolumns, reference, qualifiedName_ident hdot, columnList_names]

/-! ## Types -/

/-- The numbers behind a word of a type are read up to their parenthesis, with nothing
between them but the commas. -/
theorem groupText_numbers (numbers : List Number) (rest : List Token) :
    (groupText 1 ([Token.comma].intercalate (numbers.map fun n => [.num n.text]) ++
        .rparen :: rest)).2 = rest ∧
      String.join (groupText 1 ([Token.comma].intercalate (numbers.map fun n => [.num n.text]) ++
        .rparen :: rest)).1 = ",".intercalate (numbers.map Number.text) := by
  induction numbers with
  | nil => exact ⟨rfl, rfl⟩
  | cons n numbers ih =>
    cases numbers with
    | nil => simp [groupText, List.intercalate]
    | cons next numbers =>
      obtain ⟨hrest, htext⟩ := ih
      simp only [List.map_cons, List.intercalate_cons_cons, String.intercalate_cons_cons,
        List.cons_append, List.nil_append, groupText, String.join_cons] at hrest htext ⊢
      rw [hrest, htext, String.append_assoc]
      exact ⟨rfl, rfl⟩

theorem typeWords_word (words : List String) (w : TypeWord) (rest : List Token) :
    typeWords words (w.tokens ++ rest) = typeWords (w.text :: words) rest := by
  obtain ⟨hrest, htext⟩ := groupText_numbers w.arguments rest
  unfold TypeWord.tokens TypeWord.text
  split
  · simp [typeWords]
  · simp [typeWords, groupText, hrest, htext]

theorem typeWords_type (words : List String) (type : List TypeWord) (h : EndsPiece rest) :
    typeWords words (type.flatMap TypeWord.tokens ++ rest) =
      (words.reverse ++ type.map TypeWord.text, rest) := by
  induction type generalizing words with
  | nil =>
    cases h with
    | item h => cases h <;> simp [typeWords]
    | keyword => simp [typeWords]
  | cons w type ih =>
    rw [List.flatMap_cons, List.append_assoc, typeWords_word, ih]
    simp

/-! ## Columns -/

theorem columnClauses_references {body : Body} {column : ColumnDecl} {ts left : List Token}
    {target : String × List String} (h : reference ts = .ok (target, left)) :
    columnClauses body column (.keyword .references :: ts) =
      columnClauses (body.addForeignKey none [column.name] target) column left := by
  rw [columnClauses]
  split <;> simp_all

theorem columnClauses_clause (body : Body) (column : ColumnDecl) (clause : ColumnClause)
    (h : EndsPiece rest) :
    columnClauses body column (clause.tokens ++ rest) =
      columnClauses (body.add (clause.content body.table.name column.name))
        (column.withClauses [clause]) rest := by
  cases clause with
  | notNull =>
    show columnClauses body column (.keyword .not :: .keyword .null :: rest) = _
    rw [columnClauses]
    simp [ColumnClause.content, Body.add, ColumnDecl.withClauses]
  | unique =>
    show columnClauses body column (.keyword .unique :: rest) = _
    rw [columnClauses, eat_key_of_endsPiece h]
    simp [ColumnClause.content, Body.add, Body.addUnique, ColumnDecl.withClauses]
  | primaryKey =>
    show columnClauses body column (.keyword .primary :: .keyword .key :: rest) = _
    rw [columnClauses]
    simp [ColumnClause.content, Body.add, Body.setPrimaryKey, ColumnDecl.withClauses, eat]
  | references ref =>
    have href := reference_tokens ref h
    show columnClauses body column (.keyword .references :: (ref.tokens.tail ++ rest)) = _
    rw [columnClauses_references href]
    simp [ColumnClause.content, Body.add, Body.addForeignKey, ColumnDecl.withClauses]

/-- All clauses of a column are read, one after the other. The readers carry the table under
construction along, so the induction is for any table and any clauses read before. -/
theorem columnClauses_clauses (body : Body) (column : ColumnDecl) (clauses : List ColumnClause)
    (h : EndsItem rest) :
    columnClauses body column (clauses.flatMap ColumnClause.tokens ++ rest) =
      .ok ((body.add (.concat (clauses.map (ColumnClause.content body.table.name column.name))),
        column.withClauses clauses), rest) := by
  induction clauses generalizing body column with
  | nil =>
    cases h <;> simp [columnClauses, ColumnDecl.withClauses]
  | cons clause clauses ih =>
    rw [List.flatMap_cons, List.append_assoc,
      columnClauses_clause _ _ _ (endsPiece_clauses clauses h), ih]
    simp [ColumnDecl.withClauses, Bool.or_assoc, eq_comm]

theorem column_tokens (body : Body) (c : Column) (h : EndsItem rest) :
    column body c.name (c.tokens.tail ++ rest) =
      .ok (body.add (c.content body.table.name), rest) := by
  have htokens : c.tokens.tail ++ rest =
      c.type.flatMap TypeWord.tokens ++ (c.clauses.flatMap ColumnClause.tokens ++ rest) := by
    simp [Column.tokens]
  have htype := typeWords_type [] c.type (endsPiece_clauses c.clauses h)
  unfold column
  rw [htokens, htype]
  simp only [columnClauses_clauses _ _ _ h, List.reverse_nil, List.nil_append]
  -- The column itself is added behind what its clauses declare.
  rw [Column.content, Body.add_concat_append, Body.add_concat_cons, Body.add_concat_nil]
  simp [Body.add, Body.addColumn, ColumnDecl.withClauses, Column.decl, typeText]

/-! ## Tables -/

section
variable {body body' : Body} {ts left : List Token}

theorem tableItems_comma : tableItems body (.comma :: ts) = tableItems body ts := by
  rw [tableItems] <;> simp

theorem tableItems_keyword {word : Keyword} (hword : word ∈ [.primary, .unique, .foreign, .check])
    (h : tableConstraint body none (.keyword word :: ts) = .ok (body', left)) :
    tableItems body (.keyword word :: ts) = tableItems body' left := by
  rw [tableItems, if_pos hword]
  · split <;> simp_all
  all_goals
    rintro rfl
    exact absurd hword (by decide)

theorem tableItems_constraint
    (h : tableConstraint body (ident ts).1 (ident ts).2 = .ok (body', left)) :
    tableItems body (.keyword .constraint :: ts) = tableItems body' left := by
  rw [tableItems]
  split <;> simp_all

theorem tableItems_ident {name : String} (h : column body name ts = .ok (body', left)) :
    tableItems body (.ident name :: ts) = tableItems body' left := by
  rw [tableItems]
  split <;> simp_all

end

theorem tableConstraint_primaryKey (body : Body) (key : KeyColumns) (h : EndsItem rest) :
    tableConstraint body none
        (.keyword .primary :: .keyword .key :: (namesTokens key.names ++ rest)) =
      .ok (body.add ((TableKey.primaryKey key).content body.table.name), rest) := by
  simp [tableConstraint, eat, columnList_names, skipItem_of_endsItem h, TableKey.content, Body.add,
    Body.setPrimaryKey]

theorem tableConstraint_unique (body : Body) (key : KeyColumns) (h : EndsItem rest) :
    tableConstraint body none (.keyword .unique :: (namesTokens key.names ++ rest)) =
      .ok (body.add ((TableKey.unique key).content body.table.name), rest) := by
  have heat : eat .key (namesTokens key.names ++ rest) = namesTokens key.names ++ rest := rfl
  simp [tableConstraint, heat, columnList_names, skipItem_of_endsItem h, TableKey.content, Body.add,
    Body.addUnique, key.nonempty]

theorem tableConstraint_foreignKey (body : Body) (name : Option String) (key : KeyColumns)
    (ref : Reference) (h : EndsItem rest) :
    tableConstraint body name
        (.keyword .foreign :: .keyword .key :: (namesTokens key.names ++ (ref.tokens ++ rest))) =
      .ok (body.add ((TableKey.foreignKey name key ref).content body.table.name), rest) := by
  have href : eat? .references (ref.tokens ++ rest) = some (ref.tokens.tail ++ rest) := rfl
  simp [tableConstraint, eat, columnList_names, href, reference_tokens ref (.item h),
    skipItem_of_endsItem h, TableKey.content, Body.add, Body.addForeignKey]

theorem tableItems_item (body : Body) (i : Item) (h : EndsItem rest) :
    tableItems body (i.tokens ++ rest) =
      tableItems (body.add (i.content body.table.name)) rest := by
  cases i with
  | column c => exact tableItems_ident (column_tokens body c h)
  | key k =>
    cases k with
    | primaryKey key =>
      exact tableItems_keyword (by decide) (tableConstraint_primaryKey body key h)
    | unique key =>
      show tableItems body (.keyword .unique :: (namesTokens key.names ++ rest)) = _
      exact tableItems_keyword (by decide) (tableConstraint_unique body key h)
    | foreignKey name key ref =>
      have htokens : (Item.key (.foreignKey name key ref)).tokens ++ rest =
          constraintTokens name ++ (.keyword .foreign :: .keyword .key ::
            (namesTokens key.names ++ (ref.tokens ++ rest))) := by
        simp [Item.tokens, TableKey.tokens]
      have hkey := tableConstraint_foreignKey body name key ref h
      rw [htokens]
      cases name with
      | none => exact tableItems_keyword (by decide) hkey
      | some name => exact tableItems_constraint hkey

/-- What stands between the parentheses of a table is read item by item. -/
theorem tableItems_items (body : Body) (items : List Item) (rest : List Token) :
    tableItems body ([Token.comma].intercalate (items.map Item.tokens) ++ .rparen :: rest) =
      .ok (body.add (Content.concat (items.map (Item.content body.table.name))), rest) := by
  induction items generalizing body with
  | nil => simp [tableItems]
  | cons i items ih =>
    cases items with
    | nil =>
      rw [List.map_singleton, List.intercalate_singleton, tableItems_item body i (.close rest),
        tableItems]
      simp
    | cons next items =>
      rw [List.map_cons, List.map_cons, intercalate_cons_cons, List.append_assoc, List.cons_append,
        tableItems_item body i (.comma _), tableItems_comma, ← List.map_cons, ih]
      simp

theorem createStatement_table (t : Table) (rest : List Token) :
    createStatement (t.tokens.tail ++ rest) = .ok (⟨[t.decl], t.foreignKeys⟩, rest) := by
  have htokens : t.tokens.tail ++ rest = .keyword .table :: .ident t.name :: .lparen ::
      ([Token.comma].intercalate (t.items.map Item.tokens) ++ .rparen :: rest) := by
    simp [Table.tokens]
  have hitems : tableItems ⟨⟨t.name, [], [], []⟩, []⟩
      ([Token.comma].intercalate (t.items.map Item.tokens) ++ .rparen :: rest) =
        .ok (Body.add ⟨⟨t.name, [], [], []⟩, []⟩ t.content, rest) :=
    tableItems_items _ t.items rest
  rw [htokens]
  simp only [createStatement, eat?, qualifiedName, tableBody, hitems, if_true]
  simp [Body.add, Table.decl, Table.foreignKeys, Table.columns_content]

/-! ## Scripts -/

theorem statement_table (t : Table) (rest : List Token) :
    statement (t.tokens ++ rest) = .ok (⟨[t.decl], t.foreignKeys⟩, skipStatement rest) := by
  have htable := createStatement_table t rest
  show statement (.keyword .create :: (t.tokens.tail ++ rest)) = _
  unfold statement
  simp only [htable]

theorem declarations_of_statement {t : Token} {ts left : List Token} {script : Script}
    (h : statement (t :: ts) = .ok (script, left)) :
    declarations (t :: ts) = (declarations left).map script.append := by
  rw [declarations]
  split
  case h_1 => simp_all
  case h_2 hok =>
    rw [h, Except.ok.injEq, Prod.mk.injEq] at hok
    rw [← hok.1, ← hok.2]
    cases declarations left <;> rfl

/-- A table is read, and then what follows it. -/
theorem declarations_table (t : Table) (rest : List Token) :
    declarations (t.tokens ++ rest) =
      (declarations (skipStatement rest)).map (Script.append ⟨[t.decl], t.foreignKeys⟩) := by
  have htokens : t.tokens ++ rest = .keyword .create :: (t.tokens.tail ++ rest) := rfl
  have htable := statement_table t rest
  rw [htokens] at htable ⊢
  exact declarations_of_statement htable

theorem declarations_tables (tables : List Table) :
    declarations ([Token.semicolon].intercalate (tables.map Table.tokens)) =
      .ok ⟨tables.map Table.decl, tables.flatMap Table.foreignKeys⟩ := by
  induction tables with
  | nil => simp [declarations]
  | cons t tables ih =>
    cases tables with
    | nil =>
      have htable := declarations_table t []
      simpa [skipStatement, declarations, Script.append, Except.map] using htable
    | cons next tables =>
      rw [List.map_cons, List.map_cons, intercalate_cons_cons, declarations_table, skipStatement,
        ← List.map_cons, ih]
      simp [Except.map, Script.append]

/-- Written tables are read as what they declare, whatever their names are. -/
theorem parse_scriptText (tables : List Table) :
    parse (scriptText tables) = .ok ⟨tables.map Table.decl, tables.flatMap Table.foreignKeys⟩ := by
  unfold parse
  rw [tokens_scriptText, declarations_tables]

/-- A script of written tables is read as what they declare. The statement that creates a
table is the text of a written table if its types are written as words, and those of every
kind of column are. -/
theorem parse_written (tables : List Table) (name : String) (columns : List CreatedColumn)
    (type : ColumnType) :
    parse (scriptText tables) = .ok ⟨tables.map Table.decl, tables.flatMap Table.foreignKeys⟩ ∧
      createTableSql name (columns.map CreatedColumn.toDef) =
        scriptText [createdTable name columns] ∧
      ∃ words, typeText words = type.toSql :=
  ⟨parse_scriptText tables, createTableSql_eq_scriptText name columns,
    exists_typeText_eq_toSql type⟩

example :
    scriptText [⟨"a\"b", [⟨"key", [⟨⟨'i', ['n', 't'], rfl, rfl, by decide +kernel⟩, []⟩],
      [.notNull, .references ⟨"c", []⟩]⟩], [.unique ⟨["key"], by simp⟩]⟩] =
      "CREATE TABLE \"a\"\"b\" (\"key\" int NOT NULL REFERENCES \"c\", UNIQUE (\"key\"))" := by
  decide +kernel

end Written

end KeyChart.Ddl
