import KeyChart.Ddl.Lexer
import KeyChart.Ddl.Script

/-!
# Reading declarations

`CREATE TABLE` and `ALTER TABLE ... ADD FOREIGN KEY` are read; every other
statement is skipped up to its semicolon. The reader is lenient: whatever it
does not know inside a table body is passed over up to the next comma, and an
error arises only where a script ends inside parentheses or a reference names
no table.

Every reader takes the tokens before it and hands back those it has left, which
are never more.
-/

namespace KeyChart.Ddl

/-- Drops a keyword if it comes next. -/
def eat (word : Keyword) : List Token → List Token
  | .keyword w :: rest => if w = word then rest else .keyword w :: rest
  | ts => ts

/-- Drops a keyword if it comes next, and says whether it did. -/
def eat? (word : Keyword) : List Token → Option (List Token)
  | .keyword w :: rest => if w = word then some rest else none
  | _ => none

/-- An identifier, if one comes next. -/
def ident : List Token → Option String × List Token
  | .ident name :: rest => (some name, rest)
  | ts => (none, ts)

/-- `name` or `space.name`; only the last part counts. A dot must be followed
by another name. -/
def qualifiedName : List Token → Option String × List Token
  | .ident _ :: .dot :: rest => qualifiedName rest
  | .ident name :: rest => (some name, rest)
  | ts => (none, ts)

/-- The names up to the closing parenthesis; anything else in between, such as
a sort order, is passed over. -/
def columnNames : List Token → Except Fault (List String × List Token)
  | [] => .error .unexpectedEnd
  | .rparen :: rest => .ok ([], rest)
  | .ident name :: rest =>
    match columnNames rest with
    | .ok (names, left) => .ok (name :: names, left)
    | .error e => .error e
  | _ :: rest => columnNames rest

/-- A list of columns in parentheses, empty if there are no parentheses. -/
def columnList : List Token → Except Fault (List String × List Token)
  | .lparen :: rest => columnNames rest
  | ts => .ok ([], ts)

/-- The text inside a group in parentheses, and what follows the group; `depth`
counts the parentheses still open. A group that is not closed runs to the end. -/
def groupText (depth : Nat) : List Token → List String × List Token
  | [] => ([], [])
  | .lparen :: rest =>
    let (parts, left) := groupText (depth + 1) rest
    (if depth = 0 then parts else "(" :: parts, left)
  | .rparen :: rest =>
    if depth ≤ 1 then ([], rest)
    else
      let (parts, left) := groupText (depth - 1) rest
      (")" :: parts, left)
  | token :: rest =>
    let (parts, left) := groupText depth rest
    (match token with
      | .ident s | .num s => s :: parts
      | .comma => "," :: parts
      | _ => parts, left)

/-- What follows the rest of an item of a table body: its comma, or the
parenthesis that closes the body. -/
def skipItem (depth : Nat) : List Token → List Token
  | [] => []
  | .lparen :: rest => skipItem (depth + 1) rest
  | .rparen :: rest => if depth = 0 then .rparen :: rest else skipItem (depth - 1) rest
  | .comma :: rest => if depth = 0 then .comma :: rest else skipItem depth rest
  | _ :: rest => skipItem depth rest

/-- What follows the rest of a statement and its semicolon. -/
def skipStatement : List Token → List Token
  | [] => []
  | .semicolon :: rest => rest
  | _ :: rest => skipStatement rest

/-- `target (column, ...)`. A reference without columns is to the row identity. -/
def reference (ts : List Token) : Except Fault ((String × List String) × List Token) :=
  match qualifiedName ts with
  | (none, rest) => .error (.expectedTarget rest.head?)
  | (some target, rest) =>
    match columnList rest with
    | .error e => .error e
    | .ok (columns, rest) => .ok ((target, if columns.isEmpty then [rowId] else columns), rest)

/-! ## No reader hands back more than it was given -/

theorem length_eat_le (word : Keyword) (ts : List Token) : (eat word ts).length ≤ ts.length := by
  unfold eat
  split
  · split <;> simp
  · simp

theorem length_ident_le (ts : List Token) : (ident ts).2.length ≤ ts.length := by
  unfold ident
  split <;> simp

theorem length_qualifiedName_le (ts : List Token) :
    (qualifiedName ts).2.length ≤ ts.length := by
  fun_induction qualifiedName ts <;> simp_all
  omega

theorem length_of_columnNames {ts rest : List Token} {names : List String}
    (h : columnNames ts = .ok (names, rest)) : rest.length ≤ ts.length := by
  fun_induction columnNames ts generalizing names rest <;> simp_all <;> omega

theorem length_of_columnList {ts rest : List Token} {names : List String}
    (h : columnList ts = .ok (names, rest)) : rest.length ≤ ts.length := by
  unfold columnList at h
  split at h
  · have := length_of_columnNames h
    simp; omega
  · simp_all

theorem length_groupText_le (depth : Nat) (ts : List Token) :
    (groupText depth ts).2.length ≤ ts.length := by
  fun_induction groupText depth ts <;> simp_all <;> omega

theorem length_groupText_lparen_lt (ts : List Token) :
    (groupText 0 (.lparen :: ts)).2.length < (Token.lparen :: ts).length := by
  have := length_groupText_le 1 ts
  simp [groupText]; omega

theorem length_skipItem_le (depth : Nat) (ts : List Token) :
    (skipItem depth ts).length ≤ ts.length := by
  fun_induction skipItem depth ts <;> simp_all <;> omega

theorem length_skipStatement_le (ts : List Token) : (skipStatement ts).length ≤ ts.length := by
  fun_induction skipStatement ts <;> simp_all
  omega

theorem length_of_reference {ts rest : List Token} {r : String × List String}
    (h : reference ts = .ok (r, rest)) : rest.length ≤ ts.length := by
  unfold reference at h
  have hname := length_qualifiedName_le ts
  split at h
  case h_1 => simp at h
  case h_2 heq =>
    rw [heq] at hname
    split at h
    case h_1 => simp at h
    case h_2 hcols =>
      have := length_of_columnList hcols
      cases h
      simp at hname; omega

/-! ## Columns -/

/-- A table under construction, with the foreign keys declared in it so far. -/
structure Body where
  table : TableDecl
  foreignKeys : List ForeignKeyDecl := []

/-- Adds a foreign key of the table. -/
def Body.addForeignKey (body : Body) (name : Option String) (columns : List String)
    (target : String × List String) : Body :=
  { body with foreignKeys :=
      body.foreignKeys ++ [⟨name, body.table.name, columns, target.1, target.2⟩] }

/-- Sets the primary key of the table. -/
def Body.setPrimaryKey (body : Body) (columns : List String) : Body :=
  { body with table := { body.table with primaryKey := columns } }

/-- Adds a unique key of the table. -/
def Body.addUnique (body : Body) (columns : List String) : Body :=
  { body with table := { body.table with uniques := body.table.uniques ++ [columns] } }

/-- Adds a column of the table. -/
def Body.addColumn (body : Body) (column : ColumnDecl) : Body :=
  { body with table := { body.table with columns := body.table.columns ++ [column] } }

/-- The words of a type, each with its arguments in parentheses; `words` are
those before, the last one first. -/
def typeWords (words : List String) (ts : List Token) : List String × List Token :=
  match ts with
  | .ident word :: rest => typeWords (word :: words) rest
  | .lparen :: rest =>
    match words with
    | [] => ([], .lparen :: rest)
    | last :: before =>
      let group := groupText 0 (.lparen :: rest)
      typeWords ((last ++ "(" ++ String.join group.1 ++ ")") :: before) group.2
  | ts => (words.reverse, ts)
termination_by ts.length
decreasing_by
  · simp
  · exact length_groupText_lparen_lt rest

theorem length_typeWords_le (words : List String) (ts : List Token) :
    (typeWords words ts).2.length ≤ ts.length := by
  fun_induction typeWords words ts with
  | case1 => simp_all; omega
  | case2 => simp
  | case3 rest last before group ih =>
    have := length_groupText_lparen_lt rest
    exact Nat.le_trans ih (Nat.le_of_lt this)
  | case4 => simp

/-- The clauses that follow the type of a column, up to its comma or to the end
of the body. Each key clause is a key of this one column. -/
def columnClauses (body : Body) (column : ColumnDecl) (ts : List Token) :
    Except Fault ((Body × ColumnDecl) × List Token) :=
  match ts with
  | [] => .ok ((body, column), [])
  | .comma :: rest => .ok ((body, column), .comma :: rest)
  | .rparen :: rest => .ok ((body, column), .rparen :: rest)
  | .lparen :: rest => columnClauses body column (groupText 0 (.lparen :: rest)).2
  | .keyword .primary :: rest =>
    columnClauses (body.setPrimaryKey [column.name]) column (eat .key rest)
  | .keyword .unique :: rest =>
    columnClauses (body.addUnique [column.name]) column (eat .key rest)
  | .keyword .not :: .keyword .null :: rest =>
    columnClauses body { column with notNull := true } rest
  | .keyword .references :: rest =>
    match _h : reference rest with
    | .error e => .error e
    | .ok (target, left) =>
      columnClauses (body.addForeignKey none [column.name] target) column left
  | _ :: rest => columnClauses body column rest
termination_by ts.length
decreasing_by
  · exact length_groupText_lparen_lt rest
  · have := length_eat_le .key rest
    simp; omega
  · have := length_eat_le .key rest
    simp; omega
  · simp only [List.length_cons]; omega
  · have := length_of_reference _h
    simp; omega
  · simp

theorem length_of_columnClauses {body body' : Body} {column column' : ColumnDecl}
    {ts left : List Token} (h : columnClauses body column ts = .ok ((body', column'), left)) :
    left.length ≤ ts.length := by
  fun_induction columnClauses body column ts
  case case1 => simp_all
  case case2 => simp_all
  case case3 => simp_all
  case case4 rest ih =>
    have := length_groupText_lparen_lt rest
    have := ih h
    omega
  case case5 rest ih =>
    have := length_eat_le .key rest
    have := ih h
    simp; omega
  case case6 rest ih =>
    have := length_eat_le .key rest
    have := ih h
    simp; omega
  case case7 rest ih =>
    have := ih h
    simp; omega
  case case8 => simp_all
  case case9 rest target left' href ih =>
    have := length_of_reference href
    have := ih h
    simp; omega
  case case10 ih =>
    have := ih h
    simp; omega

/-- A column: its type and clauses, after its name. -/
def column (body : Body) (name : String) (ts : List Token) :
    Except Fault (Body × List Token) :=
  let type := typeWords [] ts
  let sqlType := " ".intercalate type.1
  match columnClauses body ⟨name, sqlType, ColumnType.ofSql sqlType, false⟩ type.2 with
  | .error e => .error e
  | .ok ((body, column), rest) => .ok (body.addColumn column, rest)

theorem length_of_column {body body' : Body} {name : String} {ts left : List Token}
    (h : column body name ts = .ok (body', left)) : left.length ≤ ts.length := by
  simp only [column] at h
  split at h
  case h_1 => simp at h
  case h_2 hclauses =>
    have := length_of_columnClauses hclauses
    have := length_typeWords_le [] ts
    cases h
    omega

/-! ## Tables -/

/-- A key of the table, from its first word on; a constraint of any other kind
is passed over. -/
def tableConstraint (body : Body) (name : Option String) (ts : List Token) :
    Except Fault (Body × List Token) :=
  match ts with
  | .keyword .primary :: rest =>
    match columnList (eat .key rest) with
    | .error e => .error e
    | .ok (columns, left) => .ok (body.setPrimaryKey columns, skipItem 0 left)
  | .keyword .unique :: rest =>
    match columnList (eat .key rest) with
    | .error e => .error e
    | .ok (columns, left) =>
      .ok (if columns.isEmpty then body else body.addUnique columns, skipItem 0 left)
  | .keyword .foreign :: rest =>
    match columnList (eat .key rest) with
    | .error e => .error e
    | .ok (columns, left) =>
      match eat? .references left with
      | none => .ok (body, skipItem 0 left)
      | some left =>
        match reference left with
        | .error e => .error e
        | .ok (target, left) => .ok (body.addForeignKey name columns target, skipItem 0 left)
  | ts => .ok (body, skipItem 0 ts)

theorem length_of_eat? {word : Keyword} {ts rest : List Token} (h : eat? word ts = some rest) :
    rest.length < ts.length := by
  unfold eat? at h
  split at h
  · split at h <;> simp_all
  · simp at h

/-- What follows the columns of a key is behind its first word. -/
theorem length_skipItem_of_columnList {ts left : List Token} {columns : List String}
    (h : columnList (eat .key ts) = .ok (columns, left)) :
    (skipItem 0 left).length ≤ ts.length :=
  calc (skipItem 0 left).length
    _ ≤ left.length := length_skipItem_le 0 left
    _ ≤ (eat .key ts).length := length_of_columnList h
    _ ≤ ts.length := length_eat_le .key ts

theorem length_of_tableConstraint_cons {body body' : Body} {name : Option String}
    {word : Keyword} {ts left : List Token}
    (h : tableConstraint body name (.keyword word :: ts) = .ok (body', left)) :
    left.length ≤ ts.length := by
  unfold tableConstraint at h
  split at h
  case h_1 rest heq =>
    cases heq
    split at h
    case h_1 => cases h
    case h_2 hcols =>
      cases h
      exact length_skipItem_of_columnList hcols
  case h_2 rest heq =>
    cases heq
    split at h
    case h_1 => cases h
    case h_2 hcols =>
      cases h
      exact length_skipItem_of_columnList hcols
  case h_3 rest heq =>
    cases heq
    split at h
    case h_1 => cases h
    case h_2 hcols =>
      split at h
      case h_1 =>
        cases h
        exact length_skipItem_of_columnList hcols
      case h_2 rest heat =>
        split at h
        case h_1 => cases h
        case h_2 target rest' href =>
          cases h
          have := length_eat_le .key ts
          have := length_of_columnList hcols
          have := length_of_eat? heat
          have := length_of_reference href
          have := length_skipItem_le 0 rest'
          omega
  case h_4 =>
    cases h
    exact length_skipItem_le 0 ts

theorem length_of_tableConstraint {body body' : Body} {name : Option String}
    {ts left : List Token} (h : tableConstraint body name ts = .ok (body', left)) :
    left.length ≤ ts.length := by
  by_cases hword : ∃ word rest, ts = .keyword word :: rest
  · obtain ⟨word, rest, rfl⟩ := hword
    exact Nat.le_succ_of_le (length_of_tableConstraint_cons h)
  · unfold tableConstraint at h
    split at h
    case h_4 =>
      cases h
      exact length_skipItem_le 0 ts
    all_goals exact absurd ⟨_, _, rfl⟩ hword

/-- The items of a table body, up to the parenthesis that closes it. -/
def tableItems (body : Body) (ts : List Token) : Except Fault (Body × List Token) :=
  match ts with
  | [] => .error .unexpectedEnd
  | .rparen :: rest => .ok (body, rest)
  | .keyword .constraint :: rest =>
    let name := ident rest
    match _h : tableConstraint body name.1 name.2 with
    | .error e => .error e
    | .ok (body, left) => tableItems body left
  | .keyword .index :: rest => tableItems body (skipItem 0 rest)
  | .keyword .key :: rest => tableItems body (skipItem 0 rest)
  | .keyword word :: rest =>
    if word ∈ [.primary, .unique, .foreign, .check] then
      match _h : tableConstraint body none (.keyword word :: rest) with
      | .error e => .error e
      | .ok (body, left) => tableItems body left
    else tableItems body rest
  | .ident name :: rest =>
    match _h : column body name rest with
    | .error e => .error e
    | .ok (body, left) => tableItems body left
  | _ :: rest => tableItems body rest
termination_by ts.length
decreasing_by
  · have := length_of_tableConstraint _h
    have := length_ident_le rest
    simp only [name] at *
    simp; omega
  · have := length_skipItem_le 0 rest
    simp; omega
  · have := length_skipItem_le 0 rest
    simp; omega
  · have := length_of_tableConstraint_cons _h
    simp; omega
  · simp
  · have := length_of_column _h
    simp; omega
  · simp

/-- A table body and the declarations in it; without parentheses nothing is
declared. -/
def tableBody (name : String) : List Token → Except Fault (Script × List Token)
  | .lparen :: rest =>
    match tableItems ⟨⟨name, [], [], []⟩, []⟩ rest with
    | .error e => .error e
    | .ok (body, left) => .ok (⟨[body.table], body.foreignKeys⟩, left)
  | ts => .ok ({}, ts)

/-! ## Statements -/

/-- What follows `CREATE`: a table, or anything else. -/
def createStatement (ts : List Token) : Except Fault (Script × List Token) :=
  match eat? .table ts with
  | none => .ok ({}, ts)
  | some rest =>
    let rest :=
      match eat? .ifWord rest with
      | some rest => eat .existsWord (eat .not rest)
      | none => rest
    match qualifiedName rest with
    | (some name, rest) => tableBody name rest
    | (none, rest) => .ok ({}, rest)

/-- What follows `ALTER`: a foreign key added to a table, or anything else. -/
def alterStatement (ts : List Token) : Except Fault (Script × List Token) :=
  match eat? .table ts with
  | none => .ok ({}, ts)
  | some rest =>
    match qualifiedName (eat .only rest) with
    | (none, rest) => .ok ({}, rest)
    | (some table, rest) =>
      match eat? .add rest with
      | none => .ok ({}, rest)
      | some rest =>
        let named : Option String × List Token :=
          match eat? .constraint rest with
          | some rest => ident rest
          | none => (none, rest)
        match eat? .foreign named.2 with
        | none => .ok ({}, named.2)
        | some rest =>
          match columnList (eat .key rest) with
          | .error e => .error e
          | .ok (columns, rest) =>
            match eat? .references rest with
            | none => .ok ({}, rest)
            | some rest =>
              match reference rest with
              | .error e => .error e
              | .ok (target, rest) =>
                .ok (⟨[], [⟨named.1, table, columns, target.1, target.2⟩]⟩, rest)

/-- One statement and its declarations, up to its semicolon. -/
def statement (ts : List Token) : Except Fault (Script × List Token) :=
  match ts with
  | .keyword .create :: rest =>
    match createStatement rest with
    | .error e => .error e
    | .ok (script, left) => .ok (script, skipStatement left)
  | .keyword .alter :: rest =>
    match alterStatement rest with
    | .error e => .error e
    | .ok (script, left) => .ok (script, skipStatement left)
  | ts => .ok ({}, skipStatement ts)

theorem length_of_tableItems {body body' : Body} {ts left : List Token}
    (h : tableItems body ts = .ok (body', left)) : left.length ≤ ts.length := by
  fun_induction tableItems body ts
  case case1 => simp at h
  case case2 => simp_all
  case case3 => simp_all
  case case4 rest name body left' hc ih =>
    have := length_of_tableConstraint hc
    have := length_ident_le rest
    have := ih h
    simp only [name] at *
    simp; omega
  case case5 rest ih =>
    have := length_skipItem_le 0 rest
    have := ih h
    simp; omega
  case case6 rest ih =>
    have := length_skipItem_le 0 rest
    have := ih h
    simp; omega
  case case7 => simp_all
  case case8 body left' hc ih =>
    have := length_of_tableConstraint_cons hc
    have := ih h
    simp; omega
  case case9 ih =>
    have := ih h
    simp; omega
  case case10 => simp_all
  case case11 rest body left' hc ih =>
    have := length_of_column hc
    have := ih h
    simp; omega
  case case12 ih =>
    have := ih h
    simp; omega

theorem length_of_tableBody {name : String} {ts left : List Token} {script : Script}
    (h : tableBody name ts = .ok (script, left)) : left.length ≤ ts.length := by
  unfold tableBody at h
  split at h
  · split at h
    case h_1 => simp at h
    case h_2 hitems =>
      have := length_of_tableItems hitems
      cases h
      simp; omega
  · simp_all

theorem length_of_createStatement {ts left : List Token} {script : Script}
    (h : createStatement ts = .ok (script, left)) : left.length ≤ ts.length := by
  unfold createStatement at h
  split at h
  case h_1 => simp_all
  case h_2 rest htable =>
    have := length_of_eat? htable
    have hif : (match eat? .ifWord rest with
        | some rest => eat .existsWord (eat .not rest)
        | none => rest).length ≤ rest.length := by
      split
      case h_1 rest' hword =>
        have := length_of_eat? hword
        have := length_eat_le .not rest'
        have := length_eat_le .existsWord (eat .not rest')
        omega
      case h_2 => exact Nat.le_refl _
    generalize (match eat? .ifWord rest with
        | some rest => eat .existsWord (eat .not rest)
        | none => rest) = body at h hif
    have hname := length_qualifiedName_le body
    simp only at h
    split at h
    case h_1 heq =>
      rw [heq] at hname
      have := length_of_tableBody h
      simp at hname; omega
    case h_2 heq =>
      rw [heq] at hname
      cases h
      simp at hname; omega

theorem length_of_alterStatement {ts left : List Token} {script : Script}
    (h : alterStatement ts = .ok (script, left)) : left.length ≤ ts.length := by
  unfold alterStatement at h
  split at h
  case h_1 => simp_all
  case h_2 rest htable =>
    have := length_of_eat? htable
    have := length_eat_le .only rest
    have hname := length_qualifiedName_le (eat .only rest)
    split at h
    case h_1 heq =>
      rw [heq] at hname
      cases h
      simp at hname; omega
    case h_2 table rest' heq =>
      rw [heq] at hname
      simp only at hname
      split at h
      case h_1 =>
        cases h
        omega
      case h_2 rest'' hadd =>
        have := length_of_eat? hadd
        have hnamed : (match eat? .constraint rest'' with
            | some rest => ident rest
            | none => ((none : Option String), rest'')).2.length ≤ rest''.length := by
          split
          case h_1 tail hword =>
            have := length_of_eat? hword
            have := length_ident_le tail
            omega
          case h_2 => exact Nat.le_refl _
        generalize (match eat? .constraint rest'' with
            | some rest => ident rest
            | none => ((none : Option String), rest'')) = named at h hnamed
        simp only at h
        split at h
        case h_1 =>
          cases h
          omega
        case h_2 tail hforeign =>
          have := length_of_eat? hforeign
          have := length_eat_le .key tail
          split at h
          case h_1 => simp at h
          case h_2 hcols =>
            have := length_of_columnList hcols
            split at h
            case h_1 =>
              cases h
              omega
            case h_2 hrefs =>
              have := length_of_eat? hrefs
              split at h
              case h_1 => simp at h
              case h_2 href =>
                have := length_of_reference href
                cases h
                omega

theorem length_of_statement {t : Token} {ts left : List Token} {script : Script}
    (h : statement (t :: ts) = .ok (script, left)) : left.length ≤ ts.length := by
  unfold statement at h
  split at h
  case h_1 rest heq =>
    cases heq
    split at h
    case h_1 => simp at h
    case h_2 left' hcreate =>
      have := length_of_createStatement hcreate
      have := length_skipStatement_le left'
      cases h
      omega
  case h_2 rest heq =>
    cases heq
    split at h
    case h_1 => simp at h
    case h_2 left' halter =>
      have := length_of_alterStatement halter
      have := length_skipStatement_le left'
      cases h
      omega
  case h_3 =>
    cases h
    have := length_skipStatement_le ts
    cases t <;> simp [skipStatement] <;> omega

/-- The declarations of a list of tokens. -/
def declarations (ts : List Token) : Except Fault Script :=
  match ts with
  | [] => .ok {}
  | t :: rest =>
    match _h : statement (t :: rest) with
    | .error e => .error e
    | .ok (script, left) =>
      match declarations left with
      | .error e => .error e
      | .ok more => .ok (script.append more)
termination_by ts.length
decreasing_by
  have := length_of_statement _h
  simp; omega

/-- Reads a script. -/
def parse (sql : String) : Except Fault Script :=
  declarations (tokens sql.toList)

end KeyChart.Ddl
