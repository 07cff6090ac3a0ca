import SqlShorthand.Connection
import SqlShorthand.Paging
import SqlShorthand.Template
import SqlShorthand.Command.Verb

/-!
# Session/Output — what a command gives

A result is decorated as its verb asks: rows through the template, a scalar put into it, or one of
two branches picked by it.
-/

namespace SqlShorthand

/-- A description of the record that a command with the flag MODEL stands for.  The clause filters
by the key, whose value is bound under the key's name. -/
structure ModelQuery where
  connection : ConnectionId
  table : String
  /-- The columns to select, none for all. -/
  columns : List String
  key : String
  clause : String
  params : Params
  deriving DecidableEq

/-- The statement that loads the record. -/
def ModelQuery.selectSql (m : ModelQuery) : String :=
  "SELECT " ++ (if m.columns.isEmpty then "*" else ", ".intercalate m.columns) ++ " FROM " ++
    m.table ++ " " ++ m.clause ++ " LIMIT 1"

/-- What a command gives. -/
inductive Output where
  | rows (rows : List Json)
  /-- The first row, if there is one. -/
  | row (row : Option Json)
  | paged (page : Paging.Page) (rows : List Json)
  | pagedText (page : Paging.Page) (text : String)
  | affected (n : Nat)
  | count (n : Int64)
  | bool (b : Bool)
  | id (n : Nat)
  | text (s : String)
  /-- SQL that was not run. -/
  | sql (s : String)
  | names (ns : List String)
  | keys (m : KeyMap)
  | key (s : String)
  | paging (p : Paging)
  | log (lines : List String)
  | debug (snapshots : List Snapshot)
  | model (m : ModelQuery)
  | lastError (message : Option String)
  | done

/-! ## As JSON -/

/-- A page as an object. -/
def Paging.Page.toJson (p : Paging.Page) : Json :=
  .obj
    [("rpp", .int p.rpp), ("page", .int p.page), ("next", .int p.next), ("prev", .int p.prev),
     ("offset", .int p.offset), ("next_string", .str p.nextLabel),
     ("prev_string", .str p.prevLabel)]

/-- Paging settings as an object. -/
def Paging.toJson (p : Paging) : Json :=
  .obj
    [("rpp", .int p.rpp), ("page", .int p.page), ("next_string", .ofString? p.nextLabel),
     ("prev_string", .ofString? p.prevLabel)]

/-- A value with its kind. -/
def Value.tagged : Value → Json
  | .null => .str "Null"
  | .bool b => .obj [("Bool", .bool b)]
  | .int n => .obj [("Int", .int n.toInt)]
  | .float x => .obj [("Float", .ofFloat x)]
  | .text s => .obj [("Text", .str s)]
  | .raw s => .obj [("Raw", .str s)]

/-- Values with their kinds. -/
def Params.tagged : Params → Json
  | .none => .str "None"
  | .named r => .obj [("Named", .arr (r.fields.map fun (name, v) => .arr [.str name, v.tagged]))]
  | .positional vs => .obj [("Positional", .arr (vs.map Value.tagged))]

/-- A model as an object. -/
def ModelQuery.toJson (m : ModelQuery) : Json :=
  .obj
    [("connection_id", .int m.connection.toNat), ("table", .str m.table),
     ("columns", .ofStrings m.columns), ("key", .str m.key), ("clause", .str m.clause),
     ("params", m.params.tagged)]

namespace Output

/-- The result as JSON, without a mark of its kind. -/
def toJson : Output → Json
  | rows rs => .arr rs
  | row r => r.getD .null
  | paged page rs => .obj [("pagination", page.toJson), ("rows", .arr rs)]
  | pagedText page s => .obj [("pagination", page.toJson), ("rows", .str s)]
  | affected n | id n => .int n
  | count n => .int n.toInt
  | bool b => .bool b
  | text s | sql s | key s => .str s
  | names ns | log ns => .ofStrings ns
  | keys m => m.toJson
  | paging p => p.toJson
  | debug ss => .arr (ss.map Snapshot.toJson)
  | model m => m.toJson
  | lastError message => .ofString? message
  | done => .null

/-- The rows of a result with rows. -/
def rows? : Output → Option (List Json)
  | rows rs | paged _ rs => some rs
  | _ => none

/-- Whether this is what a failed command gives when its error is held back. -/
def isFailure : Output → Bool
  | bool false => true
  | _ => false

/-! ## Decoration -/

/-- What a scalar decoration sees of a result. -/
def scalarView? : Output → Option Json
  | rows rs | paged _ rs => some (.arr rs)
  | row r => some (r.getD .null)
  | affected n | id n => some (.int n)
  | count n => some (.int n.toInt)
  | bool b => some (.bool b)
  | done => some (.bool true)
  | text s | sql s => some (.str s)
  | lastError message => some (.ofString? message)
  | _ => none

/-- Rows through the template; other results stay. -/
def decorateData (d : Decorator) : Output → Output
  | rows rs => text (Template.renderData d.template d.filters (.arr rs))
  | row (some r) => text (Template.renderData d.template d.filters r)
  | row none => text ""
  | paged page rs => pagedText page (Template.renderData d.template d.filters (.arr rs))
  | o => o

/-- A scalar put into the template; results without one stay. -/
def decorateScalar (d : Decorator) (o : Output) : Output :=
  match o.scalarView? with
  | some v => text (Template.renderScalar d.template d.filters v)
  | none => o

/-- The branch of the template that the result picks; results without a scalar stay. -/
def decorateTest (d : Decorator) (o : Output) : Output :=
  match o.scalarView? with
  | some v => text (Template.renderTest d.template v)
  | none => o

/-- Whether the result has rows. -/
def hasRows : Output → Bool
  | rows _ | row _ | paged _ _ => true
  | _ => false

/-- The result of a verb through a template. -/
def decorate (d : Decorator) (verb : Option Verb) (o : Output) : Output :=
  match verb with
  | none | some .callRows => o.decorateData d
  | some .query =>
    if o.hasRows then o.decorateData d
    else if Template.isTest d.template then o.decorateTest d
    else o.decorateScalar d
  | some .errorLast => o.decorateScalar d
  | some .insert | some .replace | some .logHandler | some .update | some .delete | some .call
  | some .callAffected | some .count | some .exists | some .id | some .error => o.decorateTest d
  | some _ => o

end Output

end SqlShorthand
