import PatchForge.Json.Value
import PatchForge.Misuse
import PatchForge.Text.Terminal

/-!
# What the console shows

Notices are lines with a colour; a symbol before the text marks some of
them. A panel is a block under a title. On a plain terminal the colour is
dropped, with it the terminal codes that a text brings along, and a panel
is framed by dashes.
-/

namespace PatchForge

/-- Marks before a notice. -/
def symbols : List (String × String) :=
  [("success", "✨"), ("sparkles", "✨"), ("running", "🚀"), ("gear", "⚙️"), ("info", "💡"),
   ("warning", "⚠️"), ("error", "❌"), ("check", "✅"), ("list", "📋"), ("hammer", "🔨"),
   ("link", "🔗"), ("folder", "📁")]

/-- A line for the console. -/
structure Notice where
  text : String
  colour : String
  bold : Bool
  deriving DecidableEq, Repr, Inhabited

namespace Notice

/-- The text with the mark of a symbol before it, if there is such a symbol. -/
def marked (symbol : Option String) (text : String) : String :=
  match symbol.bind fun name => List.lookup name symbols with
  | some mark => mark ++ " " ++ text
  | none => text

/-- The style that the colour and the weight make. -/
def style (n : Notice) : String :=
  if n.bold then "bold " ++ n.colour else n.colour

/-- A line in a colour of its own. -/
def plain (text : String) (symbol : Option String) (colour : String) (bold : Bool) : Notice :=
  ⟨marked symbol text, colour, bold⟩

def success (text : String) (symbol : Option String) : Notice := ⟨marked symbol text, "green", true⟩

def error (text : String) (symbol : Option String) : Notice := ⟨marked symbol text, "red", false⟩

def warning (text : String) (symbol : Option String) : Notice :=
  ⟨marked symbol text, "yellow", false⟩

def info (text : String) (symbol : Option String) : Notice := ⟨marked symbol text, "blue", false⟩

/-- The notice on a plain terminal. -/
def shown (n : Notice) : String := Text.plain n.text

end Notice

/-- A block of text under a title. -/
structure Panel where
  content : String
  title : Option String
  border : String
  deriving DecidableEq, Repr, Inhabited

/-- The lines of a panel on a plain terminal; an empty title is no title. The dashes at the end are
as many as the title with its codes asks for. -/
def Panel.lines (p : Panel) : List String :=
  let content := Text.plain p.content
  match p.title with
  | none => [content]
  | some title =>
    if title = "" then [content]
    else
      [Text.plain ("\n--- " ++ title ++ " ---"), content,
        String.ofList (List.replicate (title.length + 8) '-')]

/-! ## Tables of modules -/

/-- A table: its title, its header and its rows. -/
structure Table where
  title : String
  header : List String
  rows : List (List String)
  deriving DecidableEq, Repr, Inhabited

/-- The text of a cell; a table shows texts alone, and nothing for null. -/
def Table.cell : Json → Except Misuse String
  | .null => .ok ""
  | .str s => .ok s
  | v => .error (.tabled v.kind)

/-- A table of modules; short rows are filled up with empty cells. -/
def Table.ofRows (title : String) (rows : List (List String)) : Table :=
  let header := ["Module", "Exports", "Requires", "Optional", "Extension Points"]
  let fill (row : List String) := row ++ List.replicate (header.length - row.length) ""
  ⟨"📋 " ++ title, header, rows.map fill⟩

/-- The number of columns: as many as the longest line has cells. -/
def Table.width (t : Table) : Nat :=
  t.rows.foldl (fun n row => max n row.length) t.header.length

/-- The columns of a table, each led by its header, which is empty beyond the known ones. -/
def Table.columns (t : Table) : List (List String) :=
  (List.range t.width).map fun i => (t.header :: t.rows).map fun cells => cells[i]?.getD ""

/-- The lines of a table on a plain terminal, cells parted by tabs. -/
def Table.lines (t : Table) : List String :=
  t.title :: (t.header :: t.rows).map fun row => "\t".intercalate row

end PatchForge
