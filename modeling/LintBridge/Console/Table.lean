import LintBridge.Console.Markup
import LintBridge.Console.Wrap
/-!
What a terminal writes: texts with tags on lines of their own, and tables of such texts. A
table has a title, a row of headings over a heavy line, and rows of cells, with a light line
between two columns. Columns are as wide as their texts want; if the table does not fit the
terminal, the widest columns give way first.
-/
namespace LintBridge.Console

open Text (cells isBlank)

/-- The sum of widths. -/
def total (widths : List Nat) : Nat := widths.foldl (· + ·) 0

structure Heading where
  text : String
  justify : Justify
  deriving DecidableEq, Repr

structure Table where
  title : String
  headings : List Heading
  rows : List (List String)
  deriving DecidableEq, Repr

/-- Characters that end a line when widths are measured. -/
def isLineEnd (c : Char) : Bool :=
  let n := c.toNat
  (10 ≤ n && n ≤ 13) || (28 ≤ n && n ≤ 30) || n = 133 || n = 8232 || n = 8233

/-- The width that a shown text wants. -/
def wantedWidth (s : List Char) : Nat :=
  let lines := Text.split '\n' (s.map fun c => if isLineEnd c then '\n' else c)
  (lines.map cells).foldl max 0

/-- Half of an odd number goes to the even neighbour. -/
def divideToEven (n d : Nat) : Nat :=
  let q := n / d
  let r := n % d
  if 2 * r < d then q else if d < 2 * r then q + 1 else if q % 2 = 0 then q else q + 1

/-- A width and how it may shrink: its share of the excess, and by how much at most. -/
structure Slot where
  width : Nat
  share : Nat
  most : Nat
  deriving DecidableEq, Repr

/-- Take an excess off widths according to their shares, from left to right. -/
def reduce (excess shares : Nat) : List Slot → List Nat
  | [] => []
  | slot :: rest =>
    if slot.share = 0 || shares = 0 then slot.width :: reduce excess shares rest
    else
      let part := min slot.most (divideToEven (slot.share * excess) shares)
      (slot.width - part) :: reduce (excess - part) (shares - slot.share) rest

def reduced (excess : Nat) (slots : List Slot) : List Nat :=
  let slots := slots.map fun s => if s.most = 0 then { s with share := 0 } else s
  reduce excess (total (slots.map Slot.share)) slots

/-- Bring the widest columns down to the next widest until the table fits, so many times at
most. -/
def collapseFuel (limit : Nat) : Nat → List Nat → List Nat
  | 0, widths => widths
  | fuel + 1, widths =>
    let excess := total widths - limit
    let widest := widths.foldl max 0
    let second := (widths.filter (· ≠ widest)).foldl max 0
    if excess = 0 || widest = second then widths
    else
      let most := min excess (widest - second)
      collapseFuel limit fuel (reduced excess (widths.map fun w =>
        ⟨w, if w = widest then 1 else 0, most⟩))

/-- The widths of columns in a table of limited width. -/
def collapsed (limit : Nat) (widths : List Nat) : List Nat :=
  let collapsed := collapseFuel limit (total widths + 1) widths
  if total collapsed ≤ limit then collapsed
  else reduced (total collapsed - limit) (collapsed.map fun w => ⟨w, 1, w⟩)

namespace Table

/-- The cells between the text and a column's edges, on both sides together. -/
def padding : Nat := 2

/-- The shown texts of a column. -/
def column (rows : List (List (List Char))) (i : Nat) : List (List Char) :=
  rows.map fun row => row.getD i []

/-- The widths of all columns with their padding. -/
def widths (terminal : Nat) (columns : Nat) (rows : List (List (List Char))) : List Nat :=
  let limit := terminal - (columns - 1)
  let wanted := (List.range columns).map fun i =>
    min limit (((column rows i).map wantedWidth).foldl max 0 + padding)
  collapsed limit wanted

/-- A cell as lines of one width. -/
def cellLines (width : Nat) (justify : Justify) (s : List Char) : List (List Char) :=
  (wrapped ⟨width - padding, justify, .ellipsis⟩ s).map fun line => ' ' :: line ++ [' ']

/-- Cells side by side: the lines of each, filled up to one height, at the bottom of the row
for headings and at its top otherwise. -/
def sideBySide (divider : Char) (atBottom : Bool) (widths : List Nat)
    (cells : List (List (List Char))) : List (List Char) :=
  let height := (cells.map List.length).foldl max 1
  let filled := (widths.zip cells).map fun (width, lines) =>
    let blank := List.replicate (height - lines.length) (List.replicate width ' ')
    if atBottom then blank ++ lines else lines ++ blank
  (List.range height).map fun i =>
    Text.joinWith [divider] (filled.map fun lines => lines.getD i [])

/-- The line below the headings. -/
def rule (widths : List Nat) : List Char :=
  Text.joinWith ['╇'] (widths.map fun w => List.replicate w '━')

/-- The lines of a table on a terminal of so many columns. -/
def lines (literal : List Char → Bool) (terminal : Nat) (t : Table) :
    Except MarkupFault (List (List Char)) := do
  let head ← t.headings.mapM fun h => shown literal h.text
  let body ← t.rows.mapM fun row => row.mapM (shown literal)
  let title ← shown literal t.title
  let widths := widths terminal t.headings.length (head :: body)
  let whole := total widths + (widths.length - 1)
  let row (divider : Char) (atBottom : Bool) (texts : List (List Char)) : List (List Char) :=
    sideBySide divider atBottom widths
      ((widths.zip (t.headings.zip texts)).map fun (w, h, s) => cellLines w h.justify s)
  return wrapped ⟨whole, .left, .fold⟩ title ++ row '┃' true head ++ [rule widths] ++
    body.flatMap (row '│' false)

/-- A table as text. -/
def text (literal : List Char → Bool) (terminal : Nat) (t : Table) : Except MarkupFault String :=
  (t.lines literal terminal).map fun ls => String.ofList (ls.flatMap fun l => l ++ ['\n'])

end Table

/-- A text with tags on lines of its own. -/
def paragraph (literal : List Char → Bool) (terminal : Nat) (s : String) :
    Except MarkupFault String :=
  (shown literal s).map fun t =>
    String.ofList ((wrapped ⟨terminal, .none, .fold⟩ t).flatMap fun l => l ++ ['\n'])

/-- Something that writes texts with tags and tables of them, or refuses to. -/
structure Writer where
  line : String → Except MarkupFault String
  table : Table → Except MarkupFault String

/-- A terminal without styles, of so many columns. -/
def terminal (literal : List Char → Bool) (columns : Nat) : Writer :=
  ⟨paragraph literal columns, Table.text literal columns⟩

end LintBridge.Console
