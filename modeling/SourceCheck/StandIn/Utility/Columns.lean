import SourceCheck.StandIn.Utility.Content

/-! # Names in columns

    Many short names are shown side by side: in as many columns as the lines have
    room for, filled downwards or across, with tabs and blanks between them.
-/

namespace SourceCheck.Utility

open SourceCheck SourceCheck.Text

/-- How names are put into columns. -/
structure ColumnStyle where
  /-- Columns are filled one after the other, and not line by line. -/
  down : Bool
  /-- How long lines may be. -/
  lineLength : Nat
  deriving Repr

def leastColumn : Nat := 3

/-- The items of each line when some items are put into a number of columns. -/
def ColumnStyle.rows {α : Type} (style : ColumnStyle) (columns : Nat) (items : List α) :
    List (List α) :=
  let height := (items.length + columns - 1) / columns
  (List.range height).map fun row =>
    if style.down then
      (List.range columns).filterMap fun column => items[column * height + row]?
    else (items.drop (row * columns)).take columns

/-- The widths of columns: each item has two blanks behind it, but for those in the last
    column. -/
def ColumnStyle.widths (style : ColumnStyle) (columns : Nat) (lengths : List Nat) : List Nat :=
  let rows := style.rows columns lengths
  (List.range columns).map fun column =>
    (rows.filterMap (·[column]?)).foldl (fun width length =>
      max width (length + if column + 1 = columns then 0 else 2)) leastColumn

/-- The most columns for which the lines have room. -/
def ColumnStyle.columns (style : ColumnStyle) (lengths : List Nat) : Nat :=
  let most := min lengths.length ((style.lineLength + leastColumn - 1) / leastColumn)
  let fits := fun (columns : Nat) =>
    let widths := style.widths columns lengths
    widths.all (· == leastColumn) || widths.foldl (· + ·) 0 < style.lineLength
  (((List.range (most + 1)).reverse).find? fun n => n ≤ 1 || fits n).getD 1 |> max 1

/-- Tabs and blanks from one place in a line to another; `fuel` bounds their number. -/
def spacing : Nat → Nat → Nat → List Char
  | 0, _, _ => []
  | fuel + 1, start, stop =>
    if stop ≤ start then []
    else if (start + 1) / 8 < stop / 8 then '\t' :: spacing fuel (start + 8 - start % 8) stop
    else ' ' :: spacing fuel (start + 1) stop

def columnLine (widths : List Nat) (items : List (List Char × Nat)) : List Char :=
  let rec go : Nat → List Nat → List (List Char × Nat) → List Char
    | _, _, [] => []
    | _, _, [(text, _)] => text
    | start, widths, (text, length) :: rest =>
      let stop := start + widths.head?.getD length
      text ++ spacing (stop - start) (start + length) stop ++ go stop (widths.drop 1) rest
  go 0 widths items

/-- Items with their lengths in columns, line by line. -/
def ColumnStyle.lines (style : ColumnStyle) (items : List (List Char × Nat)) : List (List Char) :=
  let lengths := items.map (·.2)
  let columns := style.columns lengths
  (style.rows columns items).map (columnLine (style.widths columns lengths))

/-- Items in lines, with a mark and a blank or a line feed between them; a line that is not
    bounded takes all of them. -/
def wrapped (between : List Char) (lineLength? : Option Nat) (items : List (List Char × Nat)) :
    List Char :=
  let rec go : Nat → List (List Char × Nat) → List Char
    | _, [] => []
    | place, (text, length) :: rest =>
      let fits := lineLength?.all fun most => place + length + 2 < most
      between ++ (if fits then ' ' else '\n') :: text
        ++ go (if fits then place + 2 + length else length) rest
  match items with
  | [] => []
  | (text, length) :: rest => text ++ go length rest

end SourceCheck.Utility
