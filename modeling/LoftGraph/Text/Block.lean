import LoftGraph.Decimal.Column

/-!
# Blocks of items in nested brackets

A block is a rectangular arrangement: its dimensions and its items, the last dimension running
fastest.  `Text.Block.layout` writes it in nested brackets.  The innermost rows are filled word by
word up to the line's width, the outer ones stand on lines of their own, and a large block shows
only the first and last three along each dimension.

`Text.Block.chunks_flatten` says that cutting a block into rows loses nothing.
-/

namespace LoftGraph.Text.Block

variable {β : Type}

def lineWidth : Nat := 75

/-- How many items a block has at most that is shown whole. -/
def wholeBelow : Nat := 1000

/-- How many items stay at each end of what is shortened. -/
def edge : Nat := 3

/-- Consecutive runs of `width` items, `count` of them. -/
def chunks (width : Nat) : Nat → List β → List (List β)
  | 0, _ => []
  | count + 1, items => items.take width :: chunks width count (items.drop width)

/-- Side by side the rows are the block again. -/
theorem chunks_flatten (width count : Nat) (items : List β) (h : items.length = count * width) :
    (chunks width count items).flatten = items := by
  induction count generalizing items with
  | zero =>
      rw [Nat.zero_mul] at h
      rw [List.length_eq_zero_iff.mp h]
      rfl
  | succ count ih =>
      rw [Nat.succ_mul] at h
      simp only [chunks, List.flatten_cons]
      rw [ih (items.drop width) (by rw [List.length_drop]; omega), List.take_append_drop]

/-- The items of one dimension that are shown; an absent one stands for those left out. -/
def shown (short : Bool) (items : List β) : List (Option β) :=
  if short && 2 * edge < items.length then
    (items.take edge).map some ++ none :: (items.drop (items.length - edge)).map some
  else items.map some

@[simp] theorem shown_false (items : List β) : shown false items = items.map some := rfl

/-- How many items the dimensions hold. -/
def size (dims : List Nat) : Nat := dims.foldl (· * ·) 1

/-- The items of a block that are shown. -/
def kept (short : Bool) : List Nat → List β → List β
  | [], items => items
  | [_], items => (shown short items).filterMap id
  | count :: dims, items =>
    ((shown short (chunks (size dims) count items)).filterMap id).flatMap (kept short dims)

def blanks (n : Nat) : String := String.ofList (List.replicate n ' ')

/-- Words separated by commas, on lines that start with `indent` blanks and have at most `width`
characters before the comma.  A word that is too wide for any line gets its own. -/
def fill (indent width : Nat) : (line : String) → List String → String
  | line, [] => line
  | line, word :: rest =>
    let wraps := width < line.length + word.length && indent < line.length
    let started := if wraps then (line.dropEndWhile (· == ' ')).toString ++ "\n" else ""
    let current := (if wraps then blanks indent else line) ++ word
    match rest with
    | [] => started ++ current
    | _ :: _ => started ++ fill indent width (current ++ ", ") rest

/-- A block in brackets; all but its first line are indented by `indent` blanks. -/
def layout (write : β → String) (short : Bool) :
    (indent width : Nat) → List Nat → List β → String
  | _, _, [], items => (items.head?.map write).getD ""
  | indent, width, [_], items =>
    let words := (shown short items).map (fun item => (item.map write).getD "...")
    "[" ++ ((fill indent (width - 1) (blanks indent) words).drop indent).toString ++ "]"
  | indent, width, count :: next :: dims, items =>
    let rows := (shown short (chunks (size (next :: dims)) count items)).map (fun row =>
      (row.map (layout write short (indent + 1) (width - 1) (next :: dims))).getD "...")
    let between := "," ++ String.ofList (List.replicate (dims.length + 1) '\n') ++ blanks indent
    "[" ++ String.intercalate between rows ++ "]"

/-- Is a block of these dimensions shortened? -/
def isShort (dims : List Nat) : Bool := wholeBelow < size dims

def shape : List Nat → String
  | [n] => s!"({n},)"
  | dims => "(" ++ String.intercalate ", " (dims.map toString) ++ ")"

def opening : String := "array("

/-- A remark after the block, on a line of its own if the last one has no room for it. -/
def remark (body note : String) : String :=
  let last := (body.splitOn "\n").getLastD ""
  let gap := if lineWidth < last.length + note.length + 1 then "\n" ++ blanks opening.length
    else " "
  body ++ gap ++ note

/-- A block with its word.  The name of the number format is told only where no item shows it, the
dimensions where items are missing. -/
def write (format : String) (dims : List Nat) (items : List β) (item : β → String) : String :=
  if size dims = 0 then
    let dimensions := if dims = [0] then "" else s!"shape={shape dims}, "
    remark (opening ++ "[],") (dimensions ++ s!"dtype={format})")
  else
    let short := isShort dims
    let body := opening ++
      layout item short (opening.length + 1) (lineWidth - 1) dims items
    if short then remark (body ++ ",") s!"shape={shape dims})" else body ++ ")"

/-- A block of floating point numbers in common columns. -/
def numbers (dims : List Nat) (items : List Float) : String :=
  let column := Column.fit (kept (isShort dims) dims items)
  write "float64" dims items column.write

/-- A block of whole numbers, all as wide as the widest. -/
def wholes (dims : List Nat) (items : List Int) : String :=
  let width := Column.widest ((kept (isShort dims) dims items).map (fun i => (toString i).length))
  write "int64" dims items (fun i => String.ofList (Column.padLeft width (toString i).toList))

end LoftGraph.Text.Block
