import Counterpart.Number.Shortest

/-!
Constants as they are written in a generated module.
-/
namespace Counterpart

inductive Literal where
  | null
  | truth (b : Bool)
  | integer (i : Int)
  | real (d : Double)
  | complex (re im : Double)
  | text (t : Text)
  | bytes (b : Bytes)
  | ellipsis
  | tuple (items : List Literal)
  | list (items : List Literal)
  | set (items : List Literal)
  | dictionary (entries : List (Literal × Literal))

namespace Literal

def negated : Literal → Literal
  | .integer i => .integer (-i)
  | .real d => .real d.negated
  | .complex re im => .complex re.negated im.negated
  | other => other

mutual
/-- The kind of the part of a constant that keeps it from being a member of a set or a key. -/
def unhashable? : Literal → Option Text
  | .list _ => some "list"
  | .set _ => some "set"
  | .dictionary _ => some "dict"
  | .tuple items => unhashableItem? items
  | _ => none

def unhashableItem? : List Literal → Option Text
  | [] => none
  | l :: rest => unhashable? l <|> unhashableItem? rest
end

mutual
/-- The kind of the first part of a constant that is a member of a set or a key and cannot be one. -/
def misplaced? : Literal → Option Text
  | .tuple items => misplacedItem? false items
  | .list items => misplacedItem? false items
  | .set items => misplacedItem? true items
  | .dictionary entries => misplacedEntry? entries
  | _ => none

def misplacedItem? (isSet : Bool) : List Literal → Option Text
  | [] => none
  | l :: rest =>
    misplaced? l <|> (if isSet then unhashable? l else none) <|> misplacedItem? isSet rest

def misplacedEntry? : List (Literal × Literal) → Option Text
  | [] => none
  | (k, v) :: rest => misplaced? k <|> misplaced? v <|> unhashable? k <|> misplacedEntry? rest
end

def partText (d : Double) : Text :=
  let t := d.text
  if t.drop (t.length - 2) = ".0" then t.take (t.length - 2) else t

/-- A number with an imaginary part as it is shown; a real part that is a zero without a sign is left
out. -/
def complexText (re im : Double) : Text :=
  let part := partText im
  if re = Double.zero then part ++ "j"
  else
    let sign : Text := if Text.startsWith "-" part then [] else "+"
    Text.concat ["(", partText re, sign, part, "j)"]

end Literal
end Counterpart
