namespace Retrieval.Text.Lines

variable {α : Type} [BEq α]

/-- The stretches between the separators, of which there is one more than separators. -/
def splitOn (sep : α) : List α → List (List α)
  | [] => [[]]
  | c :: cs =>
    if c == sep then [] :: splitOn sep cs
    else match splitOn sep cs with
      | [] => [[c]]
      | l :: ls => (c :: l) :: ls

/-- The lines that a line feed ends, and what follows the last of them unless it is empty. -/
def terminated (feed : α) (xs : List α) : List (List α) :=
  match (splitOn feed xs).reverse with
  | [] :: ls => ls.reverse
  | ls => ls.reverse

def dropLast (c : α) (xs : List α) : List α :=
  match xs.getLast? with
  | some d => if d == c then xs.dropLast else xs
  | none => xs

/-- The lines of a text; a carriage return before the line feed goes with it. -/
def ofChars (cs : List Char) : List (List Char) :=
  match (splitOn '\n' cs).reverse with
  | [] => []
  | [] :: ls => ls.reverse.map (dropLast '\r')
  | l :: ls => ls.reverse.map (dropLast '\r') ++ [l]

end Retrieval.Text.Lines
