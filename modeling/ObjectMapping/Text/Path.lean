/-!
# Attribute paths

A name with dots stands for a path of attributes, each read from the one before
it. A name without dots is a path of one. Two dots in a row, and a dot at an
end, put an empty name into the path.
-/

namespace ObjectMapping.Text

/-- The parts of a text between its dots. -/
def splitDots : List Char → List (List Char)
  | [] => [[]]
  | c :: rest =>
      match splitDots rest with
      | [] => [[c]]
      | part :: parts => if c = '.' then [] :: part :: parts else (c :: part) :: parts

/-- The names that a name with dots stands for. -/
def attributePath (name : String) : List String :=
  (splitDots name.toList).map String.ofList

end ObjectMapping.Text
