/-!
# Splitting

The pieces of a list between separators. There is one more piece than there are separators, and the
pieces joined by the separators are the list.
-/

namespace LinkedQueries

variable {α : Type}

/-- The pieces between the elements that are separators, the empty ones included. -/
def splitWhere (isSeparator : α → Bool) : List α → List (List α)
  | [] => [[]]
  | x :: rest =>
    if isSeparator x then [] :: splitWhere isSeparator rest
    else
      match splitWhere isSeparator rest with
      | piece :: pieces => (x :: piece) :: pieces
      | [] => [[x]]

/-- The pieces between the occurrences of a separator, the empty ones included. -/
def splitAt [BEq α] (separator : α) : List α → List (List α) :=
  splitWhere (· == separator)

/-- The parts before and after the first occurrence of an element, if there is one. -/
def cutAt [BEq α] (separator : α) (xs : List α) : Option (List α × List α) :=
  match xs.dropWhile (· != separator) with
  | [] => none
  | _ :: rest => some (xs.takeWhile (· != separator), rest)

end LinkedQueries
