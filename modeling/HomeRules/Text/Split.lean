/-! # Cutting texts at a character

Splitting at every occurrence of a separator, cutting at the first one, and
removing a given beginning. All work on lists of characters. -/

set_option autoImplicit false

namespace HomeRules.Text

/-- The pieces between the occurrences of `separator`, one more than there are
occurrences. -/
def splitAt (separator : Char) : List Char → List (List Char)
  | [] => [[]]
  | c :: rest =>
    if c = separator then [] :: splitAt separator rest
    else
      match splitAt separator rest with
      | [] => [[c]]
      | piece :: pieces => (c :: piece) :: pieces

/-- What stands before and after the first occurrence of `separator`. -/
def cutAt (separator : Char) : List Char → Option (List Char × List Char)
  | [] => none
  | c :: rest =>
    if c = separator then some ([], rest)
    else (cutAt separator rest).map fun (before, after) => (c :: before, after)

/-- What follows `beginning`, when the text begins with it. -/
def dropBeginning : List Char → List Char → Option (List Char)
  | [], text => some text
  | _ :: _, [] => none
  | b :: beginning, c :: text => if b = c then dropBeginning beginning text else none

/-- What follows `beginning` in a text that begins with it. -/
def stripBeginning (beginning text : String) : Option String :=
  (dropBeginning beginning.toList text.toList).map String.ofList

/-- A line without the carriage return at its end. -/
def withoutReturn (line : List Char) : List Char :=
  if line.getLast? = some '\r' then line.dropLast else line

/-- The lines of a text. A line feed at the end does not begin another line. -/
def linesOf (text : List Char) : List (List Char) :=
  let pieces := splitAt '\n' text
  (if pieces.getLast? = some [] then pieces.dropLast else pieces).map withoutReturn

/-- Texts with `separator` between neighbours. -/
def joined (separator : String) (texts : List String) : String :=
  String.intercalate separator texts

end HomeRules.Text
