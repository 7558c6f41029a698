/-!
# Lines

A line feed ends a line; a carriage return, alone or before a line feed, stands for one.
-/

namespace Switchboard.Text

def plainLines : List Char → List Char
  | '\r' :: '\n' :: rest => '\n' :: plainLines rest
  | '\r' :: rest => '\n' :: plainLines rest
  | c :: rest => c :: plainLines rest
  | [] => []

/-- Drops the carriage returns that stand before a line feed. -/
def withoutReturns : List Char → List Char
  | '\r' :: '\n' :: rest => '\n' :: withoutReturns rest
  | c :: rest => c :: withoutReturns rest
  | [] => []

def splitAt (mark : Char) : List Char → List (List Char)
  | [] => [[]]
  | c :: rest =>
    match splitAt mark rest with
    | piece :: pieces => if c == mark then [] :: piece :: pieces else (c :: piece) :: pieces
    | [] => [[c]]

/-- The lines of a text. What stands after the last line feed is a line if it is not empty. -/
def lines (s : List Char) : List (List Char) :=
  let pieces := splitAt '\n' s
  if pieces.getLast? == some [] then pieces.dropLast else pieces

end Switchboard.Text
