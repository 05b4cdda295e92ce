/-!
# Events on the console

What a command hands to the console, before it is laid out.  Texts may hold style tags in square
brackets.
-/

namespace Apidoc

inductive Branch where
  | mk (label : String) (children : List Branch)

structure Grid where
  title : String
  columns : List String
  rows : List (List String)

inductive Event where
  | print (text : String)
  /-- a text in a frame -/
  | panel (text : String)
  | table (grid : Grid)
  | tree (root : Branch)
  /-- a line is asked for -/
  | input (prompt : String)
  /-- a task starts, with the number of its steps if it is known -/
  | task (description : String) (total : Option Nat)
  | update (description : String)
  /-- a step of a task is done -/
  | advance

end Apidoc
