import Apidoc.Data.Value

/-!
# Writing JSON

Two blanks of indentation per level, one item per line, and nothing but ASCII: other characters are
escaped by their code, those beyond the first plane as a pair.

Dates, bytes and sets have no form in JSON.  What stands before such a value has been written when
it is met, so the writer gives the text it came to and says whether it is complete.
-/

namespace Apidoc.Json

structure Written where
  text : String
  complete : Bool
  deriving DecidableEq, Repr

namespace Written

def done (s : String) : Written := ⟨s, true⟩

def stuck : Written := ⟨"", false⟩

def andThen (a b : Written) : Written := if a.complete then ⟨a.text ++ b.text, b.complete⟩ else a

end Written

/-! ## strings -/

def unitText (n : Nat) : List Char := '\\' :: 'u' :: Text.hexText 4 n

/-- A character in a string; beyond the first plane it is written as two units. -/
def charText (c : Char) : List Char :=
  let n := c.toNat
  if c = '"' then ['\\', '"']
  else if c = '\\' then ['\\', '\\']
  else if c = '\n' then ['\\', 'n']
  else if c = '\r' then ['\\', 'r']
  else if c = '\t' then ['\\', 't']
  else if n = 12 then ['\\', 'f']
  else if n = 8 then ['\\', 'b']
  else if 32 ≤ n ∧ n < 127 then [c]
  else if n < 0x10000 then unitText n
  else
    let m := n - 0x10000
    unitText (0xd800 + m / 0x400) ++ unitText (0xdc00 + m % 0x400)

def stringText (s : String) : String := String.ofList ('"' :: s.toList.flatMap charText ++ ['"'])

def floatText (x : Binary64) : String := x.textWith ".0" "Infinity" "NaN"

/-! ## values -/

/-- a key, which is written as a string whatever it is -/
def keyText? : Data → Option String
  | .str s => some s
  | .float x => some (floatText x)
  | .bool b => some (if b then "true" else "false")
  | .null => some "null"
  | .int n => some (toString n)
  | _ => none

def lineStart (level : Nat) : String := "\n" ++ String.ofList (List.replicate (2 * level) ' ')

def itemBreak (first : Bool) (level : Nat) : String := if first then "" else "," ++ lineStart level

mutual

def write (level : Nat) : Data → Written
  | .null => .done "null"
  | .bool b => .done (if b then "true" else "false")
  | .int n => .done (toString n)
  | .float x => .done (floatText x)
  | .str s => .done (stringText s)
  | .list xs =>
    if xs.isEmpty then .done "[]"
    else (Written.done ("[" ++ lineStart (level + 1))).andThen
      ((writeItems (level + 1) true xs).andThen (.done (lineStart level ++ "]")))
  | .map ps =>
    if ps.isEmpty then .done "\x7b\x7d"
    else (Written.done ("\x7b" ++ lineStart (level + 1))).andThen
      ((writePairs (level + 1) true ps).andThen (.done (lineStart level ++ "\x7d")))
  | .date _ _ _ | .moment _ | .bytes _ | .set _ => .stuck

def writeItems (level : Nat) (first : Bool) : List Data → Written
  | [] => .done ""
  | x :: xs =>
    (Written.done (itemBreak first level)).andThen
      ((write level x).andThen (writeItems level false xs))

def writePairs (level : Nat) (first : Bool) : List (Data × Data) → Written
  | [] => .done ""
  | (k, v) :: ps =>
    match keyText? k with
    | none => .stuck
    | some s =>
      (Written.done (itemBreak first level ++ stringText s ++ ": ")).andThen
        ((write level v).andThen (writePairs level false ps))

end

def render (v : Data) : Written := write 0 v

end Apidoc.Json
