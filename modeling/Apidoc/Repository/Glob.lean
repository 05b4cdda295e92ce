import Apidoc.Text.Split

/-!
# Name patterns

A pattern is a list of items: a star stands for any text, a question mark for any character,
brackets for one character of a set.  In brackets `a-c` is a range, a range that runs backwards is
empty, and a leading exclamation mark turns the set around.  A bracket that is never closed stands
for itself.
-/

namespace Apidoc.Glob

inductive Item where
  | star
  | any
  | char (c : Char)
  | oneOf (negated : Bool) (ranges : List (Char × Char))
  deriving DecidableEq, Repr

/-! ## reading a pattern -/

def setLength? (cs : List Char) : Option Nat :=
  let mark := if cs.head? = some '!' then 1 else 0
  let start := if (cs.drop mark).head? = some ']' then mark + 1 else mark
  let body := (cs.drop start).takeWhile fun c => c != ']'
  if start + body.length < cs.length then some (start + body.length) else none

/-- The pieces between hyphens that make ranges; `lead` counts characters no hyphen splits before.
-/
def chunksFrom : Nat → List Char → List (List Char)
  | _, [] => [[]]
  | lead, c :: cs =>
    if lead = 0 ∧ c = '-' then [] :: chunksFrom 2 cs
    else match chunksFrom (lead - 1) cs with
      | [] => [[c]]
      | w :: ws => (c :: w) :: ws

/-- A hyphen at the end is an ordinary character. -/
def closeChunks (chunks : List (List Char)) : List (List Char) :=
  match chunks.reverse with
  | [] :: w :: ws => ((w ++ ['-']) :: ws).reverse
  | _ => chunks

/-- Takes out ranges that run backwards. -/
def dropEmptyRanges : List (List Char) → List (List Char)
  | [] => []
  | c :: cs =>
    match dropEmptyRanges cs with
    | [] => [c]
    | d :: ds =>
      match c.getLast?, d.head? with
      | some hi, some lo => if lo < hi then (c.dropLast ++ d.drop 1) :: ds else c :: d :: ds
      | _, _ => c :: d :: ds

/-- Single characters of a chunk, and the ranges that join it to the next one; the first `used`
characters of the first chunk already ended a range. -/
def rangesFrom : (used : Nat) → List (List Char) → List (Char × Char)
  | _, [] => []
  | used, [c] => (c.drop used).map fun x => (x, x)
  | used, c :: d :: ds =>
    match c.getLast?, d.head? with
    | some lo, some hi => (c.drop used).dropLast.map (fun x => (x, x)) ++ (lo,
        hi) :: rangesFrom 1 (d :: ds)
    | _, _ => (c.drop used).map (fun x => (x, x)) ++ rangesFrom 0 (d :: ds)

def setItem (body : List Char) : Item :=
  let chunks :=
    dropEmptyRanges (closeChunks (chunksFrom (if body.head? = some '!' then 2 else 1) body))
  match chunks with
  | ('!' :: c) :: cs =>
    if c.isEmpty && cs.isEmpty then .any else .oneOf true (rangesFrom 0 (c :: cs))
  | _ => .oneOf false (rangesFrom 0 chunks)

/-- `skip` counts characters already read. -/
def parseFrom : Nat → List Char → List Item
  | _, [] => []
  | skip + 1, _ :: cs => parseFrom skip cs
  | 0, c :: cs =>
    if c = '*' then .star :: parseFrom 0 cs
    else if c = '?' then .any :: parseFrom 0 cs
    else if c = '[' then
      match setLength? cs with
      | some n => setItem (cs.take n) :: parseFrom (n + 1) cs
      | none => .char '[' :: parseFrom 0 cs
    else .char c :: parseFrom 0 cs

def parse (pattern : String) : List Item := parseFrom 0 pattern.toList

/-! ## matching -/

def Item.accepts : Item → Char → Bool
  | .star, _ => true
  | .any, _ => true
  | .char d, c => c = d
  | .oneOf negated ranges, c => (ranges.any fun r => r.1 ≤ c && c ≤ r.2) != negated

/-- Tries a star on ever longer pieces of the text. -/
def afterStar (rest : List Char → Bool) : List Char → Bool
  | [] => rest []
  | c :: cs => rest (c :: cs) || afterStar rest cs

def matchItems : List Item → List Char → Bool
  | [], cs => cs.isEmpty
  | .star :: is, cs => afterStar (matchItems is) cs
  | _ :: _, [] => false
  | i :: is, c :: cs => i.accepts c && matchItems is cs

def isMatch (pattern name : String) : Bool := matchItems (parse pattern) name.toList

end Apidoc.Glob
