import Apidoc.Text.Split

/-!
# Fragments of a page

A page is a list of fragments: markup that is written as it stands, text whose special characters
are escaped, and attributes with an escaped value.  Nothing that comes from outside is ever markup.

The layout of a page is part of it.  A line starts with its indentation, and a place where something
may be left out or repeated leaves a line with nothing but its indentation (`gap`).
-/

namespace Apidoc

inductive Fragment where
  | markup (s : String)
  | text (s : String)
  /-- an attribute of an element, such as its anchor or the target of a link -/
  | attr (name value : String)
  deriving DecidableEq, Repr

abbrev Markup := List Fragment

namespace Fragment

/-- The special characters of markup, as references. -/
def escapeChar : Char → List Char
  | '&' => "&amp;".toList
  | '<' => "&lt;".toList
  | '>' => "&gt;".toList
  | '"' => "&#34;".toList
  | '\'' => "&#39;".toList
  | c => [c]

def escape (s : String) : String := String.ofList (s.toList.flatMap escapeChar)

/-- Source code is escaped once more than other text, with references of its own for quotes. -/
def escapeCodeChar : Char → List Char
  | '&' => "&amp;".toList
  | '<' => "&lt;".toList
  | '>' => "&gt;".toList
  | '"' => "&quot;".toList
  | '\'' => "&#x27;".toList
  | c => [c]

def escapeCode (s : String) : String := String.ofList (s.toList.flatMap escapeCodeChar)

def render : Fragment → String
  | .markup s => s
  | .text s => escape s
  | .attr name value => name ++ "=\"" ++ escape value ++ "\""

end Fragment

namespace Markup

def render (m : Markup) : String := "".intercalate (m.map Fragment.render)

def raw (s : String) : Markup := [.markup s]

def text (s : String) : Markup := [.text s]

def attr (name value : String) : Markup := [.attr name value]

/-! ## layout -/

def blanks (n : Nat) : String := String.ofList (List.replicate n ' ')

def gap (indent : Nat) : Markup := raw ("\n" ++ blanks indent)

def line (indent : Nat) (m : Markup) : Markup := gap indent ++ m

def lines (ls : List (Nat × String)) : Markup := ls.flatMap fun l => line l.1 (raw l.2)

def optional (indent : Nat) (b : Bool) (m : Markup) : Markup :=
  gap indent ++ if b then m ++ gap indent else []

def either (indent : Nat) (b : Bool) (m n : Markup) : Markup :=
  gap indent ++ (if b then m else n) ++ gap indent

def each {α : Type} (indent : Nat) (xs : List α) (f : α → Markup) : Markup :=
  gap indent ++ xs.flatMap fun x => f x ++ gap indent

end Markup

end Apidoc
