import Apidoc.Text.Case
import Apidoc.Text.CharName
import Apidoc.Text.Quoted
import Apidoc.Text.Table.Emoji

/-!
# Style tags

A tag such as `[red]` starts a style and `[/red]` ends it; `[/]` ends the last one.  What looks like
a tag is taken for one even if there is no such style.  A backslash before a bracket keeps it as
text.  A name between colons stands for a picture.  Without colours only the text is left.

* `Piece.read`   text and tags in order;
* `plainText`    the text that is left, unless an end tag has nothing to end.
-/

namespace Apidoc.Style

inductive Piece where
  | text (cs : List Char)
  | tag (cs : List Char)

def isTagStart (c : Char) : Bool := ('a' ≤ c && c ≤ 'z') || c == '#' || c == '/' || c == '@'

def tagText? : List Char → Option (List Char)
  | [] => none
  | c :: cs =>
    let more := cs.takeWhile fun d => d != ']' && d != '['
    if isTagStart c && (cs.drop more.length).head? == some ']' then some (c :: more) else none

def Piece.ofText (cs : List Char) : List Piece := if cs.isEmpty then [] else [.text cs]

/-- Pairs of backslashes before a tag stand for one each; one more makes the tag text. -/
def Piece.ofTag (slashes found : List Char) : List Piece :=
  Piece.ofText (slashes.take (slashes.length / 2)) ++
    if slashes.length % 2 = 0 then [.tag found] else [.text ('[' :: found ++ [']'])]

/-- `before` is the text since the last tag, backwards. -/
def Piece.readFrom : Nat → List Char → List Char → List Piece
  | 0, before, _ => Piece.ofText before.reverse
  | n + 1, before, cs =>
    let slashes := cs.takeWhile (· == '\\')
    match cs.drop slashes.length with
    | [] => Piece.ofText (before.reverse ++ slashes)
    | c :: rest =>
      match (if c = '[' then tagText? rest else none) with
      | some found =>
        Piece.ofText before.reverse ++ Piece.ofTag slashes found ++
          readFrom n [] (rest.drop (found.length + 1))
      | none => readFrom n (c :: slashes.reverse ++ before) rest

def Piece.read (cs : List Char) : List Piece := Piece.readFrom (cs.length + 1) [] cs

/-! ## text -/

def openBrackets : List Char → List Char
  | '\\' :: '[' :: cs => '[' :: openBrackets cs
  | c :: cs => c :: openBrackets cs
  | [] => []

def skinTones : List (List Char × Nat) :=
  [("_light_skin_tone".toList, 0x1f3fb), ("_medium-light_skin_tone".toList, 0x1f3fc),
    ("_medium_skin_tone".toList, 0x1f3fd), ("_medium-dark_skin_tone".toList, 0x1f3fe),
    ("_dark_skin_tone".toList, 0x1f3ff)]

/-- A skin tone stands after the first code point, in the place of the selector of colour if there
is one. -/
def inTone (tone : Nat) : List Nat → List Nat
  | [] => []
  | c :: cs => c :: tone :: if cs.head? = some 0xfe0f then cs.tail else cs

/-- the code points of an entry; capital letters are those of a flag -/
def entryPoints (codes : List Char) : List Nat :=
  if codes.all Char.isUpper then codes.map fun c =>
    c.toNat + 0x1f1a5 else (Text.splitOn '-' codes).map Text.hexNat

/-- the pictures of an entry: one, or one more for each skin tone, or a flag under two names -/
def pictures (name codes : List Char) : List (List Char × List Char) :=
  match Text.splitOn '+' codes, Text.splitOn '*' codes with
  | [codes, _], _ =>
    (name, Text.ofPoints (entryPoints codes)) ::
      skinTones.map fun t => (name ++ t.1, Text.ofPoints (inTone t.2 (entryPoints codes)))
  | _, [codes, _] => [name, "flag_for_".toList ++ name].map fun n => (n,
      Text.ofPoints (entryPoints codes))
  | _, _ => [(name, Text.ofPoints (entryPoints codes))]

def emojiTable : List (List Char × List Char) :=
  (Text.words (Text.spellOut Text.Table.emojiPieces Text.Table.emoji)).flatMap fun w =>
    match Text.splitOn '=' w with
    | [name, codes] => pictures name codes
    | _ => []

def variants : List (List Char × Char) := [("-emoji".toList, '\ufe0f'), ("-text".toList, '\ufe0e')]

def pictograph? (name : List Char) : Option (List Char) :=
  ((Text.charNamed? (name.map fun c => if c = '_' then ' ' else c)).filter
    Text.Table.pictographs.contains).map
    fun n => Text.ofPoints [n]

def picture? (name : List Char) : Option (List Char) :=
  let look (n : List Char) : Option (List Char) :=
    ((emojiTable.find? fun e => e.1 == Text.lowerFrom false n).map (·.2)).or
      (pictograph? (Text.lowerFrom false n))
  match variants.find? fun v => Text.isSuffix v.1 name with
  | some v => (look (name.take (name.length - v.1.length))).map fun p => p ++ [v.2]
  | none => look name

/-- Puts pictures for their names; `skip` counts characters already dealt with. -/
def putPictures : Nat → List Char → List Char
  | _, [] => []
  | skip + 1, _ :: cs => putPictures skip cs
  | 0, c :: cs =>
    if c = ':' then
      let name := cs.takeWhile fun d => d != ':' && !Text.isBlank d
      if (cs.drop name.length).head? = some ':' then
        match picture? name with
        | some p => p ++ putPictures (name.length + 1) cs
        | none => (c :: name ++ [':']) ++ putPictures (name.length + 1) cs
      else c :: putPictures 0 cs
    else c :: putPictures 0 cs

/-- Bell, backspace, vertical tab, form feed and carriage return are not shown. -/
def isHidden (c : Char) : Bool := [7, 8, 11, 12, 13].contains c.toNat

def showText (cs : List Char) : List Char :=
  (putPictures 0 (openBrackets cs)).filter fun c => !isHidden c

/-! ## tags -/

def attributes : List (String × String) :=
  [("d", "dim"), ("b", "bold"), ("i", "italic"), ("u", "underline"), ("r", "reverse"),
    ("c", "conceal"),
   ("s", "strike"), ("uu", "underline2"), ("o", "overline")]

def styleName (cs : List Char) : String :=
  let name := String.ofList (Text.lowerFrom false (Text.trim cs))
  ((attributes.find? (·.1 == name)).map (·.2)).getD name

def tagName (cs : List Char) : List Char := cs.takeWhile (· != '=')

def endStyle (name : String) : List String → Option (List String)
  | [] => none
  | s :: ss => if s = name then some ss else (endStyle name ss).map (s :: ·)

/-- The styles that are open after a tag, the last one first. -/
def applyTag (openStyles : List String) (tag : List Char) : Option (List String) :=
  match tagName tag with
  | '/' :: cs =>
    if (Text.trim cs).isEmpty then openStyles.tail? else endStyle
      (styleName (Text.trim cs)) openStyles
  | cs => some (styleName cs :: openStyles)

/-- The text of pieces; none if an end tag has nothing to end. -/
def textOf : List String → List Piece → Option (List Char)
  | _, [] => some []
  | styles, .text cs :: ps => (textOf styles ps).map (showText cs ++ ·)
  | styles, .tag cs :: ps =>
    match applyTag styles cs with
    | some styles => textOf styles ps
    | none => none

def plainText (s : String) : Option (List Char) := textOf [] (Piece.read s.toList)

end Apidoc.Style
