import Apidoc.Data.Value
import Apidoc.Text.Split

/-!
# Scalars of YAML

A scalar written without quotes says by its form what it is: a truth value, a number, a point in
time or a text.

* `Tag.ofPlain`   what a plain scalar is, by its form;
* `Tag.value`     the value of a scalar of a given kind.
-/

namespace Apidoc.Yaml

inductive Tag where
  | null | bool | int | float | timestamp | str | binary
  | sequence | mapping | set | omap | pairs
  /-- the key that takes over the pairs of another mapping -/
  | merge
  /-- the key of a default value -/
  | default
  | unknown
  deriving DecidableEq, Repr

inductive DateFault where
  | year (n : Nat)
  | month
  | day
  | hour
  | minute
  | second
  | offset (seconds : Int)
  deriving DecidableEq, Repr

inductive Fault where
  | malformed
  | longInteger (digits : Nat)
  | badInteger (base : Nat) (text : String)
  | badFloat (text : String)
  /-- no text where a number has to be -/
  | emptyNumber
  | badTruth
  | badMoment
  | date (fault : DateFault)
  deriving DecidableEq, Repr

def DateFault.message : DateFault → String
  | .year n => "year " ++ toString n ++ " is out of range"
  | .month => "month must be in 1..12"
  | .day => "day is out of range for month"
  | .hour => "hour must be in 0..23"
  | .minute => "minute must be in 0..59"
  | .second => "second must be in 0..59"
  | .offset o =>
    let days := o.fdiv 86400
    let seconds := o - 86400 * days
    let parts := (if days = 0 then [] else ["days=" ++ toString days]) ++
      (if seconds = 0 then [] else ["seconds=" ++ toString seconds])
    "offset must be a timedelta strictly between -timedelta(hours=24) and timedelta(hours=24), not " ++
      "datetime.timedelta(" ++ ", ".intercalate parts ++ ")"

/-! ## forms -/

def isLineEnd (c : Char) : Bool := c == '\n' || c == '\u0085' || c == '\u2028' || c == '\u2029'


def truths : List String := ["yes", "Yes", "YES", "true", "True", "TRUE", "on", "On", "ON"]

def falsehoods : List String := ["no", "No", "NO", "false", "False", "FALSE", "off", "Off", "OFF"]

def nulls : List String := ["", "~", "null", "Null", "NULL"]

def dropSign : List Char → List Char
  | '+' :: cs => cs
  | '-' :: cs => cs
  | cs => cs

def isDigitOrBar (c : Char) : Bool := c.isDigit || c == '_'

def isDigits : List Char → Bool
  | c :: cs => c.isDigit && cs.all isDigitOrBar
  | [] => false

def isSixtieth : List Char → Bool
  | [c] => c.isDigit
  | [c, d] => '0' ≤ c && c ≤ '5' && d.isDigit
  | _ => false

def isBinaryForm : List Char → Bool
  | '0' :: 'b' :: cs => !cs.isEmpty && cs.all fun c => c == '0' || c == '1' || c == '_'
  | _ => false

def isOctalForm : List Char → Bool
  | '0' :: cs => !cs.isEmpty && cs.all fun c => ('0' ≤ c && c ≤ '7') || c == '_'
  | _ => false

def isHexForm : List Char → Bool
  | '0' :: 'x' :: cs => !cs.isEmpty && cs.all fun c => (Text.hexValue? c).isSome || c == '_'
  | _ => false

def isDecimalForm (cs : List Char) : Bool := cs == ['0'] || (isDigits cs && cs.head? != some '0')

/-- numbers with colons count in sixties -/
def isSixtyForm (cs : List Char) : Bool :=
  match Text.splitOn ':' cs with
  | first :: second :: rest => isDigits first && (second :: rest).all isSixtieth
  | _ => false

def isIntForm (cs : List Char) : Bool :=
  let body := dropSign cs
  isBinaryForm body || isOctalForm body || isDecimalForm body || isHexForm body ||
    (isSixtyForm body && body.head? != some '0')

def isExponent : List Char → Bool
  | [] => true
  | e :: s :: ds =>
    (e == 'e' || e == 'E') && (s == '+' || s == '-') && !ds.isEmpty && ds.all Char.isDigit
  | _ => false

def isFraction : List Char → Bool
  | '.' :: cs => isExponent (cs.dropWhile isDigitOrBar)
  | _ => false

def isInfinityForm (cs : List Char) : Bool :=
  [".inf", ".Inf", ".INF"].any fun w => w.toList == dropSign cs

def isNanForm (cs : List Char) : Bool := [".nan", ".NaN", ".NAN"].any fun w => w.toList == cs

def isSixtyFloat (cs : List Char) : Bool :=
  isSixtyForm (cs.takeWhile (· != '.')) &&
    match cs.dropWhile (· != '.') with
    | '.' :: ds => ds.all isDigitOrBar
    | _ => false

def isFloatForm (cs : List Char) : Bool :=
  let body := dropSign cs
  (isDigits (body.takeWhile isDigitOrBar) && isFraction (body.dropWhile isDigitOrBar)) ||
  (match cs with
    | '.' :: d :: _ => d.isDigit && isFraction cs
    | _ => false) ||
  isSixtyFloat body || isInfinityForm cs || isNanForm cs

/-! ## points in time -/

def digitsNat (ds : List Char) : Nat := ds.foldl (fun n d => 10 * n + (d.toNat - 48)) 0

def number? (least most : Nat) (cs : List Char) : Option (Nat × List Char) :=
  let ds := (cs.take most).takeWhile Char.isDigit
  if least ≤ ds.length then some (digitsNat ds, cs.drop ds.length) else none

def expect? (c : Char) : List Char → Option (List Char)
  | d :: cs => if d = c then some cs else none
  | [] => none

structure TimeText where
  year : Nat
  month : Nat
  day : Nat
  /-- hour, minute, second, digits of the fraction, and what comes after -/
  time : Option (Nat × Nat × Nat × List Char × List Char)

def dropTimeMark : List Char → Option (List Char)
  | 'T' :: cs => some cs
  | 't' :: cs => some cs
  | c :: cs => if c = ' ' ∨ c = '\t' then some (cs.dropWhile fun d =>
      d == ' ' || d == '\t') else none
  | [] => none

def timeOfDay? (cs : List Char) : Option (Nat × Nat × Nat × List Char × List Char) := do
  let cs ← dropTimeMark cs
  let (hour, cs) ← number? 1 2 cs
  let cs ← expect? ':' cs
  let (minute, cs) ← number? 2 2 cs
  let cs ← expect? ':' cs
  let (second, cs) ← number? 2 2 cs
  match cs with
  | '.' :: cs => some (hour, minute, second, cs.takeWhile Char.isDigit, cs.dropWhile Char.isDigit)
  | cs => some (hour, minute, second, [], cs)

/-- An offset from Greenwich in seconds; none if it is left out. -/
def offset? (cs : List Char) : Option (Option Int) :=
  match cs with
  | [] => some none
  | cs =>
    match cs.dropWhile fun c => c == ' ' || c == '\t' with
    | ['Z'] => some (some 0)
    | s :: cs =>
      if s = '+' ∨ s = '-' then do
        let (hours, cs) ← number? 1 2 cs
        let minutes ← match cs with
          | [] => some 0
          | ':' :: cs => match number? 2 2 cs with
            | some (m, []) => some m
            | _ => none
          | _ => none
        let seconds : Int := 3600 * hours + 60 * minutes
        some (some (if s = '-' then -seconds else seconds))
      else none
    | [] => none

/-- Year, month and day with one or two digits, then perhaps a time of day. -/
def timeText? (cs : List Char) : Option TimeText := do
  let (year, cs) ← number? 4 4 cs
  let cs ← expect? '-' cs
  let (month, cs) ← number? 1 2 cs
  let cs ← expect? '-' cs
  let (day, cs) ← number? 1 2 cs
  match cs with
  | [] => some ⟨year, month, day, none⟩
  | cs =>
    let time ← timeOfDay? cs
    let _ ← offset? time.2.2.2.2
    some ⟨year, month, day, some time⟩

/-- A date alone has two digits for month and day. -/
def isTimestampForm (cs : List Char) : Bool :=
  match timeText? cs with
  | some t => t.time.isSome || cs.length == 10
  | none => false

/-! ## what a plain scalar is -/

def isWord (ws : List String) (cs : List Char) : Bool := ws.any fun w => w.toList == cs

def Tag.ofPlain (cs : List Char) : Tag :=
  if isWord truths cs || isWord falsehoods cs then .bool
  else if isFloatForm cs then .float
  else if isIntForm cs then .int
  else if isWord ["<<"] cs then .merge
  else if isWord nulls cs then .null
  else if isTimestampForm cs then .timestamp
  else if isWord ["="] cs then .default
  else .str

/-! ## values -/

def hasSign (cs : List Char) : Bool := cs.head? == some '-'

def digitValue? (base : Nat) (c : Char) : Option Nat :=
  match Text.hexValue? c with
  | some n => if n < base then some n else none
  | none => none

def natInBase (base : Nat) (shown ds : List Char) : Except Fault Nat :=
  if !ds.isEmpty && ds.all fun c => (digitValue? base c).isSome then
    if base = 10 ∧ 4300 < ds.length then .error (.longInteger ds.length)
    else .ok (ds.foldl (fun n c => base * n + (digitValue? base c).getD 0) 0)
  else .error (.badInteger base (String.ofList shown))

def sixties (parts : List Nat) : Nat := parts.foldl (fun n d => 60 * n + d) 0

def intValue (cs : List Char) : Except Fault Data := do
  let text := cs.filter (· != '_')
  if text.isEmpty then .error .emptyNumber
  else
    let body := dropSign text
    let n ← match body with
      | ['0'] => pure 0
      | '0' :: 'b' :: ds => natInBase 2 ds ds
      | '0' :: 'x' :: ds => natInBase 16 ds ds
      | '0' :: ds => natInBase 8 ('0' :: ds) ds
      | [] => .error .emptyNumber
      | ds =>
        if ds.contains ':' then
          (Text.splitOn ':' ds).mapM (fun p => natInBase 10 p p) |>.map sixties
        else natInBase 10 ds ds
    return .int (if hasSign text then -(n : Int) else n)

def decimal? (cs : List Char) : Option (Nat × Int) :=
  let whole := cs.takeWhile Char.isDigit
  let rest := cs.dropWhile Char.isDigit
  let fraction := match rest with
    | '.' :: ds => ds.takeWhile Char.isDigit
    | _ => []
  let rest := match rest with
    | '.' :: ds => ds.dropWhile Char.isDigit
    | r => r
  if whole.isEmpty && fraction.isEmpty then none
  else
    let digits := digitsNat (whole ++ fraction)
    match rest with
    | [] => some (digits, -fraction.length)
    | e :: ds =>
      let body := dropSign ds
      if (e == 'e' || e == 'E') && !body.isEmpty && body.all Char.isDigit then
        let exponent : Int := digitsNat body
        some (digits, (if hasSign ds then -exponent else exponent) - fraction.length)
      else none

/-- Sixtieths of whole numbers and a last part with a fraction, as a quotient. -/
def sixtyQuotient (parts : List (Nat × Int)) : Nat × Nat :=
  let scale := parts.foldl (fun k p => max k (-p.2).toNat) (0 : Nat)
  (sixties (parts.map fun p => p.1 * Nat.pow 10 (p.2 + (scale : Int)).toNat), Nat.pow 10 scale)

def floatValue (cs : List Char) : Except Fault Data :=
  let text := cs.filter (· != '_')
  if text.isEmpty then .error .emptyNumber
  else
    let negative := hasSign text
    let body := dropSign text
    if isInfinityForm body then .ok (.float (.infinite negative))
    else if isNanForm body then .ok (.float .nan)
    else if body.contains ':' then
      match (Text.splitOn ':' body).mapM decimal? with
      | some parts =>
        let (num, den) := sixtyQuotient parts
        .ok (.float (Binary64.ofQuotient negative num den))
      | none => .error (.badFloat (String.ofList body))
    else match decimal? body with
      | some (digits, exponent) => .ok (.float (Binary64.ofDecimal negative digits exponent))
      | none => .error (.badFloat (String.ofList body))

def isLeap (y : Nat) : Bool := y % 4 == 0 && (y % 100 != 0 || y % 400 == 0)

def daysIn (y m : Nat) : Nat :=
  if m = 2 then if isLeap y then 29 else 28
  else if m = 4 ∨ m = 6 ∨ m = 9 ∨ m = 11 then 30 else 31

def checkDate (y m d : Nat) : Except Fault Unit :=
  if y = 0 then .error (.date (.year y))
  else if m = 0 ∨ 12 < m then .error (.date .month)
  else if d = 0 ∨ daysIn y m < d then .error (.date .day)
  else .ok ()

/-- the first six digits of a fraction, filled up with zeros -/
def micros (ds : List Char) : Nat := digitsNat (ds.take 6 ++ List.replicate (6 - ds.length) '0')

def timestampValue (cs : List Char) : Except Fault Data :=
  match timeText? cs with
  | none => .error .badMoment
  | some t =>
    match t.time with
    | none => do
      checkDate t.year t.month t.day
      return .date t.year t.month t.day
    | some (hour, minute, second, fraction, rest) => do
      let offset := (offset? rest).join
      match offset with
      | some o => if 86400 ≤ o.natAbs then throw (.date (.offset o))
      | none => pure ()
      checkDate t.year t.month t.day
      if 23 < hour then throw (.date .hour)
      if 59 < minute then throw (.date .minute)
      if 59 < second then throw (.date .second)
      return .moment ⟨t.year, t.month, t.day, hour, minute, second, micros fraction, offset⟩

def truthValue (cs : List Char) : Except Fault Data :=
  let low := cs.map Char.toLower
  if isWord truths low then .ok (.bool true)
  else if isWord falsehoods low then .ok (.bool false)
  else .error .badTruth

def sextet? (c : Char) : Option Nat :=
  if c.isUpper then some (c.toNat - 65)
  else if c.isLower then some (c.toNat - 71)
  else if c.isDigit then some (c.toNat + 4)
  else if c = '+' then some 62
  else if c = '/' then some 63
  else none

/-- the bytes of groups of four letters, each letter for six bits -/
def groupBytes : List Nat → Option (List UInt8)
  | a :: b :: c :: d :: r =>
    (groupBytes r).map fun bs =>
      (4 * a + b / 16).toUInt8 :: (16 * (b % 16) + c / 4).toUInt8 ::
        (64 * (c % 4) + d).toUInt8 :: bs
  | [a, b, c] => some [(4 * a + b / 16).toUInt8, (16 * (b % 16) + c / 4).toUInt8]
  | [a, b] => some [(4 * a + b / 16).toUInt8]
  | [_] => none
  | [] => some []

/-- Letters outside the alphabet are passed over; the padding has to fill the last group. -/
def binaryValue (cs : List Char) : Except Fault Data :=
  if cs.any fun c => 127 < c.toNat then .error .malformed
  else
    let letters := (cs.takeWhile (· != '=')).filterMap sextet?
    let padding := (cs.filter (· == '=')).length
    if letters.length % 4 ≠ 0 ∧ padding < 4 - letters.length % 4 then .error .malformed
    else match groupBytes letters with
      | some bs => .ok (.bytes bs)
      | none => .error .malformed

def Tag.value : Tag → List Char → Except Fault Data
  | .null, _ => .ok .null
  | .bool, cs => truthValue cs
  | .int, cs => intValue cs
  | .float, cs => floatValue cs
  | .timestamp, cs => timestampValue cs
  | .str, cs => .ok (.str (String.ofList cs))
  | .binary, cs => binaryValue cs
  | _, _ => .error .malformed

end Apidoc.Yaml
