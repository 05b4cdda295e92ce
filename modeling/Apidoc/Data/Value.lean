import Apidoc.Number.Decimal
import Apidoc.Text.Quoted

/-!
# Plain data

The values that documents in the supported formats hold.  A map keeps its pairs in order; its keys
are values too.

* `Data.same`      equality of values, by which keys are told apart: numbers are compared by value,
                   and what is not a number is one value;
* `Data.isTrue`    whether a value counts as true where a choice is asked for;
* `Data.display`   a value as it is shown to a reader.
-/

namespace Apidoc

/-- a point in time as a calendar shows it; `offset` is seconds east of Greenwich -/
structure Moment where
  year : Nat
  month : Nat
  day : Nat
  hour : Nat
  minute : Nat
  second : Nat
  micro : Nat
  offset : Option Int
  deriving DecidableEq, Repr

inductive Data where
  | null
  | bool (b : Bool)
  | int (n : Int)
  | float (x : Binary64)
  | str (s : String)
  | list (xs : List Data)
  | map (pairs : List (Data × Data))
  | date (year month day : Nat)
  | moment (m : Moment)
  | bytes (bs : List UInt8)
  /-- the members of a set, in order -/
  | set (xs : List Data)
  deriving Repr

instance : Inhabited Data := ⟨.null⟩

namespace Data

def object (fields : List (String × Data)) : Data := .map (fields.map fun f => (.str f.1, f.2))

/-! ## equality -/

def wholeNumber? : Data → Option Int
  | .bool b => some (if b then 1 else 0)
  | .int n => some n
  | .float (.finite negative m q) =>
    let sign (n : Nat) : Int := if negative then -n else n
    if 0 ≤ q then some (sign (m * Nat.pow 2 q.toNat))
    else if m % Nat.pow 2 (-q).toNat = 0 then some (sign (m / Nat.pow 2 (-q).toNat))
    else none
  | _ => none

def sameNumber (a b : Data) : Bool :=
  match a.wholeNumber?, b.wholeNumber? with
  | some m, some n => m == n
  | none, none =>
    match a, b with
    | .float x, .float y => x == y
    | _, _ => false
  | _, _ => false

mutual

def same : Data → Data → Bool
  | .null, .null => true
  | .str s, .str t => s == t
  | .list xs, .list ys => sameAll xs ys
  | .map ps, .map qs => samePairs ps qs
  | .date y m d, .date y' m' d' => y == y' && m == m' && d == d'
  | .moment m, .moment n => m == n
  | .bytes bs, .bytes cs => bs == cs
  | .set xs, .set ys => sameAll xs ys
  | a, b => sameNumber a b

def sameAll : List Data → List Data → Bool
  | [], [] => true
  | x :: xs, y :: ys => same x y && sameAll xs ys
  | _, _ => false

def samePairs : List (Data × Data) → List (Data × Data) → Bool
  | [], [] => true
  | (k, v) :: ps, (l, w) :: qs => same k l && same v w && samePairs ps qs
  | _, _ => false

end

instance : BEq Data := ⟨same⟩

/-! ## choices -/

/-- Empty values, zero and null count as false. -/
def isTrue : Data → Bool
  | .null => false
  | .bool b => b
  | .int n => n != 0
  | .float (.finite _ m _) => m != 0
  | .float _ => true
  | .str s => s != ""
  | .list xs => !xs.isEmpty
  | .map ps => !ps.isEmpty
  | .bytes bs => !bs.isEmpty
  | .set xs => !xs.isEmpty
  | .date _ _ _ => true
  | .moment _ => true

/-! ## text -/

def padded (width n : Nat) : String :=
  let ds := Nat.toDigits 10 n
  String.ofList (List.replicate (width - ds.length) '0' ++ ds)

def dateText (y m d : Nat) : String := padded 4 y ++ "-" ++ padded 2 m ++ "-" ++ padded 2 d

def offsetText (o : Int) : String :=
  let n := o.natAbs
  (if o < 0 then "-" else "+") ++ padded 2 (n / 3600) ++ ":" ++ padded 2 (n / 60 % 60) ++
    (if n % 60 = 0 then "" else ":" ++ padded 2 (n % 60))

def momentText (sep : String) (m : Moment) : String :=
  dateText m.year m.month m.day ++ sep ++ padded 2 m.hour ++ ":" ++ padded 2 m.minute ++ ":" ++
    padded 2 m.second ++ (if m.micro = 0 then "" else "." ++ padded 6 m.micro) ++
    (match m.offset with | some o => offsetText o | none => "")

def momentForm (m : Moment) : String :=
  let tail :=
    if m.micro ≠ 0 then [m.hour, m.minute, m.second, m.micro]
    else if m.second ≠ 0 then [m.hour, m.minute, m.second]
    else [m.hour, m.minute]
  let zone := match m.offset with
    | none => []
    | some 0 => ["tzinfo=datetime.timezone.utc"]
    | some o =>
      let days := o.fdiv 86400
      let seconds := o - 86400 * days
      let delta := (if days = 0 then [] else ["days=" ++ toString days]) ++
        (if seconds = 0 then [] else ["seconds=" ++ toString seconds])
      ["tzinfo=datetime.timezone(datetime.timedelta(" ++ ", ".intercalate delta ++ "))"]
  "datetime.datetime(" ++
    ", ".intercalate (([m.year, m.month, m.day] ++ tail).map toString ++ zone) ++ ")"

mutual

/-- a value inside another one: texts are quoted -/
def form : Data → String
  | .null => "None"
  | .bool b => if b then "True" else "False"
  | .int n => toString n
  | .float x => x.text
  | .str s => Text.quoted s
  | .list xs => "[" ++ ", ".intercalate (forms xs) ++ "]"
  | .map ps => "\x7b" ++ ", ".intercalate (pairForms ps) ++ "\x7d"
  | .date y m d => "datetime.date(" ++ ", ".intercalate ([y, m, d].map toString) ++ ")"
  | .moment m => momentForm m
  | .bytes bs => String.ofList (Text.quotedBytes bs)
  | .set xs => if xs.isEmpty then "set()" else "\x7b" ++ ", ".intercalate (forms xs) ++ "\x7d"

def forms : List Data → List String
  | [] => []
  | x :: xs => form x :: forms xs

def pairForms : List (Data × Data) → List String
  | [] => []
  | (k, v) :: ps => (form k ++ ": " ++ form v) :: pairForms ps

end

/-- a value on its own: texts and dates are shown as they are -/
def display : Data → String
  | .str s => s
  | .date y m d => dateText y m d
  | .moment m => momentText " " m
  | v => v.form

end Data

end Apidoc
