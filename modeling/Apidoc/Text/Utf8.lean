import Apidoc.Text.Quoted

/-!
# Bytes that are no text

Where a list of bytes stops being UTF-8, and why.
-/

namespace Apidoc.Text

inductive Utf8Cause where
  | start | continuation | ending
  deriving DecidableEq, Repr

/-- the bytes from `start` to before `stop` cannot be read -/
structure Utf8Fault where
  start : Nat
  stop : Nat
  /-- the first of them -/
  byte : Nat
  cause : Utf8Cause
  deriving DecidableEq, Repr

def Utf8Cause.text : Utf8Cause → String
  | .start => "invalid start byte"
  | .continuation => "invalid continuation byte"
  | .ending => "unexpected end of data"

def Utf8Fault.message (f : Utf8Fault) : String :=
  "'utf-8' codec can't decode " ++
  (if f.stop = f.start + 1 then
    "byte 0x" ++ String.ofList (hexText 2 f.byte) ++ " in position " ++ toString f.start
  else "bytes in position " ++ toString f.start ++ "-" ++ toString (f.stop - 1)) ++
  ": " ++ f.cause.text

/-- The values that the bytes after a first byte may have; none if it cannot be first. -/
def followers? (b : Nat) : Option (List (Nat × Nat)) :=
  let any := (0x80, 0xbf)
  if b < 0x80 then some []
  else if b < 0xc2 then none
  else if b < 0xe0 then some [any]
  else if b = 0xe0 then some [(0xa0, 0xbf), any]
  else if b = 0xed then some [(0x80, 0x9f), any]
  else if b < 0xf0 then some [any, any]
  else if b = 0xf0 then some [(0x90, 0xbf), any, any]
  else if b < 0xf4 then some [any, any, any]
  else if b = 0xf4 then some [(0x80, 0x8f), any, any]
  else none

/-- How many bytes are as they should be, and what is wrong after them. -/
def checkFollowers : List (Nat × Nat) → List Nat → Nat × Option Utf8Cause
  | [], _ => (0, none)
  | _, [] => (0, some .ending)
  | r :: rs, b :: bs =>
    if r.1 ≤ b ∧ b ≤ r.2 then
      let (n, cause) := checkFollowers rs bs
      (n + 1, cause)
    else (0, some .continuation)

/-- `skip` counts bytes that belong to a character already read. -/
def utf8FaultFrom : Nat → Nat → List Nat → Option Utf8Fault
  | _, _, [] => none
  | position, skip + 1, _ :: bs => utf8FaultFrom (position + 1) skip bs
  | position, 0, b :: bs =>
    match followers? b with
    | none => some ⟨position, position + 1, b, .start⟩
    | some rs =>
      match checkFollowers rs bs with
      | (n, none) => utf8FaultFrom (position + 1) n bs
      | (n, some cause) => some ⟨position, position + 1 + n, b, cause⟩

def utf8Fault (bs : List UInt8) : Utf8Fault :=
  (utf8FaultFrom 0 0 (bs.map UInt8.toNat)).getD ⟨0, 1, 0, .start⟩

end Apidoc.Text
