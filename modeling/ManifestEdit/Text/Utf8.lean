import ManifestEdit.Text.Quoted

/-!
# UTF-8

`decode` reads bytes one after the other. Between characters nothing is pending; within one, the
state says how many bytes were taken, how many are owed, and between which bounds the next one must
lie. A fault covers the bytes taken of the character that cannot be read. `encodeText` fails
where a text holds half of a surrogate pair that has no byte.
-/

namespace ManifestEdit

namespace Utf8

inductive Reason where
  | invalidStart
  | invalidContinuation
  | endOfData
  deriving DecidableEq

def Reason.text : Reason → String
  | invalidStart => "invalid start byte"
  | invalidContinuation => "invalid continuation byte"
  | endOfData => "unexpected end of data"

structure Fault where
  reason : Reason
  /-- The first byte. -/
  byte : UInt8
  /-- Its place. -/
  start : Nat
  /-- How many bytes the fault covers. -/
  size : Nat
  deriving DecidableEq

def hexByte (b : UInt8) : String :=
  let digits := Nat.toDigits 16 b.toNat
  String.ofList (List.replicate (2 - digits.length) '0' ++ digits)

def Fault.message (f : Fault) : String :=
  let span :=
    if f.size ≤ 1 then "byte 0x" ++ hexByte f.byte ++ " in position " ++ toString f.start
    else "bytes in position " ++ toString f.start ++ "-" ++ toString (f.start + f.size - 1)
  "'utf-8' codec can't decode " ++ span ++ ": " ++ f.reason.text

structure State where
  first : UInt8
  taken : Nat
  owed : Nat
  low : Nat
  high : Nat
  code : Nat

/-- Between characters. -/
def State.between : State := ⟨0, 0, 0, 0, 0, 0⟩

/-- The state after a character's first byte. -/
def start? (b : UInt8) : Option State :=
  let n := b.toNat
  if n < 0x80 then some ⟨b, 1, 0, 0, 0, n⟩
  else if n < 0xC2 then none
  else if n < 0xE0 then some ⟨b, 1, 1, 0x80, 0xBF, n - 0xC0⟩
  else if n < 0xF0 then
    some ⟨b, 1, 2, if n = 0xE0 then 0xA0 else 0x80, if n = 0xED then 0x9F else 0xBF, n - 0xE0⟩
  else if n < 0xF5 then
    some ⟨b, 1, 3, if n = 0xF0 then 0x90 else 0x80, if n = 0xF4 then 0x8F else 0xBF, n - 0xF0⟩
  else none

/-- The state after one more byte, where it lies between the bounds. -/
def State.next? (s : State) (b : UInt8) : Option State :=
  if s.low ≤ b.toNat ∧ b.toNat ≤ s.high then
    some ⟨s.first, s.taken + 1, s.owed - 1, 0x80, 0xBF, s.code * 0x40 + (b.toNat - 0x80)⟩
  else none

def State.fault (s : State) (reason : Reason) (place : Nat) : Fault :=
  ⟨reason, s.first, place - s.taken, s.taken⟩

/-- Reads on from a state; `place` is the place of the next byte. -/
def run (place : Nat) (s : State) : List UInt8 → Except Fault (List Char)
  | [] => if s.owed = 0 then .ok [] else .error (s.fault .endOfData place)
  | b :: rest =>
    let step := if s.owed = 0 then start? b else s.next? b
    match step with
    | none =>
      .error (if s.owed = 0 then ⟨.invalidStart, b, place, 1⟩
        else s.fault .invalidContinuation place)
    | some t =>
      match run (place + 1) t rest with
      | .ok cs => .ok (if t.owed = 0 then Char.ofNat t.code :: cs else cs)
      | .error f => .error f

def decode (bytes : List UInt8) : Except Fault (List Char) :=
  run 0 .between bytes

/-! ## Writing -/

/-- Halves of surrogate pairs that stand together and have no bytes. -/
structure Unencodable where
  first : Fin 0x800
  /-- The place of the first one. -/
  start : Nat
  size : Nat
  deriving DecidableEq

def Unencodable.message (u : Unencodable) : String :=
  let span :=
    if u.size ≤ 1 then
      "character '" ++ String.ofList (Quoted.code (Letter.half u.first).code) ++
        "' in position " ++ toString u.start
    else "characters in position " ++ toString u.start ++ "-" ++ toString (u.start + u.size - 1)
  "'utf-8' codec can't encode " ++ span ++ ": surrogates not allowed"

/-- The bytes of letters of which the first stands at `place`; `byte?` gives a half its byte. -/
def encodeFrom (byte? : Fin 0x800 → Option UInt8) (place : Nat) :
    List Letter → Except Unencodable (List UInt8)
  | [] => .ok []
  | .char c :: rest =>
    match encodeFrom byte? (place + 1) rest with
    | .ok bytes => .ok (String.utf8EncodeChar c ++ bytes)
    | .error u => .error u
  | .half h :: rest =>
    match byte? h with
    | none => .error ⟨h, place, 1 + (rest.takeWhile Letter.isHalf).length⟩
    | some b =>
      match encodeFrom byte? (place + 1) rest with
      | .ok bytes => .ok (b :: bytes)
      | .error u => .error u

/-- The bytes of a whole text. -/
def encodeText (t : Text) : Except Unencodable (List UInt8) :=
  encodeFrom (fun _ => none) 0 t.letters

/-- Why letters have no bytes, where they have none. -/
def fault? : Except Unencodable (List UInt8) → Option Unencodable
  | .ok _ => none
  | .error u => some u

end Utf8

/-- Every line break as a line feed. -/
def lineFeeds : List Char → List Char
  | '\r' :: '\n' :: rest => '\n' :: lineFeeds rest
  | '\r' :: rest => '\n' :: lineFeeds rest
  | c :: rest => c :: lineFeeds rest
  | [] => []

end ManifestEdit
