/-!
# Texts from bytes

`Utf8.text` reads bytes as UTF-8 and never fails: each longest beginning of a character that is not
followed by the rest of the character, and each byte that starts no character, is read as U+FFFD.
-/

namespace Multilint

namespace Utf8

/-- A character of which the first bytes have been read. -/
structure Begun where
  /-- The number of bytes that must follow after the next one. -/
  further : Nat
  /-- The least value of the next byte. -/
  low : Nat
  /-- The greatest value of the next byte. -/
  high : Nat
  /-- The number that the bits read so far make. -/
  bits : Nat
  deriving DecidableEq, Repr

/-- The character that stands for bytes which are no character. -/
def replacement : Char := '\uFFFD'

/-- Characters that have been read, the last one first, and perhaps one more that has begun. -/
structure Reading where
  /-- The characters. -/
  done : List Char := []
  /-- The character that has begun. -/
  begun : Option Begun := none
  deriving DecidableEq, Repr

namespace Reading

/-- One more character. -/
def push (r : Reading) (c : Char) : Reading :=
  ⟨c :: r.done, none⟩

/-- A byte where a character starts. The bounds of the second byte leave out longer forms of short
characters, surrogates, and numbers that are no characters. -/
def start (r : Reading) (b : Nat) : Reading :=
  let begin' (further low high bits : Nat) : Reading :=
    { r with begun := some ⟨further, low, high, bits⟩ }
  if b < 0x80 then r.push (Char.ofNat b)
  else if b < 0xC2 then r.push replacement
  else if b < 0xE0 then begin' 0 0x80 0xBF (b - 0xC0)
  else if b = 0xE0 then begin' 1 0xA0 0xBF 0
  else if b = 0xED then begin' 1 0x80 0x9F 0xD
  else if b < 0xF0 then begin' 1 0x80 0xBF (b - 0xE0)
  else if b = 0xF0 then begin' 2 0x90 0xBF 0
  else if b < 0xF4 then begin' 2 0x80 0xBF (b - 0xF0)
  else if b = 0xF4 then begin' 2 0x80 0x8F 4
  else r.push replacement

/-- The next byte. -/
def add (r : Reading) (byte : UInt8) : Reading :=
  let b := byte.toNat
  match r.begun with
  | none => r.start b
  | some g =>
    if g.low ≤ b && b ≤ g.high then
      let bits := g.bits * 0x40 + (b - 0x80)
      match g.further with
      | 0 => r.push (Char.ofNat bits)
      | n + 1 => { r with begun := some ⟨n, 0x80, 0xBF, bits⟩ }
    else (r.push replacement).start b

/-- The characters when no byte follows. -/
def characters (r : Reading) : List Char :=
  (match r.begun with
    | none => r.done
    | some _ => replacement :: r.done).reverse

end Reading

/-- The characters of given bytes. -/
def characters (bytes : List UInt8) : List Char :=
  (bytes.foldl Reading.add {}).characters

/-- The text of given bytes. -/
def text (bytes : List UInt8) : String :=
  String.ofList (characters bytes)

/-- The bytes of a text. -/
def bytes (s : String) : List UInt8 :=
  s.toUTF8.toList

end Utf8

end Multilint
