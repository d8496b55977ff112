import Multilint.Decimal.Leading
import Multilint.Decimal.Notation
import Multilint.Text.Utf8
/-!
# Formatted output

What `printf` and `echo` write. A backslash starts an escape, which may stand for a byte that is no
character; a percent sign takes the next argument. While arguments are left the format is used again.
-/

namespace Multilint

namespace Formatted

/-- The byte that a letter behind a backslash stands for. -/
def letterByte? : Char → Option UInt8
  | 'a' => some 7
  | 'b' => some 8
  | 't' => some 9
  | 'n' => some 10
  | 'v' => some 11
  | 'f' => some 12
  | 'r' => some 13
  | 'e' => some 27
  | '\\' => some 92
  | _ => none

/-- What stands behind a backslash. -/
inductive Escape where
  /-- A byte, and what follows. -/
  | byte (b : UInt8) (rest : List Char)
  /-- Nothing more is written. -/
  | stop
  /-- No escape. -/
  | none

/-- Who writes: a shell, or a program, which knows hexadecimal digits too. -/
inductive Writer where
  /-- A shell. -/
  | shell
  /-- A program. -/
  | program
  deriving DecidableEq, Repr

/-- The byte of up to so many digits of a base at the start of a text. -/
def digitByte (base count : Nat) (cs : List Char) : Escape :=
  let ds := (Numeral.spanBase base cs).1.take count
  .byte (UInt8.ofNat ((Numeral.valueIn? base ds).getD 0)) (cs.drop ds.length)

/-- Reads what stands behind a backslash. Up to three octal digits make a byte; in an argument a zero may stand
in front of them, and a `c` ends the output. -/
def escape (writer : Writer) (inArgument : Bool) : List Char → Escape
  | [] => .none
  | c :: cs =>
    let isOctal (c : Char) : Bool := (Numeral.digitIn? 8 c).isSome
    if inArgument && c = 'c' then .stop
    else if inArgument && c = '0' && cs.head?.any isOctal then digitByte 8 3 cs
    else if isOctal c then digitByte 8 3 (c :: cs)
    else if writer = .program && c = 'x' && cs.head?.any (Numeral.hexValue? · |>.isSome) then
      digitByte 16 2 cs
    else if writer = .program && !inArgument && c = '"' then .byte 34 cs
    else
      match letterByte? c with
      | some b => .byte b cs
      | none => .none

/-- The bytes of an argument with its escapes, and whether nothing more is written. At most so many
characters are read. -/
def expand (writer : Writer) : Nat → List Char → List UInt8 × Bool
  | 0, _ => ([], false)
  | _, [] => ([], false)
  | n + 1, '\\' :: cs =>
    match escape writer true cs with
    | .byte b rest => let (bs, stop) := expand writer n rest; (b :: bs, stop)
    | .stop => ([], true)
    | .none => let (bs, stop) := expand writer n cs; (92 :: bs, stop)
  | n + 1, c :: cs => let (bs, stop) := expand writer n cs; (Utf8.bytes c.toString ++ bs, stop)

/-- The bytes of a text with escapes, and whether they say that nothing follows. -/
def expanded (writer : Writer) (s : String) : List UInt8 × Bool :=
  expand writer s.length s.toList

/-! ## Conversions -/

/-- A width or a precision as a format writes it. -/
inductive Amount where
  /-- None. -/
  | none
  /-- A number. -/
  | number (n : Nat)
  /-- The next argument. -/
  | argument
  deriving DecidableEq, Repr

/-- A conversion of a format. -/
structure Conversion where
  /-- The characters that change how it is written. -/
  flags : List Char
  /-- The least width. -/
  width : Nat
  /-- The precision. -/
  precision : Option Nat
  /-- The letter. -/
  letter : Char

/-- Reads an amount. -/
def amount (cs : List Char) : Amount × List Char :=
  match cs with
  | '*' :: r => (.argument, r)
  | cs =>
    let (ds, r) := Numeral.spanDigits cs
    (if ds.isEmpty then .none else .number (Numeral.value ds), r)

/-- Reads the flags, the width and the precision behind a percent sign. -/
def layout (cs : List Char) : (List Char × Amount × Amount) × List Char :=
  let flags := cs.takeWhile ['-', '+', ' ', '0', '#'].contains
  let (width, cs) := amount (cs.drop flags.length)
  match cs with
  | '.' :: cs =>
    let (precision, cs) := amount cs
    ((flags, width, if precision = .none then .number 0 else precision), cs)
  | cs => ((flags, width, .none), cs)

namespace Conversion

/-- Whether a conversion has a flag. -/
def has (k : Conversion) (flag : Char) : Bool :=
  k.flags.contains flag

/-- Bytes in a field of the width of a conversion. -/
def pad (k : Conversion) (bytes : List UInt8) : List UInt8 :=
  let fill := List.replicate (k.width - bytes.length) (32 : UInt8)
  if k.has '-' then bytes ++ fill else fill ++ bytes

/-- What stands in front of a number that may be negative. -/
def signOf (k : Conversion) (negative : Bool) : List Char :=
  if negative then ['-'] else if k.has '+' then ['+'] else if k.has ' ' then [' '] else []

/-- Characters behind others in a field; zeros fill the field between them if that is asked for. -/
def field (k : Conversion) (zeros : Bool) (front body : List Char) : List UInt8 :=
  let fill := if zeros && k.has '0' && !k.has '-' then k.width - front.length - body.length else 0
  k.pad (Utf8.bytes (String.ofList (front ++ List.replicate fill '0' ++ body)))

/-- The digits of a number in a base, with zeros in front up to the precision. -/
def digits (k : Conversion) (base n : Nat) : List Char :=
  let ds := if n = 0 && k.precision = some 0 then [] else Nat.toDigits base n
  List.replicate (k.precision.getD 1 - ds.length) '0' ++ ds

/-- Upper-case letters for an upper-case conversion. -/
def cased (k : Conversion) (cs : List Char) : List Char :=
  if k.letter.isUpper then cs.map Char.toUpper else cs

/-- A signed number in a field. -/
def signed (k : Conversion) (n : Int) : List UInt8 :=
  k.field k.precision.isNone (k.signOf (n < 0)) (k.digits 10 n.natAbs)

/-- An unsigned number in a field; a negative one stands for the number of 64 bits with its bits. -/
def unsigned (k : Conversion) (n : Int) : List UInt8 :=
  let n := (n % Numeral.bound64).toNat
  let base := match k.letter with
    | 'o' => 8
    | 'x' | 'X' => 16
    | _ => 10
  let ds := k.digits base n
  let front := if k.has '#' && base = 16 && n ≠ 0 then ['0', 'x'] else []
  let ds := if k.has '#' && base = 8 && ds.head? ≠ some '0' then '0' :: ds else ds
  k.field k.precision.isNone (k.cased front) (k.cased ds)

/-- A floating-point number in a field. -/
def real (k : Conversion) (x : Binary64) : List UInt8 :=
  let keep := k.has '#'
  let places := k.precision.getD 6
  let front := k.signOf x.isNegative
  let magnitude : Binary64 := if x.isNegative then x.negate else x
  if !magnitude.isFinite then
    k.field false front (k.cased (if magnitude.magnitude = Binary64.infinityBits then "inf".toList else "nan".toList))
  else
    match k.letter.toLower with
    | 'f' => k.field true front (magnitude.fixed places keep)
    | 'e' => k.field true front (k.cased (magnitude.scientific places keep))
    | 'g' => k.field true front (k.cased (magnitude.general places keep))
    | _ => k.field true (front ++ k.cased ['0', 'x']) (k.cased (magnitude.hexadecimal k.precision keep))

end Conversion

/-! ## Formats -/

/-- What is wrong with a format or an argument. -/
inductive Fault where
  /-- An argument that should have been a number. -/
  | noNumber (argument : String)
  /-- An argument that goes on behind a number. -/
  | notWhole (argument : String)
  /-- An argument that is too great or too small. -/
  | outOfRange (argument : String)
  /-- A conversion that there is not, which ends the output. -/
  | noConversion (text : String)
  /-- A conversion without a letter, which ends the output. -/
  | noLetter
  deriving DecidableEq, Repr

namespace Fault

/-- Whether a fault is one of the format. -/
def ofFormat : Fault → Bool
  | .noConversion _ | .noLetter => true
  | _ => false

/-- The wording of a fault. -/
def message : Writer → Fault → String
  | .shell, .noNumber a => a ++ ": expected numeric value"
  | .shell, .notWhole a => a ++ ": not completely converted"
  | .shell, .outOfRange a => a ++ ": Numerical result out of range"
  | .shell, .noConversion t => t ++ ": invalid directive"
  | .shell, .noLetter => "missing format character"
  | .program, .noNumber a => "'" ++ a ++ "': expected a numeric value"
  | .program, .notWhole a => "'" ++ a ++ "': value not completely converted"
  | .program, .outOfRange a => "'" ++ a ++ "': Numerical result out of range"
  | .program, .noConversion t => t ++ ": invalid conversion specification"
  | .program, .noLetter => "%: invalid conversion specification"

end Fault

/-- What a format has come to. -/
structure Progress where
  /-- The bytes written, the last piece first. -/
  pieces : List (List UInt8) := []
  /-- The arguments left. -/
  arguments : List String
  /-- Whether an argument was taken. -/
  took : Bool := false
  /-- What was wrong, the last first. -/
  faults : List Fault := []
  /-- Nothing more is written. -/
  stopped : Bool := false

/-- A step that takes arguments. -/
abbrev Step := StateM Progress

namespace Step

/-- Writes bytes. -/
def write (bytes : List UInt8) : Step Unit :=
  modify fun p => { p with pieces := bytes :: p.pieces }

/-- Notes a fault. -/
def note (f : Fault) : Step Unit :=
  modify fun p => { p with faults := f :: p.faults, stopped := p.stopped || f.ofFormat }

/-- The next argument, if one is left. -/
def next? : Step (Option String) :=
  modifyGet fun p =>
    match p.arguments with
    | [] => (none, { p with took := true })
    | a :: rest => (some a, { p with arguments := rest, took := true })

/-- The number of the first byte of a text behind a quote. -/
def quoted? (a : String) : Option Nat :=
  match a.toList with
  | q :: r => if q = '"' || q = '\'' then some ((Utf8.bytes (String.ofList r)).headD 0).toNat else none
  | [] => none

/-- The value of what was found at the start of an argument. -/
def valued {α : Type} (a : String) (zero : α) (found : Option (α × List Char)) : Step α := do
  match found with
  | some (v, rest) =>
    if !rest.isEmpty then note (.notWhole a)
    return v
  | none =>
    if a ≠ "" then note (.noNumber a)
    return zero

/-- The next argument as a whole number: a signed one of 64 bits, or an unsigned one. -/
def integer (signed : Bool) : Step Int := do
  let a := (← next?).getD ""
  match quoted? a with
  | some n => return n
  | none =>
    let found := Numeral.integer? true a.toList
    let n ← valued a 0 found
    let clamped := if signed then Numeral.clamped64 n
      else if n.natAbs < Numeral.bound64 then n else Numeral.bound64 - 1
    if clamped ≠ n && (found.any fun f => f.2.isEmpty) then note (.outOfRange a)
    return clamped

/-- The next argument as a floating-point number. -/
def real : Step Binary64 := do
  let a := (← next?).getD ""
  match quoted? a with
  | some n => return Binary64.ofNat n
  | none =>
    let found := Binary64.leading? a.toList
    let x ← valued a ⟨0⟩ found
    if !x.isFinite && a.toList.any Char.isDigit && (found.any fun f => f.2.isEmpty) then
      note (.outOfRange a)
    return x

/-- An amount, of which a negative one counts as none for a precision. -/
def amountOf (a : Amount) : Step (Option Int) := do
  match a with
  | .none => return none
  | .number n => return some n
  | .argument => return some (← integer true)

/-- Writes a conversion, of which the text is given. -/
def convert (writer : Writer) (layout : List Char × Amount × Amount) (letter : Char) (text : String) :
    Step Unit := do
  let width := (← amountOf layout.2.1).getD 0
  let precision := (← amountOf layout.2.2).bind fun n => if n < 0 then none else some n.toNat
  let flags := if width < 0 then '-' :: layout.1 else layout.1
  let k : Conversion := ⟨flags, width.natAbs, precision, letter⟩
  let cut (bytes : List UInt8) : List UInt8 := match precision with
    | some n => bytes.take n
    | none => bytes
  if letter = 's' then
    let a := (← next?).getD ""
    write (k.pad (cut (Utf8.bytes a)))
  else if letter = 'b' then
    let a := (← next?).getD ""
    let (bytes, stop) := expanded writer a
    write (k.pad (cut bytes))
    modify fun p => { p with stopped := p.stopped || stop }
  else if letter = 'c' then
    let a := (← next?).getD ""
    write (k.pad [(Utf8.bytes a).headD 0])
  else if letter = 'd' || letter = 'i' then write (k.signed (← integer true))
  else if ['o', 'u', 'x', 'X'].contains letter then write (k.unsigned (← integer false))
  else if ['a', 'e', 'f', 'g'].contains letter.toLower then write (k.real (← real))
  else note (.noConversion text)

/-- Goes once through a format, of at most so many characters. -/
def once (writer : Writer) : Nat → List Char → Step Unit
  | 0, _ => return
  | _, [] => return
  | n + 1, c :: cs => do
    if (← get).stopped then return
    if c = '\\' then
      match escape writer false cs with
      | .byte b rest =>
        write [b]
        once writer n rest
      | _ =>
        write [92]
        once writer n cs
    else if c = '%' then
      match cs with
      | '%' :: rest =>
        write [37]
        once writer n rest
      | cs =>
        let (l, rest) := layout cs
        match rest with
        | [] => note .noLetter
        | letter :: rest =>
          convert writer l letter ("%" ++ String.ofList (cs.take (cs.length - rest.length)))
          once writer n rest
    else
      let run := cs.takeWhile fun d => d ≠ '\\' && d ≠ '%'
      write (Utf8.bytes (String.ofList (c :: run)))
      once writer n (cs.drop run.length)

/-- Goes through a format until no argument is left. -/
def all (writer : Writer) (format : List Char) : Nat → Step Unit
  | 0 => return
  | n + 1 => do
    modify fun p => { p with took := false }
    once writer (format.length + 1) format
    let p ← get
    if p.arguments.isEmpty || !p.took || p.stopped then return
    all writer format n

end Step

/-- What `printf` writes, and what was wrong. -/
def printf (writer : Writer) (format : String) (arguments : List String) : List UInt8 × List Fault :=
  let p := ((Step.all writer format.toList (arguments.length + 1)).run { arguments }).2
  (p.pieces.reverse.flatten, p.faults.reverse)

/-- What `echo` writes where it knows escapes. -/
def echoEscaped (arguments : List String) : List UInt8 :=
  let (line, args) := match arguments with
    | "-n" :: rest => (false, rest)
    | args => (true, args)
  let (bytes, stop) := expanded .shell (" ".intercalate args)
  if line && !stop then bytes ++ [10] else bytes

/-- Whether an argument is one of the options of `echo`. -/
def isEchoOption (s : String) : Bool :=
  match s.toList with
  | '-' :: c :: cs => (c :: cs).all ['n', 'e', 'E'].contains
  | _ => false

/-- What `echo` writes where it knows escapes only by an option. -/
def echoPlain (arguments : List String) : List UInt8 :=
  let options := (arguments.takeWhile isEchoOption).flatMap fun s => s.toList.drop 1
  let body := " ".intercalate (arguments.dropWhile isEchoOption)
  let escapes := (options.filter (· ≠ 'n')).getLast? = some 'e'
  let (bytes, stop) := if escapes then expanded .program body else (Utf8.bytes body, false)
  if options.contains 'n' || stop then bytes else bytes ++ [10]

end Formatted

end Multilint
