import BeanGauge.Text.Utf8
/-!
Formatted output: texts with escapes and places for arguments. A format is used again as long as
arguments are left. An octal escape stands for a byte, so output need not be text.
-/

namespace BeanGauge.Shell

def octalDigit? (c : Char) : Option Nat :=
  if '0' ≤ c && c ≤ '7' then some (c.toNat - 48) else none

def octalValue (cs : List Char) : Nat := cs.foldl (fun n c => 8 * n + (octalDigit? c).getD 0) 0

/-- The character that an escape letter stands for. -/
def escapedChar? (c : Char) : Option Char :=
  ([('n', '\n'), ('r', '\r'), ('t', '\t'), ('\\', '\\'), ('a', '\x07'), ('b', '\x08'),
    ('f', '\x0c'), ('v', '\x0b'), ('"', '"'), ('\'', '\'')].find? (·.1 == c)).map (·.2)

/-- The octal digits at the start of a text, `limit` at most. -/
def leadingOctal (limit : Nat) (cs : List Char) : List Char :=
  (cs.take limit).takeWhile fun c => (octalDigit? c).isSome

/-- What a backslash before `c :: cs` stands for, and the rest. -/
def readEscape (c : Char) (cs : List Char) : Bytes × List Char :=
  if (octalDigit? c).isSome then
    let digits := leadingOctal 3 (c :: cs)
    ([(octalValue digits).toUInt8], (c :: cs).drop digits.length)
  else
    match escapedChar? c with
    | some x => (String.utf8EncodeChar x, cs)
    | none => (String.utf8EncodeChar '\\' ++ String.utf8EncodeChar c, cs)

/-- A text with its escapes taken for what they stand for. A zero may stand before the digits of an
octal escape. -/
def unescape : Nat → List Char → Bytes
  | 0, _ => []
  | _ + 1, [] => []
  | fuel + 1, '\\' :: '0' :: cs =>
    let digits := leadingOctal 3 cs
    (octalValue digits).toUInt8 :: unescape fuel (cs.drop digits.length)
  | fuel + 1, '\\' :: c :: cs =>
    let (bytes, rest) := readEscape c cs
    bytes ++ unescape fuel rest
  | fuel + 1, c :: cs => String.utf8EncodeChar c ++ unescape fuel cs

/-- A text with its escapes taken for what they stand for. -/
def unescaped (s : String) : Bytes := unescape (s.length + 1) s.toList

structure Place where
  /-- The letter that says how the argument is written. -/
  kind : Char
  flags : List Char
  /-- The least number of bytes. -/
  width : Nat
  precision : Option Nat

inductive FormatItem where
  | bytes (bs : Bytes)
  | argument (place : Place)

/-- The number at the start of a text, and the rest. -/
def leadingNumber (cs : List Char) : Nat × List Char :=
  ((String.ofList (cs.takeWhile Char.isDigit)).toNat?.getD 0, cs.dropWhile Char.isDigit)

/-- The place behind a percent sign, and the rest. -/
def readPlace (cs : List Char) : Option (Place × List Char) :=
  let flags := cs.takeWhile "-0+ #".toList.contains
  let (width, cs) := leadingNumber (cs.drop flags.length)
  let (precision, cs) := match cs with
    | '.' :: cs => let (n, cs) := leadingNumber cs; (some n, cs)
    | cs => (none, cs)
  match cs with
  | kind :: cs => some (⟨kind, flags, width, precision⟩, cs)
  | [] => none

def formatItems : Nat → List Char → List FormatItem
  | 0, _ => []
  | _ + 1, [] => []
  | fuel + 1, '\\' :: c :: cs =>
    let (bs, rest) := readEscape c cs
    .bytes bs :: formatItems fuel rest
  | fuel + 1, '%' :: '%' :: cs => .bytes (String.utf8EncodeChar '%') :: formatItems fuel cs
  | fuel + 1, '%' :: cs =>
    match readPlace cs with
    | some (place, rest) => .argument place :: formatItems fuel rest
    | none => []
  | fuel + 1, c :: cs => .bytes (String.utf8EncodeChar c) :: formatItems fuel cs

/-- The digits of a number with at least as many of them as the precision says. -/
def Place.digits (p : Place) (n : Nat) : List Char :=
  let base := if p.kind == 'o' then 8 else if p.kind == 'x' || p.kind == 'X' then 16 else 10
  let ds := Nat.toDigits base n
  let ds := if p.kind == 'X' then ds.map Char.toUpper else ds
  List.replicate ((p.precision.getD 1) - ds.length) '0' ++ ds

/-- What an argument is written as before it is widened. -/
def Place.body (p : Place) (s : String) : Bytes :=
  let shorten (bs : Bytes) : Bytes := match p.precision with
    | some n => bs.take n
    | none => bs
  if p.kind == 's' then shorten (Text.encode s)
  else if p.kind == 'b' then shorten (unescaped s)
  else if p.kind == 'c' then (Text.encode s).take 1
  else
    let n := s.toInt?.getD 0
    let sign := if n < 0 then "-" else if p.flags.contains '+' then "+" else ""
    Text.encode (sign ++ String.ofList (p.digits n.natAbs))

def Place.write (p : Place) (s : String) : Bytes :=
  let body := p.body s
  let fill (b : UInt8) : Bytes := List.replicate (p.width - body.length) b
  if p.flags.contains '-' then body ++ fill 0x20
  else if p.flags.contains '0' && p.kind != 's' then fill 0x30 ++ body
  else fill 0x20 ++ body

/-- The output of a format used once, and the arguments that are left. -/
def formatOnce (items : List FormatItem) (args : List String) : Bytes × List String :=
  match items with
  | [] => ([], args)
  | .bytes bs :: items =>
    let (out, args) := formatOnce items args
    (bs ++ out, args)
  | .argument place :: items =>
    let (out, rest) := formatOnce items args.tail
    (place.write (args.head?.getD "") ++ out, rest)

/-- The output of a format used until no arguments are left. -/
def formatAll (items : List FormatItem) : Nat → List String → Bytes
  | 0, _ => []
  | fuel + 1, args =>
    let (out, rest) := formatOnce items args
    if rest.isEmpty || rest.length == args.length then out else out ++ formatAll items fuel rest

/-- The output of a format with arguments. -/
def format (template : String) (args : List String) : Bytes :=
  formatAll (formatItems (template.length + 1) template.toList) (args.length + 1) args

end BeanGauge.Shell
