import BeanGauge.Text.Split
/-!
Addresses to listen at, in their usual texts: four decimal numbers, or eight hexadecimal groups of
which the longest run of zeros may be left away.
-/

namespace BeanGauge

/-- An address of either family. -/
inductive Address where
  /-- Four bytes. -/
  | v4 (a b c d : Nat)
  /-- Eight groups of 16 bits. -/
  | v6 (groups : List Nat)
  deriving DecidableEq

namespace Address

/-- The number that some digits spell, below `limit`. -/
def digitsBelow (base limit : Nat) (value? : Char → Option Nat) (cs : List Char) : Option Nat :=
  if cs.isEmpty then none
  else ((cs.mapM value?).map fun ds => ds.foldl (fun n d => base * n + d) 0).filter (· < limit)

def decimalDigit? (c : Char) : Option Nat :=
  if '0' ≤ c && c ≤ '9' then some (c.toNat - 48) else none

def hexDigit? (c : Char) : Option Nat :=
  if 'a' ≤ c && c ≤ 'f' then some (c.toNat - 87)
  else if 'A' ≤ c && c ≤ 'F' then some (c.toNat - 55)
  else decimalDigit? c

/-- One of four numbers: no more than three digits, and no zero before others. -/
def byte? (cs : List Char) : Option Nat :=
  if 3 < cs.length || (1 < cs.length && cs.head? == some '0') then none
  else digitsBelow 10 256 decimalDigit? cs

/-- Four numbers with points between them. -/
def parseV4 (cs : List Char) : Option Address :=
  match (Text.splitAll '.' cs).mapM byte? with
  | some [a, b, c, d] => some (.v4 a b c d)
  | _ => none

/-- One of eight groups: no more than four digits. -/
def group? (cs : List Char) : Option Nat :=
  if 4 < cs.length then none else digitsBelow 16 65536 hexDigit? cs

/-- The groups of a text without a gap; four decimal numbers may stand for the last two. -/
def groups? (cs : List Char) : Option (List Nat) :=
  let parts := Text.splitAll ':' cs
  let last := parts.getLast?.getD []
  if last.contains '.' then
    match parseV4 last, parts.dropLast.mapM group? with
    | some (.v4 a b c d), some front => some (front ++ [256 * a + b, 256 * c + d])
    | _, _ => none
  else parts.mapM group?

def splitGap : List Char → Option (List Char × List Char)
  | ':' :: ':' :: rest => some ([], rest)
  | c :: rest => (splitGap rest).map fun p => (c :: p.1, p.2)
  | [] => none

def side? (cs : List Char) : Option (List Nat) := if cs.isEmpty then some [] else groups? cs

/-- Eight groups, or fewer with a gap that stands for at least one zero. -/
def parseV6 (cs : List Char) : Option Address :=
  match splitGap cs with
  | none => ((groups? cs).filter (·.length == 8)).map .v6
  | some (before, after) =>
    if before.contains '.' then none
    else
      match side? before, side? after with
      | some front, some back =>
        let given := front.length + back.length
        if 7 < given then none else some (.v6 (front ++ List.replicate (8 - given) 0 ++ back))
      | _, _ => none

def parse (s : String) : Option Address := parseV4 s.toList <|> parseV6 s.toList

def hexText (n : Nat) : String := String.ofList (Nat.toDigits 16 n)

/-- The length of the run of zeros at the front. -/
def zeroRun (groups : List Nat) : Nat := (groups.takeWhile (· == 0)).length

/-- The start and the length of the first longest run of zeros. -/
def longestZeros (groups : List Nat) : Nat × Nat :=
  (List.range groups.length).foldl
    (fun best k => if best.2 < zeroRun (groups.drop k) then (k, zeroRun (groups.drop k)) else best)
    (0, 0)

def groupsText (groups : List Nat) : String := ":".intercalate (groups.map hexText)

/-- Four numbers with points between them. -/
def v4Text (a b c d : Nat) : String := ".".intercalate ([a, b, c, d].map toString)

/-- The text of an address. An address of the fourth family within the sixth keeps its numbers. -/
def text : Address → String
  | .v4 a b c d => v4Text a b c d
  | .v6 [0, 0, 0, 0, 0, 0xffff, x, y] =>
    "::ffff:" ++ v4Text (x / 256) (x % 256) (y / 256) (y % 256)
  | .v6 groups =>
    let (start, length) := longestZeros groups
    if length < 2 then groupsText groups
    else groupsText (groups.take start) ++ "::" ++ groupsText (groups.drop (start + length))

/-- Whether the address has eight groups. -/
def isV6 : Address → Bool
  | .v4 _ _ _ _ => false
  | .v6 _ => true

end Address

structure SocketAddress where
  address : Address
  port : UInt16
  deriving DecidableEq

namespace SocketAddress

/-- The text of both; brackets keep the groups of an address apart from the port. -/
def text (a : SocketAddress) : String :=
  let port := toString a.port.toNat
  if a.address.isV6 then "[" ++ a.address.text ++ "]:" ++ port else a.address.text ++ ":" ++ port

/-- What is said of a text that is no address. -/
def refusal (address : String) : String :=
  s!"Invalid bind_address '{address}': invalid IP address syntax. " ++
    "Use an IP address (e.g., '0.0.0.0', '127.0.0.1') or 'localhost'."

/-- Where to listen: at an address or at the machine itself. -/
def ofBindAddress (address : String) (port : UInt16) : Except String SocketAddress :=
  if address = "localhost" then .ok ⟨.v4 127 0 0 1, port⟩
  else match Address.parse address with
    | some a => .ok ⟨a, port⟩
    | none => .error (refusal address)

end SocketAddress

end BeanGauge
