import BeanGauge.Host.Basic
/-!
Prompts. A console ends every answer with `$>` at the start of a line and only blanks behind it.

A text in a JSON string holds no line end, so a string that ends in `$>` never ends an answer,
however the output is cut into reads.
-/

namespace BeanGauge

namespace Prompt

/-- Whether a byte is a blank or a line end. -/
def isSpace (b : UInt8) : Bool := b == 0x20 || b == 0x09 || b == 0x0a || b == 0x0c || b == 0x0d

/-- Whether a byte is a blank within a line. -/
def isGap (b : UInt8) : Bool := isSpace b && b != 0x0a

/-- Whether reversed bytes, read from their start, come to the start of a line before anything else
but blanks. -/
def atLineStart (reversed : Bytes) : Bool := (reversed.dropWhile isGap).head?.all (· == 0x0a)

/-- What stands before the prompt, when some bytes end in one. -/
def before? (bytes : Bytes) : Option Bytes :=
  match bytes.reverse.dropWhile isSpace with
  | 0x3e :: 0x24 :: reversed => if atLineStart reversed then some reversed.reverse else none
  | _ => none

/-- Takes arrivals until what was read ends in a prompt: the bytes before that, and the last arrival
taken. -/
def scan {π : Type} (buffer : Bytes) : List (Arrival π) → Option (Bytes × Arrival π)
  | [] => none
  | a :: arrivals =>
    match before? (buffer ++ a.bytes) with
    | some text => some (text, a)
    | none => scan (buffer ++ a.bytes) arrivals

end Prompt

/-- Waits for the prompt of a process: the text before it, or why none came. All other processes are
left to themselves for as long as that takes. -/
def Host.awaitPrompt {π : Type} (b : Behaviour π) (h : Host π) (pid deadline : Nat) :
    Except Ending String × Host π :=
  match h.incoming b pid deadline with
  | none => (.error .closed, h)
  | some i =>
    match Prompt.scan [] i.arrivals with
    | some (text, a) => (.ok (Text.decode text), (h.pass b a.elapsed).update pid a.after)
    | none => (.error i.ending, (h.pass b i.elapsed).update pid i.after)

end BeanGauge
