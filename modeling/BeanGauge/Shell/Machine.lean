import BeanGauge.Shell.Expansion
import BeanGauge.Shell.Format
import BeanGauge.Shell.Reader
import BeanGauge.Text.Utf8
/-!
Running scripts. A machine keeps what it still has to do as a stack of tasks and does one after the
other, until it needs a line of input that has not come, sleeps, or has nothing left to do.
-/

namespace BeanGauge.Shell

inductive Stream where
  /-- To what is written to the script. -/
  | input
  /-- To whoever reads what the script writes. -/
  | output
  | nowhere
  deriving DecidableEq

abbrev Streams := List (Nat × Stream)

/-- The descriptors at the start of a script; nobody listens to its complaints. -/
def standardStreams : Streams := [(0, .input), (1, .output), (2, .nowhere)]

/-- Something that is still to be done. -/
inductive Task where
  | run (c : Command)
  /-- Goes on as the last command ended. -/
  | decide (yes no : Command)
  | negate
  /-- The start of a round of a loop. -/
  | again (untilHolds : Bool) (condition body : Command)
  /-- The place behind the condition of a loop. -/
  | test (untilHolds : Bool) (condition body : Command)
  | next (variableName : String) (values : List String) (body : Command)
  /-- The end of what redirections hold for. -/
  | restore (streams : Streams)
  /-- Passes its input on. -/
  | copy

/-- Whether a task belongs to a loop, at the start of its next round. -/
def Task.isLoop : Task → Bool
  | .again _ _ _ => true
  | .next _ _ _ => true
  | _ => false

/-- The descriptors that a task restores. -/
def Task.restored? : Task → Option Streams
  | .restore streams => some streams
  | _ => none

structure Machine where
  env : Environment
  /-- What was written to it and not read yet. -/
  input : List Char
  /-- What it wrote and nobody read yet, as it will be read. -/
  output : List Bytes
  tasks : List Task
  streams : Streams
  /-- How long it sleeps before it goes on, in milliseconds. -/
  delay : Nat

namespace Machine

def finished (m : Machine) : Bool := m.tasks.isEmpty && m.delay == 0

def setStatus (m : Machine) (status : Nat) : Machine := { m with env := { m.env with status } }

def setResult (m : Machine) (ok : Bool) : Machine := m.setStatus (if ok then 0 else 1)

def assign (m : Machine) (name value : String) : Machine :=
  { m with env := { m.env with vars := m.env.vars.insert name value } }

def assignAll (m : Machine) (assignments : List (String × Word)) : Machine :=
  assignments.foldl (fun m a => m.assign a.1 (expandText m.env a.2)) m

/-- How many bytes one read returns at most. -/
def readLimit : Nat := 8192

/-- Bytes in pieces of at most `n`. -/
def pieces (n : Nat) : Nat → Bytes → List Bytes
  | 0, _ => []
  | fuel + 1, bytes =>
    if bytes.isEmpty then [] else bytes.take n :: pieces n fuel (bytes.drop n)

/-- Where a descriptor leads; nothing when it is closed. -/
def stream? (m : Machine) (descriptor : Nat) : Option Stream := m.streams.lookup descriptor

/-- Whether some descriptor leads to a stream, now or once redirections end. -/
def holds (m : Machine) (s : Stream) : Bool :=
  (m.streams :: m.tasks.filterMap Task.restored?).any fun streams => streams.any (·.2 == s)

/-- Whether the script can still say something. -/
def speaks (m : Machine) : Bool := !m.finished && m.holds .output

/-- Whether the script can still hear something. -/
def listens (m : Machine) : Bool := !m.finished && m.holds .input

def write (m : Machine) (bytes : Bytes) : Machine :=
  if m.stream? 1 == some .output then
    { m with output := m.output ++ pieces readLimit (bytes.length + 1) bytes }
  else m

/-- Makes a descriptor lead to where it is redirected, if there is such a place. -/
def redirect (m : Machine) (r : Redirection) : Option Machine :=
  let target := expandText m.env r.target
  let others := m.streams.filter (·.1 != r.descriptor)
  if r.duplicates then
    if target == "-" then some { m with streams := others }
    else
      (target.toNat?.bind m.stream?).map fun s =>
        { m with streams := (r.descriptor, s) :: others }
  else if r.reads && target != "/dev/null" then none
  else some { m with streams := (r.descriptor, .nowhere) :: others }

def push (m : Machine) (ts : List Task) : Machine := { m with tasks := ts ++ m.tasks }

def trimField (separators cs : List Char) : List Char :=
  ((cs.dropWhile separators.contains).reverse.dropWhile separators.contains).reverse

/-- Gives the variables the fields of a line, the last one all that is left. -/
def assignFields (separators : List Char) : Machine → List Char → List String → Machine
  | m, _, [] => m
  | m, cs, [name] => m.assign name (String.ofList (trimField separators cs))
  | m, cs, name :: names =>
    let cs := cs.dropWhile separators.contains
    let field := cs.takeWhile (!separators.contains ·)
    assignFields separators (m.assign name (String.ofList field)) (cs.drop field.length) names

/-- Reads a line, if there is one. Without input there is none, and the variables become empty. -/
def readLine (m : Machine) (separators : List Char) (raw : Bool) (names : List String) :
    Option Machine :=
  if m.stream? 0 != some .input then
    some (assignFields separators (m.setStatus 1) [] names)
  else
    (Text.splitOnce '\n' m.input).map fun p =>
      let line := if raw then p.1 else p.1.filter (· != '\\')
      assignFields separators ({ m with input := p.2 }.setStatus 0) line names

/-- Passes input on, if there is some. Without input it is done at once. -/
def copyInput (m : Machine) : Option Machine :=
  if m.stream? 0 != some .input then some (m.setStatus 0)
  else if m.input.isEmpty then none
  else
    let m := m.write (Text.encode (String.ofList m.input))
    some { m with input := [], tasks := .copy :: m.tasks }

/-- The comparison of whole numbers that a word names. -/
def intTest? (op : String) : Option (Int → Int → Bool) :=
  ([("-eq", fun (a b : Int) => a == b), ("-ne", fun a b => a != b),
    ("-lt", fun a b => decide (a < b)), ("-le", fun a b => decide (a ≤ b)),
    ("-gt", fun a b => decide (b < a)), ("-ge", fun a b => decide (b ≤ a))].find?
      (·.1 == op)).map (·.2)

/-- Whether a condition on texts and numbers holds. -/
def testHolds : List String → Bool
  | "!" :: args => !testHolds args
  | [] => false
  | [s] => s != ""
  | [op, s] => if op == "-z" then s == "" else op == "-n" && s != ""
  | [a, op, b] =>
    if op == "=" || op == "==" then a == b
    else if op == "!=" then a != b
    else match intTest? op with
      | some f => f (a.toInt?.getD 0) (b.toInt?.getD 0)
      | none => false
  | _ => false

/-- Leaves the innermost loop; with `stay`, only its current round. -/
def leaveLoop (m : Machine) (stay : Bool) : Machine :=
  let left := m.tasks.takeWhile (!·.isLoop)
  let rest := m.tasks.drop left.length
  { m with
    tasks := if stay then rest else rest.tail
    streams := (left.filterMap Task.restored?).getLast?.getD m.streams }

/-- Leaves several loops; with `stay`, only the current round of the outermost of them. -/
def leaveLoops (stay : Bool) : Nat → Machine → Machine
  | 0, m => m
  | 1, m => m.leaveLoop stay
  | n + 2, m => leaveLoops stay (n + 1) (m.leaveLoop false)

def numberOf (args : List String) (default : Nat) : Nat :=
  match args with
  | s :: _ => s.toNat?.getD default
  | [] => default

def unitMillis (c : Char) : Nat :=
  if c == 'm' then 60000 else if c == 'h' then 3600000 else if c == 'd' then 86400000 else 1000

/-- A stretch of time in milliseconds; without a unit it is in seconds. -/
def millisOf (s : String) : Nat :=
  if s.startsWith "inf" then 1000 * unitMillis 'd'
  else
    let whole := s.toList.takeWhile Char.isDigit
    let part := match s.toList.drop whole.length with
      | '.' :: cs => cs.takeWhile Char.isDigit
      | _ => []
    let digits := whole ++ (part ++ ['0', '0', '0']).take 3
    ((String.ofList digits).toNat?.getD 0) * unitMillis (s.toList.getLast?.getD 's') / 1000

/-- Runs a command by its name, with variables that hold for it alone. Nothing while it waits for
input. -/
def call (m : Machine) (own : Environment) (name : String) (args : List String) :
    Option Machine :=
  let ok := m.setStatus 0
  if name == "exec" then
    match args with
    | name :: args => { m with tasks := [] }.call own name args
    | [] => some ok
  else if name == ":" || name == "true" then some ok
  else if name == "false" then some (m.setStatus 1)
  else if name == "exit" then
    some ({ m with tasks := [] }.setStatus (numberOf args m.env.status))
  else if name == "printf" then
    match args with
    | template :: args => some (ok.write (format template args))
    | [] => some (m.setStatus 2)
  else if name == "echo" then
    match args with
    | "-n" :: args => some (ok.write (unescaped (" ".intercalate args)))
    | args => some (ok.write (unescaped (" ".intercalate args) ++ [0x0a]))
  else if name == "read" then
    match args with
    | "-r" :: names => m.readLine own.separators true names
    | names => m.readLine own.separators false names
  else if name == "eval" then
    match parse (" ".intercalate args) with
    | some c => some (m.push [.run c])
    | none => some ({ m with tasks := [] }.setStatus 2)
  else if name == "test" then some (m.setResult (testHolds args))
  else if name == "[" then
    if args.getLast? == some "]" then some (m.setResult (testHolds args.dropLast))
    else some (m.setStatus 2)
  else if name == "shift" then
    some { ok with env := { ok.env with params := ok.env.params.drop (numberOf args 1) } }
  else if name == "break" then some (leaveLoops false (numberOf args 1) ok)
  else if name == "continue" then some (leaveLoops true (numberOf args 1) ok)
  else if name == "sleep" then some { ok with delay := millisOf (args.head?.getD "0") }
  else if name == "cat" then
    if args.all (· == "-") then some (m.push [.copy]) else some (m.setStatus 1)
  else if name == "kill" && args.contains Environment.processNumber then
    some { m with tasks := [] }
  else if name == "trap" then some ok
  else some (m.setStatus 127)
termination_by args.length

def callSimple (m : Machine) (assignments : List (String × Word)) (words : List Word) :
    Option Machine :=
  match words.flatMap (fields m.env) with
  | [] => some ((m.assignAll assignments).setStatus 0)
  | name :: args => m.call (m.assignAll assignments).env name args

/-- Does one task; `m` is the machine without it. Nothing while the task waits for input. -/
def perform (m : Machine) : Task → Option Machine
  | .run c =>
    match c with
    | .simple assignments words => m.callSimple assignments words
    | .sequence cs => some (m.push (cs.map .run))
    | .both first second => some (m.push [.run first, .decide second (.sequence [])])
    | .either first second => some (m.push [.run first, .decide (.sequence []) second])
    | .negation c => some (m.push [.run c, .negate])
    | .loop untilHolds condition body => some (m.push [.again untilHolds condition body])
    | .each name words body =>
      let values := match words with
        | some words => words.flatMap (fields m.env)
        | none => m.env.params
      some (m.push [.next name values body])
    | .branch condition yes no => some (m.push [.run condition, .decide yes no])
    | .choose subject arms =>
      let s := expandText m.env subject
      match arms.find? fun arm => arm.1.any (wordMatches m.env s) with
      | some arm => some ((m.setStatus 0).push [.run arm.2])
      | none => some (m.setStatus 0)
    | .redirected c rs =>
      let permanent := match c with
        | .simple _ [w] => plainText? w == some "exec"
        | _ => false
      match rs.foldlM redirect m with
      | some m' =>
        some (m'.push (.run c :: if permanent then [] else [.restore m.streams]))
      | none => some (m.setStatus 2)
  | .decide yes no => some (m.push [.run (if m.env.status == 0 then yes else no)])
  | .negate => some (m.setResult (m.env.status != 0))
  | .again untilHolds condition body =>
    some (m.push [.run condition, .test untilHolds condition body])
  | .test untilHolds condition body =>
    if (m.env.status == 0) != untilHolds then
      some (m.push [.run body, .again untilHolds condition body])
    else some (m.setStatus 0)
  | .next name values body =>
    match values with
    | [] => some m
    | v :: vs => some ((m.assign name v).push [.run body, .next name vs body])
  | .restore streams => some { m with streams }
  | .copy => m.copyInput

/-- Goes on for a number of steps at most. -/
def run : Nat → Machine → Machine
  | 0, m => m
  | fuel + 1, m =>
    match m.tasks, m.delay with
    | t :: rest, 0 =>
      match { m with tasks := rest }.perform t with
      | some m => run fuel m
      | none => m
    | _, _ => m

/-- How many steps a script may take before it counts as hanging. -/
def stepLimit : Nat := 100000

/-- Goes on until the machine waits, sleeps, ends or hangs. -/
def settle (m : Machine) : Machine := m.run stepLimit

/-- Goes on for a number of milliseconds; the fuel bounds how often it sleeps. -/
def pass : Nat → Nat → Machine → Machine
  | 0, _, m => m
  | fuel + 1, millis, m =>
    if m.delay == 0 then m
    else if millis < m.delay then { m with delay := m.delay - millis }
    else pass fuel (millis - m.delay) { m with delay := 0 }.settle

/-- A script with its name and parameters, run as far as it goes. -/
def start (script : String) (args : List String) : Machine :=
  let env : Environment := ⟨∅, args.head?.getD "sh", args.tail, 0⟩
  let tasks := match parse script with
    | some c => [.run c]
    | none => []
  settle ⟨env, [], [], tasks, standardStreams, 0⟩

end Machine

end BeanGauge.Shell
