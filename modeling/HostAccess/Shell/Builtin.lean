import HostAccess.Glob.Pattern
import HostAccess.Shell.Machine
import HostAccess.Shell.Token

/-!
# Commands that the shell knows

The commands that scripts are made of: they write, read a line, compare, remove files, and end the
script. Messages of theirs are not kept.
-/
namespace HostAccess.Shell.Builtin

def notFound : Nat := 127

def number? (cs : Chars) : Option Int :=
  match cs with
  | '-' :: digits => (number digits).map fun n => -(n : Int)
  | '+' :: digits => (number digits).map Int.ofNat
  | digits => (number digits).map Int.ofNat
where
  number (digits : Chars) : Option Nat :=
    if digits.isEmpty || !digits.all Char.isDigit then none else some (Nat.ofDigitChars 10 digits 0)

def octal (digits : Chars) : Char := Char.ofNat (Nat.ofDigitChars 8 digits 0 % 256)

def isOctal (c : Char) : Bool := '0' ≤ c && c ≤ '7'

def letterEscape? : Char → Option Char
  | 'a' => some '\x07'
  | 'b' => some '\x08'
  | 'f' => some '\x0c'
  | 'n' => some '\n'
  | 'r' => some '\x0d'
  | 't' => some '\t'
  | 'v' => some '\x0b'
  | c => if c == Token.backslash then some c else none

/-- A text with its escapes resolved. Numbers begin with `0` in `echo` and with any digit in
`printf`; after `\c` nothing more is written. -/
def unescape (zero : Bool) : Nat → Chars → Chars × Bool
  | 0, _ => ([], false)
  | _, [] => ([], false)
  | fuel + 1, c :: rest =>
    if c == Token.backslash then
      match rest with
      | [] => ([c], false)
      | d :: rest =>
        if d == 'c' then ([], true)
        else
          match letterEscape? d with
          | some e =>
            let (cs, stop) := unescape zero fuel rest
            (e :: cs, stop)
          | none =>
            let source := if zero then rest else d :: rest
            let digits := (source.take 3).takeWhile isOctal
            if isOctal d && (!zero || d == '0') then
              let (cs, stop) := unescape zero fuel (source.drop digits.length)
              (octal digits :: cs, stop)
            else
              let (cs, stop) := unescape zero fuel rest
              (c :: d :: cs, stop)
    else
      let (cs, stop) := unescape zero fuel rest
      (c :: cs, stop)

def echo (m : Machine) (args : List Chars) : Flow × Machine :=
  let (line, args) := match args with
    | ['-', 'n'] :: args => (false, args)
    | args => (true, args)
  let cs := (args.intersperse [' ']).flatten
  let (cs, stop) := unescape true (cs.length + 1) cs
  (m.write (cs ++ if line && !stop then ['\n'] else [])).finish 0

/-- Writes a format once; gives the arguments that it did not use. -/
def format : Nat → Chars → List Chars → Chars × List Chars
  | 0, _, args => ([], args)
  | _, [], args => ([], args)
  | fuel + 1, '%' :: c :: rest, args =>
    let value := args.head?.getD []
    let (cs, args) := match c with
      | '%' => (['%'], args)
      | 's' => (value, args.tail)
      | 'b' => ((unescape true (value.length + 1) value).1, args.tail)
      | 'c' => (value.take 1, args.tail)
      | 'd' | 'i' => ((toString ((number? value).getD 0)).toList, args.tail)
      | c => (['%', c], args)
    let (others, args) := format fuel rest args
    (cs ++ others, args)
  | fuel + 1, c :: rest, args =>
    let (others, args) := format fuel rest args
    (c :: others, args)

/-- Writes a format again as long as there are arguments for it. -/
def formatAll : Nat → Chars → List Chars → Chars
  | 0, _, _ => []
  | fuel + 1, pattern, args =>
    let (cs, left) := format (pattern.length + 1) pattern args
    if left.isEmpty || left.length = args.length then cs else cs ++ formatAll fuel pattern left

def printf (m : Machine) (args : List Chars) : Flow × Machine :=
  match args with
  | [] => m.finish 2
  | pattern :: args =>
    let pattern := (unescape false (pattern.length + 1) pattern).1
    (m.write (formatAll (args.length + 1) pattern args)).finish 0

/-- A line in which a backslash takes its meaning from the next character; a backslash at the end
of a line joins it to the next. Gives what follows the line, if the line ends. -/
def readLine (raw : Bool) : Nat → Chars → Chars × Option Chars
  | 0, _ => ([], none)
  | _, [] => ([], none)
  | fuel + 1, c :: rest =>
    if c == '\n' then ([], some rest)
    else if c == Token.backslash && !raw then
      match rest with
      | '\n' :: rest => readLine raw fuel rest
      | d :: rest =>
        let (cs, after) := readLine raw fuel rest
        (d :: cs, after)
      | [] => ([], none)
    else
      let (cs, after) := readLine raw fuel rest
      (c :: cs, after)

/-- Shares a line out among variables; the last gets what is left. -/
def share (m : Machine) : List Chars → Chars → Machine
  | [], _ => m
  | [name], line => m.assign name (line.reverse.dropWhile Machine.isBlank).reverse
  | name :: names, line =>
    share (m.assign name (line.takeWhile fun c => !Machine.isBlank c)) names
      ((line.dropWhile fun c => !Machine.isBlank c).dropWhile Machine.isBlank)

/-- Reads a line into variables. It fails if the input ends before the line does. -/
def read (m : Machine) (args : List Chars) : Flow × Machine :=
  let (raw, names) := match args with
    | ['-', 'r'] :: names => (true, names)
    | names => (false, names)
  let (line, after) := readLine raw (m.input.length + 1) m.input
  let m := share { m with input := after.getD [] } names (line.dropWhile Machine.isBlank)
  m.finish (if after.isSome then 0 else 1)

def compare (operator : String) (a b : Int) : Option Bool :=
  match operator with
  | "-eq" => some (a == b)
  | "-ne" => some (a != b)
  | "-lt" => some (a < b)
  | "-le" => some (a ≤ b)
  | "-gt" => some (b < a)
  | "-ge" => some (b ≤ a)
  | _ => none

def askFile (m : Machine) (operator : String) (path : Chars) : Option Bool :=
  let entry := (m.files.locate (toBytes path)).toOption.bind m.files.entryAt?
  match operator with
  | "-e" | "-r" | "-w" => some entry.isSome
  | "-d" => some (entry == some .folder)
  | "-f" => some (match entry with
    | some (.file ..) => true
    | _ => false)
  | "-s" => some (match entry with
    | some (.file contents _) => !contents.isEmpty
    | some .folder => true
    | some (.link _) | none => false)
  | "-x" => some (match entry with
    | some (.file _ mode) => mode.executable
    | some .folder => true
    | some (.link _) | none => false)
  | "-h" | "-L" => some (match (m.files.place (toBytes path)).toOption.join with
    | some at_ => match m.files.entryAt? at_.location with
      | some (.link _) => !at_.slashed
      | _ => false
    | none => false)
  | _ => none

def asks (m : Machine) (operator a : Chars) : Option Bool :=
  match String.ofList operator with
  | "!" => some a.isEmpty
  | "-n" => some !a.isEmpty
  | "-z" => some a.isEmpty
  | operator => askFile m operator a

/-- The truth of a comparison; `none` if it cannot be read. -/
def compares (m : Machine) : List Chars → Option Bool
  | [] => some false
  | [a] => some !a.isEmpty
  | [operator, a] => asks m operator a
  | [a, operator, b] =>
    match String.ofList operator with
    | "=" => some (a == b)
    | "!=" => some (a != b)
    | name =>
      if a == ['!'] then (asks m operator b).map (!·)
      else do compare name (← number? a) (← number? b)
  | ['!'] :: args => (compares m args).map (!·)
  | _ => none

/-- The truth of comparisons joined by `-o` and `-a`, of which `-a` binds closer. -/
def joined (m : Machine) (args : List Chars) : Option Bool :=
  if args.length ≤ 3 then compares m args
  else
    (pieces ['-', 'o'] args).foldr (fun part truth => do
      let part ← (pieces ['-', 'a'] part).foldr (fun one truth => do
        return (← compares m one) && (← truth)) (some true)
      return part || (← truth)) (some false)
where
  /-- The arguments between those that are `joint`. -/
  pieces (joint : Chars) : List Chars → List (List Chars)
    | [] => [[]]
    | arg :: rest =>
      match pieces joint rest with
      | [] => [[arg]]
      | first :: others => if arg == joint then [] :: first :: others else (arg :: first) :: others

def test (m : Machine) (args : List Chars) : Flow × Machine :=
  m.finish (match joined m args with
    | some true => 0
    | some false => 1
    | none => 2)

def rm (m : Machine) (args : List Chars) : Flow × Machine :=
  let forced := args.contains ['-', 'f']
  let paths := args.filter fun a => a.head? != some '-'
  let (files, failed) := paths.foldl (fun (files, failed) path =>
    match files.remove (toBytes path) with
    | .ok files => (files, failed)
    | .error cause => (files, failed || !(forced && cause == .errno Errno.noEntry)))
    (m.files, paths.isEmpty && !forced)
  ({ m with files }).finish (if failed then 1 else 0)

/-- Makes files that are not there, empty. -/
def touch (m : Machine) (args : List Chars) : Flow × Machine :=
  let (files, failed) := args.foldl (fun (files, failed) path =>
    if files.has (toBytes path) then (files, failed)
    else match files.write (toBytes path) [] with
      | .ok files => (files, failed)
      | .error (_, files) => (files, true)) (m.files, args.isEmpty)
  ({ m with files }).finish (if failed then 1 else 0)

/-- Gives a file another name, or makes a link with `-s`. A name in a folder is the last one of what it
is for. -/
def ln (m : Machine) (args : List Chars) : Flow × Machine :=
  let symbolic := args.contains ['-', 's']
  match args.filter fun a => a.head? != some '-' with
  | [target, path] =>
    let target := toBytes target
    let path := toBytes path
    let path := if m.files.isFolder path then Path.join path ((Path.fileName? target).getD []) else path
    let made := if symbolic then m.files.makeLink target path else m.files.makeName target path
    match made with
    | .ok files => ({ m with files }).finish 0
    | .error _ => m.finish 1
  | _ => m.finish 1

def cat (m : Machine) (args : List Chars) : Flow × Machine :=
  if args.isEmpty then ({ m with input := [], output := m.output ++ m.input }).finish 0
  else
    let (output, failed) := args.foldl (fun (output, failed) path =>
      match m.files.read (toBytes path) with
      | .ok contents => (output ++ ofBytes contents, failed)
      | .error _ => (output, true)) (m.output, false)
    ({ m with output }).finish (if failed then 1 else 0)

def signals : List (String × Nat) := [
  ("HUP", 1), ("INT", 2), ("QUIT", 3), ("ILL", 4), ("TRAP", 5), ("ABRT", 6), ("BUS", 7),
  ("FPE", 8), ("KILL", 9), ("USR1", 10), ("SEGV", 11), ("USR2", 12), ("PIPE", 13), ("ALRM", 14),
  ("TERM", 15), ("XCPU", 24), ("XFSZ", 25), ("VTALRM", 26), ("PROF", 27), ("SYS", 31)]

def signal? (cs : Chars) : Option Nat :=
  let name := if "SIG".toList.isPrefixOf cs then cs.drop 3 else cs
  match number? name with
  | some n => some n.toNat
  | none => signals.lookup (String.ofList name)

/-- Sends a signal. Only the script itself is there to get one, and signal 0 does nothing. -/
def kill (m : Machine) (args : List Chars) : Flow × Machine :=
  let (signal, targets) := match args with
    | ['-', 's'] :: name :: targets => (signal? name, targets)
    | ('-' :: name) :: targets => (signal? name, targets)
    | targets => (some 15, targets)
  match signal with
  | none => m.finish 2
  | some n =>
    if targets.contains Machine.processId then if n = 0 then m.finish 0 else (.kill n, m)
    else m.finish 1

def exit (m : Machine) (args : List Chars) : Flow × Machine :=
  match args with
  | [] => (.exit m.status, m)
  | code :: _ =>
    match number? code with
    | some n => if 0 ≤ n then (.exit (n.toNat % 256), m) else (.exit 2, m)
    | none => (.exit 2, m)

def shift (m : Machine) (args : List Chars) : Flow × Machine :=
  let n := ((args.head?.bind number?).map Int.toNat).getD 1
  if n ≤ m.args.length then ({ m with args := m.args.drop n }).finish 0 else (.exit 2, m)

def unset (m : Machine) (args : List Chars) : Flow × Machine :=
  ({ m with environment := args.foldl (fun e name => e.unset (toBytes name)) m.environment }).finish 0

def export_ (m : Machine) (args : List Chars) : Flow × Machine :=
  (args.foldl (fun m arg => match Text.splitOnce '=' arg with
    | some (name, value) => m.assign name value
    | none => m) m).finish 0

def run (m : Machine) (name : Chars) (args : List Chars) : Flow × Machine :=
  match String.ofList name with
  | ":" | "true" | "sleep" | "set" => m.finish 0
  | "false" => m.finish 1
  | "echo" => echo m args
  | "printf" => printf m args
  | "read" => read m args
  | "test" => test m args
  | "[" =>
    if args.getLast? == some [']'] then test m args.dropLast else m.finish 2
  | "rm" => rm m args
  | "touch" => touch m args
  | "ln" => ln m args
  | "cat" => cat m args
  | "kill" => kill m args
  | "exit" | "return" => exit m args
  | "break" => (.leave, { m with status := 0 })
  | "continue" => (.again, { m with status := 0 })
  | "shift" => shift m args
  | "unset" => unset m args
  | "export" => export_ m args
  | _ => m.finish notFound

end HostAccess.Shell.Builtin
