import HostAccess.Shell.Token

/-!
# Reading scripts

A script is a list of commands. A word is a keyword only where a command may begin and only if no
part of it is quoted. What does not read as a script at all is not run.
-/
namespace HostAccess.Shell

namespace Reader

def plain? : Word → Option Chars
  | [] => some []
  | .text cs false :: rest => (plain? rest).map (cs ++ ·)
  | _ :: _ => none

def keyword? : Token → Option String
  | .word w => (plain? w).map String.ofList
  | _ => none

def startsWith (keyword : String) : List Token → Bool
  | t :: _ => keyword? t == some keyword
  | [] => false

def expect (keyword : String) : List Token → Option (List Token)
  | t :: rest => if keyword? t == some keyword then some rest else none
  | [] => none

def closing : List String := ["then", "elif", "else", "fi", "do", "done", "esac", "\x7d"]

def ends : List Token → Bool
  | [] => true
  | .mark cs :: _ => cs == ";;".toList || cs == ")".toList
  | t :: _ => (keyword? t).any closing.contains

def skipLines : List Token → List Token
  | .newline :: rest => skipLines rest
  | tokens => tokens

def assignment? (w : Word) : Option (Chars × Word) :=
  let isName (piece : Piece) : Bool :=
    match piece with
    | .text cs false => cs.all fun c => Token.continuesName c
    | _ => false
  match w.takeWhile isName, w.dropWhile isName with
  | name@(_ :: _), .text ['='] false :: value =>
    (plain? name).bind fun name =>
      if name.head?.any Token.beginsName then some (name, value) else none
  | _, _ => none

def redirections : List Token → List Redirection × List Token
  | .redirect stream text :: .word w :: rest =>
    let (others, after) := redirections rest
    let this : Redirection :=
      match String.ofList text with
      | ">" => .output (stream.getD 1) false w
      | ">>" => .output (stream.getD 1) true w
      | ">&" => .copy (stream.getD 1) w
      | "<" => .input w
      | _ => .copy (stream.getD 0) w
    (this :: others, after)
  | tokens => ([], tokens)

def redirect (command : Command) : List Redirection → Command
  | [] => command
  | rs => .redirected command rs

def words : List Token → List Word × List Redirection × List Token
  | .word w :: rest =>
    let (ws, rs, after) := words rest
    (w :: ws, rs, after)
  | .redirect stream text :: .word w :: rest =>
    let (ws, rs, after) := words rest
    (ws, (redirections [.redirect stream text, .word w]).1 ++ rs, after)
  | tokens => ([], [], tokens)

/-- A simple command from its words: first come assignments. -/
def simple : List (Chars × Word) → List Word → Command
  | assignments, w :: ws =>
    match assignment? w with
    | some a => simple (assignments ++ [a]) ws
    | none => .simple assignments (w :: ws)
  | assignments, [] => .simple assignments []

def forWords : List Token → List Word × List Token
  | .word w :: rest =>
    let (ws, after) := forWords rest
    (w :: ws, after)
  | .newline :: rest | .mark _ :: rest => ([], rest)
  | tokens => ([], tokens)

def patterns : List Token → Option (List Word × List Token)
  | .word w :: .mark ['|'] :: rest => (patterns rest).map fun (ws, after) => (w :: ws, after)
  | .word w :: .mark [')'] :: rest => some ([w], rest)
  | .mark ['('] :: .word w :: .mark [')'] :: rest => some ([w], rest)
  | _ => none

mutual

def list : Nat → List Token → Option (Command × List Token)
  | 0, _ => none
  | fuel + 1, tokens =>
    let tokens := skipLines tokens
    if ends tokens then some (.nothing, tokens)
    else do
      let (first, rest) ← chain fuel tokens
      match rest with
      | .newline :: rest | .mark [';'] :: rest | .mark ['&'] :: rest =>
        let (second, rest) ← list fuel rest
        return (.sequence first second, rest)
      | rest => if ends rest then some (first, rest) else none

/-- Reads commands joined by `&&` and `||`, which count alike and from the left. -/
def chain : Nat → List Token → Option (Command × List Token)
  | 0, _ => none
  | fuel + 1, tokens => do
    let (first, rest) ← pipeline fuel tokens
    links fuel first rest

def links : Nat → Command → List Token → Option (Command × List Token)
  | 0, _, _ => none
  | fuel + 1, first, tokens =>
    match tokens with
    | .mark ['&', '&'] :: rest => do
      let (second, rest) ← pipeline fuel (skipLines rest)
      links fuel (.both first second) rest
    | .mark ['|', '|'] :: rest => do
      let (second, rest) ← pipeline fuel (skipLines rest)
      links fuel (.either first second) rest
    | tokens => some (first, tokens)

/-- Reads commands joined by `|`, with `!` in front of them or not. -/
def pipeline : Nat → List Token → Option (Command × List Token)
  | 0, _ => none
  | fuel + 1, tokens =>
    if startsWith "!" tokens then
      (pipeline fuel tokens.tail).map fun (command, rest) => (.negated command, rest)
    else do
      let (first, rest) ← command fuel tokens
      match rest with
      | .mark ['|'] :: rest =>
        (pipeline fuel (skipLines rest)).map fun (second, rest) => (.pipe first second, rest)
      | rest => some (first, rest)

def command : Nat → List Token → Option (Command × List Token)
  | 0, _ => none
  | fuel + 1, tokens =>
    let compound (step : Option (Command × List Token)) :
        Option (Command × List Token) :=
      step.map fun (c, rest) =>
        let (rs, rest) := redirections rest
        (redirect c rs, rest)
    match tokens with
    | [] => none
    | .mark ['('] :: rest => compound do
      let (body, rest) ← list fuel rest
      match rest with
      | .mark [')'] :: rest => some (body, rest)
      | _ => none
    | first :: rest =>
      match keyword? first with
      | some "if" => compound (conditional fuel rest)
      | some "while" => compound (repetition fuel true rest)
      | some "until" => compound (repetition fuel false rest)
      | some "for" => compound (enumeration fuel rest)
      | some "case" => compound (choice fuel rest)
      | some "\x7b" => compound do
        let (body, rest) ← list fuel rest
        return (body, ← expect "\x7d" rest)
      | _ =>
        match words tokens with
        | ([], [], _) => none
        | (ws, rs, rest) => some (redirect (simple [] ws) rs, rest)

def conditional : Nat → List Token → Option (Command × List Token)
  | 0, _ => none
  | fuel + 1, tokens => do
    let (condition, rest) ← list fuel tokens
    let (yes, rest) ← list fuel (← expect "then" rest)
    if startsWith "elif" rest then
      (conditional fuel rest.tail).map fun (no, rest) => (.branch condition yes no, rest)
    else if startsWith "else" rest then
      let (no, rest) ← list fuel rest.tail
      return (.branch condition yes no, ← expect "fi" rest)
    else
      return (.branch condition yes .nothing, ← expect "fi" rest)

def repetition : Nat → Bool → List Token → Option (Command × List Token)
  | 0, _, _ => none
  | fuel + 1, while_, tokens => do
    let (condition, rest) ← list fuel tokens
    let (body, rest) ← list fuel (← expect "do" rest)
    return (.loop while_ condition body, ← expect "done" rest)

def enumeration : Nat → List Token → Option (Command × List Token)
  | 0, _ => none
  | fuel + 1, tokens => do
    match tokens with
    | .word name :: rest =>
      let name ← plain? name
      let (ws, rest) :=
        if startsWith "in" (skipLines rest) then forWords (skipLines rest).tail
        else ([[.parameter ['@'] true]], if rest.head? == some (.mark [';']) then rest.tail else rest)
      let (body, rest) ← list fuel (← expect "do" (skipLines rest))
      return (.each name ws body, ← expect "done" rest)
    | _ => none

def choice : Nat → List Token → Option (Command × List Token)
  | 0, _ => none
  | fuel + 1, tokens =>
    match tokens with
    | .word subject :: rest => do
      let (cases, rest) ← alternatives fuel (skipLines (← expect "in" (skipLines rest)))
      return (.choose subject cases, rest)
    | _ => none

def alternatives : Nat → List Token → Option (List (List Word × Command) × List Token)
  | 0, _ => none
  | fuel + 1, tokens =>
    if startsWith "esac" tokens then some ([], tokens.tail)
    else do
      let (ws, rest) ← patterns tokens
      let (body, rest) ← list fuel rest
      match rest with
      | .mark [';', ';'] :: rest =>
        let (others, rest) ← alternatives fuel (skipLines rest)
        return ((ws, body) :: others, rest)
      | rest => return ([(ws, body)], ← expect "esac" rest)

end

end Reader

def Command.read? (script : Chars) : Option Command := do
  let tokens ← tokens? script
  match ← Reader.list (8 * tokens.length + 8) tokens with
  | (command, []) => some command
  | _ => none

end HostAccess.Shell
