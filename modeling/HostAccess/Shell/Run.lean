import HostAccess.Shell.Builtin
import HostAccess.Shell.Reader

/-!
# Running scripts

A command changes the state of the script and sets a status, by which the commands around it decide
how to go on. A script can repeat commands without end; a bound on the number of steps keeps running
it a total function, and a script that reaches the bound is killed.
-/
namespace HostAccess.Shell

def cannotOpen : Nat := 2

/-- The file that takes everything and holds nothing. -/
def nowhere : Path := Utf8.encode "/dev/null"

def matchesCase (pattern subject : Chars) : Bool :=
  match Glob.tokens pattern with
  | .ok tokens => Glob.accepts tokens subject
  | .error _ => pattern == subject

/-- Where the output of a command goes: on, away, or into a file. -/
inductive Sink where
  | on
  | away
  | file (path : Path) (before : Bytes)

/-- Opens the files of redirections in order: the input and the sink of the command, if all of them
can be opened, and the state after that. -/
def openAll (m : Machine) (sink : Sink) : List Redirection → Bool × Sink × Machine
  | [] => (true, sink, m)
  | .input file :: rest =>
    let path := toBytes (m.text file)
    if path == nowhere then openAll { m with input := [] } sink rest
    else match m.files.read path with
      | .ok contents => openAll { m with input := ofBytes contents } sink rest
      | .error _ => (false, sink, m)
  | .output stream append file :: rest =>
    let path := toBytes (m.text file)
    let before := if append then ((m.files.read path).toOption).getD [] else []
    if path == nowhere then openAll m (if stream = 1 then .away else sink) rest
    else match m.files.write path before with
      | .ok files => openAll { m with files } (if stream = 1 then .file path before else sink) rest
      | .error (_, files) => (false, sink, { m with files })
  | .copy stream file :: rest =>
    let target := m.text file
    openAll m (if stream = 1 then (if target == ['1'] then sink else .away) else sink) rest

/-- What the output of a command becomes, after the output that was there before it. -/
def drain (m : Machine) (before : Chars) : Sink → Machine
  | .on => { m with output := before ++ m.output }
  | .away => { m with output := before }
  | .file path start =>
    match m.files.write path (start ++ toBytes m.output) with
    | .ok files | .error (_, files) => { m with files, output := before }

def run : Nat → Command → Machine → Flow × Machine
  | 0, _, m => (.kill 9, m)
  | fuel + 1, command, m =>
    match command with
    | .nothing => (.next, m)
    | .simple assignments words =>
      match words.flatMap m.fields with
      | [] =>
        (assignments.foldl (fun m (name, value) => m.assign name (m.text value)) m).finish 0
      | name :: args => Builtin.run m name args
    | .redirected command redirections =>
      let before := m.output
      let input := m.input
      match openAll { m with output := [] } .on redirections with
      | (false, _, opened) => ({ opened with output := before, input }).finish cannotOpen
      | (true, sink, opened) =>
        let (flow, after) := run fuel command opened
        (flow, { drain after before sink with input })
    | .sequence first second =>
      match run fuel first m with
      | (.next, m) => run fuel second m
      | ended => ended
    | .both first second =>
      match run fuel first m with
      | (.next, m) => if m.status = 0 then run fuel second m else (.next, m)
      | ended => ended
    | .either first second =>
      match run fuel first m with
      | (.next, m) => if m.status = 0 then (.next, m) else run fuel second m
      | ended => ended
    | .pipe first second =>
      let (flow, written) := run fuel first { m with output := [] }
      match flow with
      | .kill signal => (.kill signal, written)
      | _ =>
        let (flow, after) := run fuel second
          { m with files := written.files, input := written.output }
        let after := { m with files := after.files, output := after.output, status := after.status }
        match flow with
        | .exit code => after.finish code
        | flow => (flow, after)
    | .negated command =>
      match run fuel command m with
      | (.next, m) => m.finish (if m.status = 0 then 1 else 0)
      | ended => ended
    | .branch condition yes no =>
      match run fuel condition m with
      | (.next, m) => run fuel (if m.status = 0 then yes else no) { m with status := 0 }
      | ended => ended
    | .loop while_ condition body =>
      match run fuel condition m with
      | (.next, m) =>
        if (m.status = 0) = while_ then
          match run fuel body m with
          | (.next, m) | (.again, m) => run fuel (.loop while_ condition body) m
          | (.leave, m) => m.finish 0
          | ended => ended
        else m.finish 0
      | ended => ended
    | .each name words body =>
      repeated fuel name body (words.flatMap m.fields) { m with status := 0 }
    | .choose subject cases =>
      let subject := m.text subject
      match cases.find? fun (patterns, _) =>
          patterns.any fun pattern => matchesCase (m.text pattern) subject with
      | some (_, body) => run fuel body { m with status := 0 }
      | none => m.finish 0
where
  repeated : Nat → Chars → Command → List Chars → Machine → Flow × Machine
    | 0, _, _, _, m => (.kill 9, m)
    | _, _, _, [], m => (.next, m)
    | fuel + 1, name, body, value :: values, m =>
      match run fuel body (m.assign name value) with
      | (.next, m) | (.again, m) => repeated fuel name body values m
      | (.leave, m) => m.finish 0
      | ended => ended

def unreadable : Nat := 2

def stepBound : Nat := 20000

def runScript (script : Chars) (m : Machine) : Flow × Machine :=
  match Command.read? script with
  | none => (.exit unreadable, m)
  | some command =>
    match run stepBound command m with
    | (.next, m) | (.leave, m) | (.again, m) => (.exit m.status, m)
    | ended => ended

end HostAccess.Shell
