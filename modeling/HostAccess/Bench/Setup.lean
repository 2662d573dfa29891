import HostAccess.Bench.Session

/-!
# Setting up the bench

A session begins in a working folder with some files in it, next to a few programs that every system
has. The client and the harness are made before the first step; what goes wrong then is told, and the
session goes on without the one that could not be made.
-/
namespace HostAccess.Bench

def workingFolder : Location := ["srv", "bench"].map Utf8.encode

def exiting (code : Nat) : Bytes := Utf8.encode ("#!/bin/sh\nexit " ++ toString code ++ "\n")

def systemFiles : List (String × Entry) := [
  ("/bin/", .folder), ("/usr/", .folder), ("/usr/bin/", .folder), ("/tmp/", .folder),
  ("/srv/", .folder), ("/srv/bench/", .folder),
  ("/bin/sh", .file (Utf8.encode "\x7fELF") .program), ("/bin/true", .file (exiting 0) .program),
  ("/bin/false", .file (exiting 1) .program), ("/usr/bin/sh", .file (Utf8.encode "\x7fELF") .program),
  ("/usr/bin/true", .file (exiting 0) .program), ("/usr/bin/false", .file (exiting 1) .program)]

def locationOf (path : String) : Location := (Path.ofString path).names

def emptyTree : FileTree where
  entries := systemFiles.map fun (path, entry) => (locationOf path, entry)
  home := workingFolder

structure Laid where
  path : Path
  contents : Bytes
  executable : Bool

def treeOf (files : List Laid) : FileTree :=
  files.foldl (fun t f => (lay t f.path f.contents f.executable).getD t) emptyTree

def emptyEnvironment : Environment :=
  Environment.empty.set Shell.searchPath
    (Utf8.encode "/usr/local/sbin:/usr/local/bin:/usr/sbin:/usr/bin:/sbin:/bin")

def worldOf (files : List Laid) (server : Server) (answers : List Answer) (table : List Row) :
    BenchWorld where
  files := treeOf files
  environment := emptyEnvironment
  journal := []
  wire := []
  credential := none
  outside := ⟨server, ⟨answers, table, []⟩⟩

inductive ClientChoice where
  | none
  | byName (identity : Identity)
  | at_ (identity : Identity) (url : String)
  /-- For the server of the settings, by its name or at an address. -/
  | ofSettings (url : Option String)

def ClientChoice.connect (choice : ClientChoice) (settings : Option Settings) (w : BenchWorld) :
    Option (Ending (Client Outside) × BenchWorld) :=
  match choice with
  | .none => Option.none
  | .byName identity => some (Client.connect network identity w)
  | .at_ identity url => some (Client.connectAt network identity url w)
  | .ofSettings url =>
    settings.map fun s => match url with
      | some url => Client.connectAt network s.server url w
      | Option.none => Client.connect network s.server w

/-- What is told about a session: why there are no settings, if they are asked for; what came of
making the client, if one is asked for; the steps, the end, and the journal. -/
structure Transcript where
  settings : Option Misconfiguration
  client : Option (Except Error Unit)
  reports : List Report
  ending : Report
  journal : Journal

/-- Plays a session. Settings are asked for as variables, or given as they are. -/
def playSession (settings : Option (Except Misconfiguration Settings)) (checker : CheckerChoice)
    (client : ClientChoice) (steps : List Step) (w : BenchWorld) : Transcript :=
  let loaded := settings.bind Except.toOption
  let (connected, w) := match client.connect loaded w with
    | some (ending, w) => (some ending, w)
    | none => (none, w)
  let made := connected.bind fun
    | .done c => some c
    | _ => none
  let setup : Setup := {
    client := made
    harness := loaded.map fun s => Harness.ofSettings s (checker.checker s) }
  let (reports, ending, w) := play setup steps w
  { settings := settings.bind fun
      | .error cause => some cause
      | .ok _ => none
    client := connected.map fun
      | .failed e => .error e
      | _ => .ok ()
    reports
    ending
    journal := w.journal }

end HostAccess.Bench
