import HostAccess.Base64
import HostAccess.Bench.PamStack
import HostAccess.Bench.Script
import HostAccess.Bench.Server
import HostAccess.Bench.Session
import HostAccess.Bench.Setup
import HostAccess.Bytes
import HostAccess.Certificate
import HostAccess.Client
import HostAccess.Der
import HostAccess.Environment
import HostAccess.Error
import HostAccess.FileTree
import HostAccess.Fixtures
import HostAccess.Glob.Pattern
import HostAccess.Glob.Search
import HostAccess.Guard
import HostAccess.Harness
import HostAccess.Http.Exchange
import HostAccess.Http.Form
import HostAccess.Http.Url
import HostAccess.Identity
import HostAccess.Journal
import HostAccess.Json.Basic
import HostAccess.Json.Lexical
import HostAccess.Json.Reader
import HostAccess.Json.Skim
import HostAccess.Json.Writer
import HostAccess.Main
import HostAccess.Members
import HostAccess.ModuleConfig
import HostAccess.Number.Binary64
import HostAccess.Number.Shortest
import HostAccess.Object
import HostAccess.Outcome
import HostAccess.Pam.Command
import HostAccess.Pam.Result
import HostAccess.Pam.Transaction
import HostAccess.Path
import HostAccess.Pem
import HostAccess.Pieces
import HostAccess.ProgramCheck
import HostAccess.Reply
import HostAccess.Scenario
import HostAccess.Settings
import HostAccess.Shell.Builtin
import HostAccess.Shell.Command
import HostAccess.Shell.Launch
import HostAccess.Shell.Machine
import HostAccess.Shell.Reader
import HostAccess.Shell.Run
import HostAccess.Shell.Token
import HostAccess.SystemError
import HostAccess.Text.Blank
import HostAccess.Text.Case
import HostAccess.Text.Case.Context
import HostAccess.Text.Case.Tables
import HostAccess.Text.Lines
import HostAccess.Text.Printable
import HostAccess.Text.Quoted
import HostAccess.Text.Ranges
import HostAccess.Text.Utf8
import HostAccess.TrustAnchor
import HostAccess.World
import HostAccess.Proofs.FileTree
import HostAccess.Proofs.Utf8
import HostAccess.Proofs.Guards
import HostAccess.Proofs.Check
import HostAccess.Proofs.Cleanup
import HostAccess.Proofs.Client
import HostAccess.Proofs.SessionProtocol
import HostAccess.Proofs.Fixtures
import HostAccess.Proofs.UndoStack
import HostAccess.Proofs.JsonText
import HostAccess.Proofs.JsonValue
import HostAccess.Proofs.CommandBody
import HostAccess.Proofs.Directory
import HostAccess.Proofs.Restoration
import HostAccess.Proofs.Lines
import HostAccess.Proofs.PathNames
import HostAccess.Proofs.ConfigText
import HostAccess.Proofs.Contents
import HostAccess.Proofs.Course
import HostAccess.Proofs.Isolation
import HostAccess.Proofs.Operations
import HostAccess.Proofs.SetupErrors
import HostAccess.Proofs.Veil
import HostAccess.Proofs.Alike
import HostAccess.Proofs.Secrecy
import HostAccess.Proofs.Codes
import HostAccess.Proofs.LowerCase
import HostAccess.Proofs.Settings
import HostAccess.Proofs.JsonMembers
import HostAccess.Proofs.JsonGrammar
import HostAccess.Proofs.JsonProper
import HostAccess.Proofs.Objects
import HostAccess.Proofs.HostNames
import HostAccess.Proofs.Shown
import HostAccess.Proofs.WrittenSettings
import HostAccess.Proofs.Assertions
import HostAccess.Proofs.JsonSkim
import HostAccess.Proofs.Refusals
import HostAccess.Proofs.Replies
import HostAccess.Proofs.Memberships
import HostAccess.Proofs.ConfigGrammar
import HostAccess.Proofs.Requirements
import HostAccess.Proofs.Listing
import HostAccess.Proofs.Search
import HostAccess.Proofs.Leftovers
import HostAccess.Proofs.Transaction
import HostAccess.Proofs.CommandAgreement
import HostAccess.Proofs.SessionCookie
import HostAccess.Proofs.GuardedFiles
import HostAccess.Proofs.ResultTexts
import HostAccess.Proofs.BaseDn
import HostAccess.Proofs.Journal
