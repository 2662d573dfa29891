/-!
# Result codes of PAM

A PAM function answers with a 32-bit code. The codes that have a meaning are named; every other code
is kept as it is, so no code is ever taken for another. The text of a code ends with its number,
which tells apart what the words do not.
-/
namespace HostAccess.Pam

inductive Result where
  | success
  | openError
  | symbolError
  | serviceError
  | systemError
  | bufferError
  /-- The account phase refused access: what a denial by a rule looks like. -/
  | permissionDenied
  | authError
  | credentialsInsufficient
  | authInfoUnavailable
  | userUnknown
  | maxTries
  | newAuthTokenRequired
  | accountExpired
  | sessionError
  | credentialsUnavailable
  | credentialsExpired
  | credentialsError
  | noModuleData
  | conversationError
  | authTokenError
  | authTokenRecoveryError
  | authTokenLockBusy
  | authTokenDisableAging
  | tryAgain
  | ignore
  | abort
  | authTokenExpired
  | moduleUnknown
  | badItem
  /-- A code without a meaning of its own. -/
  | unknown (code : Int32)
  deriving DecidableEq, Repr

namespace Result

def ofCode (code : Int32) : Result :=
  match code.toInt with
  | 0 => .success
  | 1 => .openError
  | 2 => .symbolError
  | 3 => .serviceError
  | 4 => .systemError
  | 5 => .bufferError
  | 6 => .permissionDenied
  | 7 => .authError
  | 8 => .credentialsInsufficient
  | 9 => .authInfoUnavailable
  | 10 => .userUnknown
  | 11 => .maxTries
  | 12 => .newAuthTokenRequired
  | 13 => .accountExpired
  | 14 => .sessionError
  | 15 => .credentialsUnavailable
  | 16 => .credentialsExpired
  | 17 => .credentialsError
  | 18 => .noModuleData
  | 19 => .conversationError
  | 20 => .authTokenError
  | 21 => .authTokenRecoveryError
  | 22 => .authTokenLockBusy
  | 23 => .authTokenDisableAging
  | 24 => .tryAgain
  | 25 => .ignore
  | 26 => .abort
  | 27 => .authTokenExpired
  | 28 => .moduleUnknown
  | 29 => .badItem
  | _ => .unknown code

def code : Result → Int32
  | .success => 0
  | .openError => 1
  | .symbolError => 2
  | .serviceError => 3
  | .systemError => 4
  | .bufferError => 5
  | .permissionDenied => 6
  | .authError => 7
  | .credentialsInsufficient => 8
  | .authInfoUnavailable => 9
  | .userUnknown => 10
  | .maxTries => 11
  | .newAuthTokenRequired => 12
  | .accountExpired => 13
  | .sessionError => 14
  | .credentialsUnavailable => 15
  | .credentialsExpired => 16
  | .credentialsError => 17
  | .noModuleData => 18
  | .conversationError => 19
  | .authTokenError => 20
  | .authTokenRecoveryError => 21
  | .authTokenLockBusy => 22
  | .authTokenDisableAging => 23
  | .tryAgain => 24
  | .ignore => 25
  | .abort => 26
  | .authTokenExpired => 27
  | .moduleUnknown => 28
  | .badItem => 29
  | .unknown code => code

def describe : Result → String
  | .success => "Success"
  | .openError => "Failed to load module"
  | .symbolError => "Symbol not found"
  | .serviceError => "Error in service module"
  | .systemError => "System error"
  | .bufferError => "Memory buffer error"
  | .permissionDenied => "Permission denied"
  | .authError => "Authentication failure"
  | .credentialsInsufficient => "Insufficient credentials to access authentication data"
  | .authInfoUnavailable => "Authentication service cannot retrieve authentication info"
  | .userUnknown => "User not known to the underlying authentication module"
  | .maxTries => "Have exhausted maximum number of retries for service"
  | .newAuthTokenRequired => "Authentication token is no longer valid; new one required"
  | .accountExpired => "User account has expired"
  | .sessionError => "Cannot make/remove an entry for the specified session"
  | .credentialsUnavailable => "Authentication service cannot retrieve user credentials"
  | .credentialsExpired => "User credentials expired"
  | .credentialsError => "Failure setting user credentials"
  | .noModuleData => "No module specific data is present"
  | .conversationError => "Conversation error"
  | .authTokenError => "Authentication token manipulation error"
  | .authTokenRecoveryError => "Authentication information cannot be recovered"
  | .authTokenLockBusy => "Authentication token lock busy"
  | .authTokenDisableAging => "Authentication token aging disabled"
  | .tryAgain => "Failed preliminary check by password service"
  | .ignore => "The return value should be ignored by PAM dispatch"
  | .abort => "Critical error - immediate abort"
  | .authTokenExpired => "Authentication token expired"
  | .moduleUnknown => "Module is unknown"
  | .badItem => "Bad item passed to pam_*_item()"
  | .unknown _ => "Unknown PAM error"

/-- A result as it is reported: its words and its number. -/
def render (r : Result) : String := r.describe ++ " (" ++ toString r.code.toInt ++ ")"

end Result

end HostAccess.Pam
