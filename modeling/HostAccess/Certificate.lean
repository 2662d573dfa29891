import HostAccess.Guard
import HostAccess.Identity

/-!
# The server's certificate

A run that trusts the server by its certificate first fetches the certificate from the server into a
file. The file is guarded: it is removed when it is no longer needed.
-/
namespace HostAccess.Certificate

variable {ν : Type}

def address : String := "/ipa/config/ca.crt"

def method : String := "GET ca.crt"

def request (url : String) : Http.Request where
  method := .get
  url := url
  headers := [("accept", "*/*")]
  body := []

def fetchFrom (network : Network ν) (url : String) (path : Path) : Act ν Guard := do
  Act.note .rpc .debug ("fetching trust certificate from " ++ url)
  let response ← network.answer (request url)
  if !Http.isSuccess response.status then
    Act.fail (.remote method response.status ("cannot fetch " ++ url))
  else
    let contents ← response.whole
    Guard.create .rpc path contents

def fetch (network : Network ν) (server : Identity) (path : Path) : Act ν Guard :=
  fetchFrom network ("http://" ++ server.hostname ++ address) path

end HostAccess.Certificate
