import CellExchange.Files
import CellExchange.Job
import CellExchange.Url

/-! # The provider's service

The provider offers its files at an address. A request gets a status and a body (`Answer`); a
download is good only if the status is 200 and the whole body arrives (`Service.download`). A number
that is no status, or one that only announces another answer, is no answer at all.

Which addresses lead to the provider, with or without encryption, is up to the network: a service has
an answer for each address, or none where a request does not reach it (`Service.answer`). If an
answer sends the request on to another address, only the answer in which this ends counts. -/

namespace CellExchange.Provider

/-- The answer to a request. -/
structure Answer where
  /-- The status. -/
  status : Nat
  /-- The body, in the pieces in which it arrives. -/
  pieces : List ByteArray
  /-- Whether all of the body arrives. -/
  complete : Bool := true

/-- The service of the provider. -/
structure Service where
  /-- Its answer to a request for an address; nothing if the request does not reach it. -/
  answer : Url → Option Answer
  /-- The lines of the requests, in order, as they are made before they are sent on. -/
  requests : Array String := #[]

/-- Where the provider's files are, and who asks. -/
structure Account where
  /-- The address. -/
  url : String
  /-- The key of the account. -/
  apiKey : String
  deriving DecidableEq, Repr

/-- The address at which a file is asked for. -/
def Account.address (a : Account) (name : String) : Except AddressFault Url :=
  (Url.parse a.url).map fun u => u.addQuery [("apiKey", a.apiKey), ("filename", name)]

namespace Service

/-- Asks for what an address names. -/
def get (u : Url) : Action Service Answer := do
  let s ← EStateM.get
  match s.answer u with
  | none => throw (.of (.http (.unreachable u.text)))
  | some answer =>
    set { s with requests := s.requests.push ("GET " ++ u.target ++ " HTTP/1.1") }
    if !isStatus answer.status then throw (.of (.http (.noStatus u.text)))
    if isInterim answer.status then throw (.of (.http (.interimStatus u.text)))
    return answer

/-- Downloads a file to a path. -/
def download (account : Account) (name path : String) : Job Service ByteArray := do
  match account.address name with
  | .error fault => Job.fail (.http (.address fault))
  | .ok address =>
    let answer ← Job.act (get address)
    if answer.status ≠ 200 then Job.fail (.providerStatus name answer.status)
    Job.within (.create path) (Job.ofExcept ((checkPath path).mapError .file))
    if !answer.complete then Job.fail (.http .cutOff)
    let body := answer.pieces.foldl (· ++ ·) .empty
    Job.tell (.downloadedBytes body.size name)
    return body

end Service

end CellExchange.Provider
