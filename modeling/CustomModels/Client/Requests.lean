import CustomModels.Client.Fetch
import CustomModels.Lib.Holding
import CustomModels.Shared.Assets

/-!
# A request of the WinHTTP backend

`Fetch` in `winhttp_fetch.cpp` as a whole: the checks, the handles of WinHTTP, the request, the headers of the response
and, where these are as expected, the loop on a file that is opened for it. Every call is recorded, and so are the
destructors that close the handles.
-/

namespace CustomModels.Client
open CustomModels.Shared CustomModels.Lib

structure FetchOptions where
  redirectLimit : UInt32
  connectionTimeoutMilliseconds : UInt32
  transferTimeoutMilliseconds : UInt32

/-- The values that the manager leaves as they are. -/
def FetchOptions.default : FetchOptions := ⟨5, 10000, 120000⟩

namespace WinHttpFetchBackend

/-! ## URLs -/

def internetSchemeHttp : UInt32 := 1
def internetSchemeHttps : UInt32 := 2

/-- What `WinHttpCrackUrl` fills into `URL_COMPONENTS`. -/
structure UrlComponents where
  scheme : UInt32
  hostName : List UInt16
  port : UInt16
  urlPath : List UInt16
  extraInfo : List UInt16

structure ParsedUrl where
  host : List UInt16
  target : List UInt16
  path : List UInt16
  port : UInt16
  secure : Bool

/-- `ParseUrl`. A URL that is valid has ASCII characters only, which the wide string takes over. -/
def parseUrl (crackUrl : List UInt16 → Except UInt32 UrlComponents) (url : ByteString) : Option ParsedUrl :=
  match crackUrl (url.map UInt8.toUInt16) with
  | .error _ => none
  | .ok components =>
      if components.hostName.isEmpty ||
          (components.scheme != internetSchemeHttp && components.scheme != internetSchemeHttps) then none
      else
        let path := if components.urlPath.isEmpty then [47] else components.urlPath
        some
          { host := components.hostName
            target := path ++ components.extraInfo
            path
            port := components.port
            secure := components.scheme == internetSchemeHttps }

/-! ## Calls -/

/-- `ERROR_WINHTTP_HEADER_NOT_FOUND`. -/
def errorWinHttpHeaderNotFound : UInt32 := 12150

/-- The handles that `Fetch` keeps in objects of the class `InternetHandle`. -/
inductive InternetHandle where
  | session
  | connection
  | request
  deriving DecidableEq

/-- What a handle is used for. -/
inductive HttpOperation where
  | setTimeouts (milliseconds : UInt32)
  | disallowHttpsToHttp
  | connect (host : List UInt16) (port : UInt16)
  | openRequest (target : List UInt16) (secure : Bool)
  | setMaximumRedirects (limit : UInt32)
  | rejectCredentials
  | sendRequest
  | receiveResponse
  | queryStatus
  | queryContentLength
  deriving DecidableEq

inductive HttpCall where
  | opened (handle : InternetHandle)
  | used (handle : InternetHandle) (operation : HttpOperation)
  | closed (handle : InternetHandle)
  /-- The output stream is opened, which truncates the destination. -/
  | openedOutput (good : Bool)
  /-- A call in the loop or behind it. -/
  | transferred (call : FetchCall)
  deriving DecidableEq

/-- What a call does with the handles: those in the loop use the request. -/
def HttpCall.holding : HttpCall → List (Holding InternetHandle)
  | opened handle => [.opens handle]
  | used handle _ => [.uses handle]
  | closed handle => [.closes handle]
  | openedOutput _ => []
  | transferred call =>
      match call with
      | .queryDataAvailable _ | .readData _ _ => [.uses .request]
      | .getTickCount _ | .write _ | .close _ => []

/-- What WinHTTP and the output stream answer to the calls before the loop: a failed one has its last error. -/
structure HttpAnswers where
  crackUrl : List UInt16 → Except UInt32 UrlComponents
  openSession : Option UInt32
  setTimeouts : Option UInt32
  setRedirectPolicy : Option UInt32
  connect : Option UInt32
  openRequest : Option UInt32
  setMaximumRedirects : Option UInt32
  sendRequest : Option UInt32
  receiveResponse : Option UInt32
  status : Except UInt32 UInt32
  contentLength : Except UInt32 UInt32
  /-- The destination can be opened. -/
  output : Bool

/-! ## `Fetch` -/

/-- What `Fetch` returns, what it has written to the destination, `none` where it has left that alone, and its calls. -/
structure Fetched where
  result : FetchResult
  destination : Option (List UInt8)
  calls : List HttpCall

namespace Fetched

def returned (error : FetchError) : Fetched := ⟨⟨error, 0⟩, none, []⟩

def behind (fetched : Fetched) (call : HttpCall) : Fetched := { fetched with calls := call :: fetched.calls }

end Fetched

/-- A call that uses a handle, and `Failure` where it fails. -/
def attempt (handle : InternetHandle) (operation : HttpOperation) (failure : Option UInt32)
    (continued : Option Fetched) : Option Fetched :=
  match failure with
  | some error => some ((Fetched.returned (mapWinHttpError error)).behind (.used handle operation))
  | none => continued.map (·.behind (.used handle operation))

/-- The scope of an `InternetHandle`: its destructor is the last that is called in it. -/
def within (handle : InternetHandle) (scope : Option Fetched) : Option Fetched :=
  scope.map fun fetched => { fetched with calls := .opened handle :: (fetched.calls ++ [.closed handle]) }

structure FetchRequest where
  url : ByteString
  expectedSize : UInt64
  options : FetchOptions
  answers : HttpAnswers
  /-- The tick counter before the loop. -/
  started : UInt64
  turns : Nat → Answers
  closed : Bool

namespace FetchRequest

def download (request : FetchRequest) : Download where
  expectedSize := request.expectedSize
  transferTimeoutMilliseconds := request.options.transferTimeoutMilliseconds
  started := request.started
  turns := request.turns
  closed := request.closed

/-- From the output stream on. -/
def receiveBody (request : FetchRequest) (fuel : Nat) : Option Fetched :=
  if !request.answers.output then some ((Fetched.returned .diskFailure).behind (.openedOutput false))
  else
    (request.download.run fuel 0 .start).map fun (result, transfer) =>
      ⟨result, some transfer.destination, .openedOutput true :: transfer.calls.map .transferred⟩

/-- From the query for the content length on; a header that is missing is no failure. -/
def checkLength (request : FetchRequest) (fuel : Nat) : Option Fetched :=
  let continued : Option Fetched :=
    match request.answers.contentLength with
    | .error error =>
        if error != errorWinHttpHeaderNotFound then some (.returned (mapWinHttpError error))
        else request.receiveBody fuel
    | .ok length =>
        if length.toUInt64 != request.expectedSize then some (.returned .sizeMismatch) else request.receiveBody fuel
  continued.map (·.behind (.used .request .queryContentLength))

/-- From the query for the status on. -/
def checkStatus (request : FetchRequest) (fuel : Nat) : Option Fetched :=
  match request.answers.status with
  | .error error => attempt .request .queryStatus (some error) none
  | .ok status =>
      attempt .request .queryStatus none <|
        if status != 200 then some (.returned .networkFailure) else request.checkLength fuel

/-- What is done with the request handle. That `WinHttpSetOption` refuses credentials is optional. -/
def exchange (request : FetchRequest) (fuel : Nat) : Option Fetched :=
  attempt .request (.setMaximumRedirects request.options.redirectLimit) request.answers.setMaximumRedirects <|
    attempt .request .rejectCredentials none <|
      attempt .request .sendRequest request.answers.sendRequest <|
        attempt .request .receiveResponse request.answers.receiveResponse <|
          request.checkStatus fuel

/-- With a URL that is parsed. -/
def send (request : FetchRequest) (parsed : ParsedUrl) (fuel : Nat) : Option Fetched :=
  let timeout := min request.options.connectionTimeoutMilliseconds 0x7FFFFFFF
  match request.answers.openSession with
  | some error => some (.returned (mapWinHttpError error))
  | none =>
      within .session <|
        attempt .session (.setTimeouts timeout) request.answers.setTimeouts <|
          attempt .session .disallowHttpsToHttp request.answers.setRedirectPolicy <|
            attempt .session (.connect parsed.host parsed.port) request.answers.connect <|
              within .connection <|
                attempt .connection (.openRequest parsed.target parsed.secure) request.answers.openRequest <|
                  within .request <| request.exchange fuel

def fetch (request : FetchRequest) (fuel : Nat) : Option Fetched :=
  if !isDownloadUrlValid request.url || request.expectedSize == 0 ||
      kMaximumIndividualFileSize < request.expectedSize then some (.returned .unsupportedScheme)
  else
    match parseUrl request.answers.crackUrl request.url with
    | none => some (.returned .unsupportedScheme)
    | some parsed => request.send parsed fuel

/-- What has to be so before the loop is entered. -/
structure Granted (request : FetchRequest) (parsed : ParsedUrl) : Prop where
  url : isDownloadUrlValid request.url = true
  size : request.expectedSize ≠ 0 ∧ request.expectedSize ≤ kMaximumIndividualFileSize
  parsed : parseUrl request.answers.crackUrl request.url = some parsed
  openSession : request.answers.openSession = none
  setTimeouts : request.answers.setTimeouts = none
  setRedirectPolicy : request.answers.setRedirectPolicy = none
  connect : request.answers.connect = none
  openRequest : request.answers.openRequest = none
  setMaximumRedirects : request.answers.setMaximumRedirects = none
  sendRequest : request.answers.sendRequest = none
  receiveResponse : request.answers.receiveResponse = none
  status : request.answers.status = .ok 200
  /-- The server tells the expected length, or none. -/
  contentLength : (∃ length, request.answers.contentLength = .ok length ∧ length.toUInt64 = request.expectedSize) ∨
    request.answers.contentLength = .error errorWinHttpHeaderNotFound
  output : request.answers.output = true

/-- The calls that lead to a request. -/
def introduction (request : FetchRequest) (parsed : ParsedUrl) : List HttpCall :=
  [.opened .session, .used .session (.setTimeouts (min request.options.connectionTimeoutMilliseconds 0x7FFFFFFF)),
    .used .session .disallowHttpsToHttp, .used .session (.connect parsed.host parsed.port), .opened .connection,
    .used .connection (.openRequest parsed.target parsed.secure), .opened .request,
    .used .request (.setMaximumRedirects request.options.redirectLimit), .used .request .rejectCredentials]

end FetchRequest

end WinHttpFetchBackend

end CustomModels.Client
