import CustomModels.Client.Manager

/-!
# The WinHTTP backend

The loop of `Fetch` in `winhttp_fetch.cpp` that receives the body of a response, from the point where the output
stream is open. What WinHTTP, the stream and the tick counter answer is given turn by turn, and the calls that
the loop makes are recorded.
-/

namespace CustomModels.Client
open CustomModels.Shared

namespace WinHttpFetchBackend

/-! ## Answers -/

/-- The size of the buffer. -/
def kBufferSize : UInt32 := 64 * 1024

/-- `ERROR_WINHTTP_TIMEOUT`. -/
def errorWinHttpTimeout : UInt32 := 12002

def mapWinHttpError (error : UInt32) : FetchError :=
  if error = errorWinHttpTimeout then .timeout else .networkFailure

def requestSize (available : UInt32) : UInt32 := if available ≤ kBufferSize then available else kBufferSize

/-- What is answered in one turn of the loop: the tick counter, `WinHttpQueryDataAvailable` and `WinHttpReadData`
(the last error where they fail), and the stream: `none` if it takes all the bytes, and else how many of them still
reach the file. At most as many bytes are read as were requested. -/
structure Answers where
  tick : UInt64
  available : Except UInt32 UInt32
  data : Except UInt32 (List UInt8)
  write : Option Nat
  atMost : ∀ count bytes, available = .ok count → data = .ok bytes → bytes.length ≤ (requestSize count).toNat

/-- Data is announced that is no more than what is `left`, it is read, and the file takes it. -/
def Answers.Brings (answers : Answers) (left : Nat) : Prop :=
  ∃ count bytes, answers.available = .ok count ∧ count ≠ 0 ∧ count.toNat ≤ left ∧ answers.data = .ok bytes ∧
    bytes ≠ [] ∧ answers.write = none

/-- A call that the loop has made, and what it was answered: `none` where it failed. -/
inductive FetchCall where
  | getTickCount (tick : UInt64)
  | queryDataAvailable (available : Option UInt32)
  | readData (requested : UInt32) (bytesRead : Option Nat)
  | write (good : Bool)
  | close (good : Bool)
  deriving DecidableEq

/-! ## The loop -/

/-- `received`, what was written to the file, and the calls so far. -/
structure Transfer where
  received : UInt64
  destination : List UInt8
  calls : List FetchCall
  deriving DecidableEq

namespace Transfer

def start : Transfer := ⟨0, [], []⟩

def note (transfer : Transfer) (call : FetchCall) : Transfer :=
  { transfer with calls := transfer.calls ++ [call] }

end Transfer

/-- How a turn ends: with the next one, with `break`, or with a return from `Fetch`. -/
inductive Turned where
  | again (transfer : Transfer)
  | ended (transfer : Transfer)
  | returned (error : FetchError) (transfer : Transfer)

/-- The turn from the point where data is announced and fits. -/
def readTurn (expectedSize : UInt64) (answers : Answers) (available : UInt32) (transfer : Transfer) : Turned :=
  match answers.data with
  | .error error =>
      .returned (mapWinHttpError error) (transfer.note (.readData (requestSize available) none))
  | .ok bytes =>
      let transfer := transfer.note (.readData (requestSize available) (some bytes.length))
      let bytesRead := UInt32.ofNat bytes.length
      if bytesRead = 0 ∨ expectedSize - transfer.received < bytesRead.toUInt64 then
        .returned .sizeMismatch transfer
      else match answers.write with
        | some count =>
            .returned .diskFailure
              { transfer.note (.write false) with destination := transfer.destination ++ bytes.take count }
        | none =>
            .again
              { transfer.note (.write true) with
                destination := transfer.destination ++ bytes
                received := transfer.received + bytesRead.toUInt64 }

def turn (expectedSize : UInt64) (transferTimeoutMilliseconds : UInt32) (started : UInt64) (answers : Answers)
    (transfer : Transfer) : Turned :=
  let transfer := transfer.note (.getTickCount answers.tick)
  if transferTimeoutMilliseconds.toUInt64 < answers.tick - started then .returned .timeout transfer
  else match answers.available with
    | .error error => .returned (mapWinHttpError error) (transfer.note (.queryDataAvailable none))
    | .ok available =>
        let transfer := transfer.note (.queryDataAvailable (some available))
        if available = 0 then .ended transfer
        else if expectedSize - transfer.received < available.toUInt64 then .returned .sizeMismatch transfer
        else readTurn expectedSize answers available transfer

/-- Behind the loop: the stream is closed, and the size compared. -/
def finish (expectedSize : UInt64) (closed : Bool) (transfer : Transfer) : FetchResult × Transfer :=
  let transfer := transfer.note (.close closed)
  (⟨if !closed then .diskFailure else if transfer.received = expectedSize then .none else .sizeMismatch,
    transfer.received⟩, transfer)

/-- What one call of `Fetch` is given: the size that it expects, the deadline and when it started, the answers of each
turn, and whether the stream is good after it is closed. -/
structure Download where
  expectedSize : UInt64
  transferTimeoutMilliseconds : UInt32
  started : UInt64
  turns : Nat → Answers
  closed : Bool

namespace Download

/-- The loop, for as many turns as there is `fuel`, from a turn on. -/
def run (download : Download) : (fuel index : Nat) → Transfer → Option (FetchResult × Transfer)
  | 0, _, _ => none
  | fuel + 1, index, transfer =>
      match turn download.expectedSize download.transferTimeoutMilliseconds download.started
          (download.turns index) transfer with
      | .again transfer => run download fuel (index + 1) transfer
      | .ended transfer => some (finish download.expectedSize download.closed transfer)
      | .returned error transfer => some (⟨error, transfer.received⟩, transfer)

/-- The state in which a turn starts, if the loop makes so many. -/
def before (download : Download) : (index : Nat) → Option Transfer
  | 0 => some .start
  | index + 1 => do
      let transfer ← before download index
      match turn download.expectedSize download.transferTimeoutMilliseconds download.started
          (download.turns index) transfer with
      | .again transfer => some transfer
      | _ => none

/-- The bytes that are read in the turns before one. -/
def bytesBefore (download : Download) (index : Nat) : List UInt8 :=
  (List.range index).flatMap fun earlier => (download.turns earlier).data.toOption.getD []

/-- The deadline is not over in a turn. -/
def InTime (download : Download) (index : Nat) : Prop :=
  ((download.turns index).tick - download.started).toNat ≤ download.transferTimeoutMilliseconds.toNat

/-- A turn of which nothing is wrong: it brings some of the bytes that the turns before it have left. -/
structure Carries (download : Download) (index : Nat) : Prop where
  inTime : download.InTime index
  brings : (download.turns index).Brings (download.expectedSize.toNat - (download.bytesBefore index).length)

/-- Every answer is as it should be: `count` turns bring data, the next one finds its end with as many bytes as are
expected, and the stream can be closed. -/
structure Complete (download : Download) (count : Nat) : Prop where
  carries : ∀ index < count, download.Carries index
  inTime : download.InTime count
  ended : (download.turns count).available = .ok 0
  size : (download.bytesBefore count).length = download.expectedSize.toNat
  closed : download.closed = true

end Download

end WinHttpFetchBackend

end CustomModels.Client
