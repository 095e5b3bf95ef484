/-
# The audit log (`axg/audit.py`)

`FileAuditSink` appends one line a record, each carrying the hash of the record before it, and
`verify_audit_chain` follows the hashes through the file.  Writer and verifier meet only in the
text of the file: the hash is taken over canonical JSON, the line is written by `json.dumps`
with non-ASCII kept, and both the verifier and a restarted writer split the text again with
`splitlines`.

The state machine of section 3 has one step per point where `record` can be suspended.  The
lock makes a call exclusive from `acquire` to its end; calls wait, and a new sink may replace
the old one when no call is open.
-/
import Axg.CanonicalInjective
import Axg.General.HashChain
import Axg.General.Run
import Axg.Python.JsonCut
import Axg.Python.JsonDumps

namespace Axg

open Python General

/-! ## 1. Entries -/

/-- `GENESIS_HASH` -/
def genesisHash : Str := List.replicate 64 0x30

def timestampKey : Str := lit "timestamp"

def prevHashKey : Str := lit "prev_hash"

def recordHashKey : Str := lit "record_hash"

/-- `datetime.now(timezone.utc).isoformat()`: printable ASCII. -/
structure Timestamp where
  text : Str
  ascii : text.all (fun c => 0x20 ≤ c.val && c.val < 0x7F) = true

/-- `_chain_hash` -/
def chainHash (sha : Sha256) (entry : Dict Json) : Except PyError Str :=
  canonicalHash sha (.obj (entry.without recordHashKey))

/-- `entry.get("prev_hash")` -/
def prevHash (entry : Dict Json) : Json := (entry.lookup prevHashKey).getD .null

/-- `entry.get("record_hash")` -/
def recordHash (entry : Dict Json) : Json := (entry.lookup recordHashKey).getD .null

/-- The entry of `record` before it is hashed. -/
def stamped (decisionLog : Dict Json) (timestamp : Timestamp) (prev : Json) : Dict Json :=
  (decisionLog.set timestampKey (.str timestamp.text)).set prevHashKey prev

/-- The entry of `record`. -/
def chainedEntry (sha : Sha256) (decisionLog : Dict Json) (timestamp : Timestamp) (prev : Json) :
    Except PyError (Dict Json) := do
  let entry := stamped decisionLog timestamp prev
  return entry.set recordHashKey (.str (← chainHash sha entry))

/-- `json.dumps(entry, sort_keys=True, ensure_ascii=False) + "\n"` -/
def entryLine (entry : Dict Json) : Except PyError Str := do
  return (← dumps (.obj entry)) ++ [0x0A]

/-! ## 2. Reading the file -/

/-- The lines of `read_text().splitlines()`. -/
def fileLines (file : Str) : List Str := splitlines (universalNewlines file)

/-- `_read_last_hash` -/
def readLastHash : Option Str → Except PyError Json
  | none => .ok (.str genesisHash)
  | some file =>
    match ((fileLines file).filter (fun line => strip line ≠ [])).getLast? with
    | none => .ok (.str genesisHash)
    | some line => do
      match ← loads line with
      | .obj entry => return (entry.lookup recordHashKey).getD (.str genesisHash)
      | _ => .error .attributeError

/-- One line of `verify_audit_chain`: the hash to go on with, or `none` at a break. -/
def verifyLine (sha : Sha256) (previous : Json) (line : Str) : Except PyError (Option Json) :=
  if strip line = [] then .ok (some previous)
  else
    match loads line with
    | .error .jsonDecodeError => .ok none
    | .error e => .error e
    | .ok (.obj entry) =>
      if (prevHash entry).pyEq previous = false then .ok none
      else do
        let hash ← chainHash sha entry
        if (recordHash entry).pyEq (.str hash) = false then return none
        else return some (recordHash entry)
    | .ok _ => .error .attributeError

def verifyLines (sha : Sha256) : Json → Nat → List Str → Except PyError (Bool × Option Nat)
  | _, _, [] => .ok (true, none)
  | previous, number, line :: lines => do
    match ← verifyLine sha previous line with
    | none => return (false, some number)
    | some hash => verifyLines sha hash (number + 1) lines

/-- `verify_audit_chain` -/
def verifyAuditChain (sha : Sha256) (file : Str) : Except PyError (Bool × Option Nat) :=
  verifyLines sha (.str genesisHash) 1 (fileLines file)

/-- The record of a line. -/
def lineRecord (line : Str) : Except PyError (Dict Json) := do
  match ← loads line with
  | .obj entry => return entry
  | _ => .error .attributeError

/-- The records of a file: its lines that are not blank, parsed. -/
def fileRecords (file : Str) : Except PyError (List (Dict Json)) :=
  ((fileLines file).filter (fun line => strip line ≠ [])).mapM lineRecord

/-! ## 3. The sink -/

/-- What `record` is called with: a dictionary whose canonical JSON is defined. -/
structure AuditRecord where
  members : Dict Json
  wf : (Json.obj members).Wf
  isText : (Json.obj members).isText = true
  hasDoubles : (Json.obj members).hasDoubles = true

/-- How far the call that holds the lock has come. -/
inductive Phase
  | entered (decisionLog : AuditRecord)
  | chained (decisionLog : AuditRecord) (prev : Json)
  | writing (decisionLog : AuditRecord) (timestamp : Timestamp) (entry : Dict Json) (line : Str)

/-- The record of the call. -/
def Phase.log : Phase → AuditRecord
  | entered decisionLog => decisionLog
  | chained decisionLog _ => decisionLog
  | writing decisionLog _ _ _ => decisionLog

/-- The file, the sink and its calls.  `started` are all calls; `finished` are those whose line
is in the file, in the order in which they held the lock, with the entries they wrote; `failed`
counts the calls that logged an error instead. -/
structure AuditState where
  file : Option Str
  lastHash : Option Json
  waiting : List AuditRecord
  holder : Option Phase
  started : List AuditRecord
  finished : List (AuditRecord × Timestamp)
  entries : List (Dict Json)
  failed : Nat

namespace AuditState

/-- A sink over a path where no file is. -/
def initial : AuditState := ⟨none, none, [], none, [], [], [], 0⟩

/-- The text of the file, empty where there is none. -/
def text (s : AuditState) : Str := s.file.getD []

/-- The calls that have not ended. -/
def pending (s : AuditState) : List AuditRecord :=
  (s.holder.map Phase.log).toList ++ s.waiting

/-- The call that holds the lock logs an error and releases it. -/
def fail (s : AuditState) : AuditState := { s with holder := none, failed := s.failed + 1 }

/-- `if self._last_hash is None: self._last_hash = await self._read_last_hash()` -/
def readHash (s : AuditState) (log : AuditRecord) : AuditState :=
  match s.lastHash with
  | some prev => { s with holder := some (.chained log prev) }
  | none =>
    match readLastHash s.file with
    | .ok prev => { s with lastHash := some prev, holder := some (.chained log prev) }
    | .error _ => s.fail

/-- The entry and its line, before the file is opened. -/
def prepare (sha : Sha256) (s : AuditState) (log : AuditRecord) (prev : Json)
    (timestamp : Timestamp) : AuditState :=
  match chainedEntry sha log.members timestamp prev with
  | .error _ => s.fail
  | .ok entry =>
    match entryLine entry with
    | .error _ => s.fail
    | .ok line => { s with holder := some (.writing log timestamp entry line) }

/-- The append, and the end of the call. -/
def append (s : AuditState) (log : AuditRecord) (timestamp : Timestamp) (entry : Dict Json)
    (line : Str) : AuditState :=
  { s with
    file := some (s.text ++ line)
    lastHash := some (recordHash entry)
    holder := none
    finished := s.finished ++ [(log, timestamp)]
    entries := s.entries ++ [entry] }

end AuditState

/-- The steps of concurrent `record` calls on one sink, and of a restart.  No open and no write
of the file fails. -/
inductive AuditStep (sha : Sha256) : AuditState → AuditState → Prop
  | call (s : AuditState) (log : AuditRecord) :
      AuditStep sha s { s with waiting := s.waiting ++ [log], started := s.started ++ [log] }
  | acquire (s : AuditState) (before : List AuditRecord) (log : AuditRecord)
      (after : List AuditRecord) (hw : s.waiting = before ++ log :: after)
      (hfree : s.holder = none) :
      AuditStep sha s { s with waiting := before ++ after, holder := some (.entered log) }
  | readHash (s : AuditState) (log : AuditRecord) (h : s.holder = some (.entered log)) :
      AuditStep sha s (s.readHash log)
  | prepare (s : AuditState) (log : AuditRecord) (prev : Json) (timestamp : Timestamp)
      (h : s.holder = some (.chained log prev)) :
      AuditStep sha s (s.prepare sha log prev timestamp)
  | append (s : AuditState) (log : AuditRecord) (timestamp : Timestamp) (entry : Dict Json)
      (line : Str) (h : s.holder = some (.writing log timestamp entry line)) :
      AuditStep sha s (s.append log timestamp entry line)
  | restart (s : AuditState) (hfree : s.holder = none) (hidle : s.waiting = []) :
      AuditStep sha s { s with lastHash := none }

/-- The states of every run that starts without a file. -/
def AuditReachable (sha : Sha256) (s : AuditState) : Prop :=
  Reachable (· = AuditState.initial) (AuditStep sha) s

end Axg
