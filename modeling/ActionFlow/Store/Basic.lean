import ActionFlow.Flow.Printer
import ActionFlow.Json.Reader
import ActionFlow.Json.Writer
import ActionFlow.Run.Snapshot
import ActionFlow.Text.Encoding
import ActionFlow.Keyed

/-!
# The store of flows and runs

Flows and snapshots of runs are kept as JSON texts under keys that tell which of the two
they are. What is kept expires after a week. An empty text counts as no text, and any
other is read back in the encoding that its first bytes tell of.
-/

namespace ActionFlow

/-- What is asked of the memory behind a store. -/
inductive Access where
  /-- A text was written under a key. -/
  | written (key : String)
  /-- A key was given a number of seconds to live. -/
  | expiring (key : String) (seconds : Nat)
  /-- A key was read. -/
  | looked (key : String)
  /-- A key was erased. -/
  | erased (key : String)
deriving DecidableEq, Repr

/-- A store and what was asked of its memory. -/
structure Store where
  /-- The memory. -/
  entries : Keyed String
  /-- What was asked of it, in order. -/
  accesses : List Access

namespace Store

/-- Why something that is kept cannot be taken up. -/
inductive Fault where
  /-- The bytes are no text. -/
  | undecodable (fault : Text.DecodeFault)
  /-- The text is no JSON. -/
  | unreadable (error : Json.ReadError)
  /-- The flow does not follow the schema. -/
  | badFlow (refusal : Schema.Refusal)
  /-- The run cannot be taken up. -/
  | badRun (fault : SnapshotFault)

/-- The number of seconds that entries live. -/
def lifetime : Nat := 7 * 24 * 60 * 60

/-- The key of a flow. -/
def flowKey (id : String) : String := "flow:" ++ id ++ ":definition"

/-- The key of the snapshot of a run. -/
def runKey (id : String) : String := "run:" ++ id ++ ":snapshot"

/-- Writes a document under a key. -/
def put (key : String) (document : Value) (store : Store) : Store :=
  ⟨store.entries.set key (Json.write document),
    store.accesses ++ [.written key, .expiring key lifetime]⟩

/-- The document of a text, of which an empty one is none. -/
def documentOf (text : Option String) : Except Fault (Option Value) :=
  match text with
  | none => .ok none
  | some text =>
    if text = "" then .ok none
    else
      match Text.readBack text with
      | .error fault => .error (.undecodable fault)
      | .ok chars =>
        match Json.readChars chars with
        | .ok document => .ok (some document)
        | .error error => .error (.unreadable error)

/-- The document under a key. -/
def look (key : String) (store : Store) : Except Fault (Option Value) × Store :=
  (documentOf (store.entries.get? key), { store with accesses := store.accesses ++ [.looked key] })

/-- Keeps a flow under an id. -/
def storeFlow (id : String) (flow : Flow) (store : Store) : Except DocumentFault Store :=
  flow.document.map fun document => store.put (flowKey id) document

/-- The flow of a document that was looked for. -/
def readFlow (document : Except Fault (Option Value)) : Except Fault (Option Flow) :=
  match document with
  | .error fault => .error fault
  | .ok none => .ok none
  | .ok (some document) =>
    match (Flow.reader document).toExcept "Flow" with
    | .ok flow => .ok (some flow)
    | .error refusal => .error (.badFlow refusal)

/-- The flow under an id. -/
def getFlow (id : String) (store : Store) : Except Fault (Option Flow) × Store :=
  let (document, store) := store.look (flowKey id)
  (readFlow document, store)

/-- Keeps the snapshot of a run under its id. -/
def storeRun (run : Run) (store : Store) : Except DocumentFault Store :=
  run.snapshot.map fun document => store.put (runKey run.id.display) document

/-- The snapshot of a run. -/
def getSnapshot (id : String) (store : Store) : Except Fault (Option Value) × Store :=
  store.look (runKey id)

/-- The run of a snapshot that was looked for. A snapshot that is null counts as none. -/
def readRun (document : Except Fault (Option Value)) (s : Services) :
    Except Fault (Option Run) × Services :=
  match document with
  | .error fault => (.error fault, s)
  | .ok none => (.ok none, s)
  | .ok (some .null) => (.ok none, s)
  | .ok (some document) =>
    match Run.restore document s with
    | (.ok run, s) => (.ok (some run), s)
    | (.error fault, s) => (.error (.badRun fault), s)

/-- Takes up a run. -/
def loadRun (id : String) (store : Store) (s : Services) :
    Except Fault (Option Run) × Store × Services :=
  let (document, store) := store.getSnapshot id
  let (run, s) := readRun document s
  (run, store, s)

/-- Forgets the snapshot of a run. -/
def deleteRun (id : String) (store : Store) : Store :=
  ⟨store.entries.erase (runKey id), store.accesses ++ [.erased (runKey id)]⟩

end Store

end ActionFlow
