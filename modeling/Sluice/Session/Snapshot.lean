import Sluice.Session.Basic
import Sluice.Value.Decode

/-!
# Snapshots

The document that a session is saved as. `Session.snapshot` writes it, `Session.ofSnapshot` reads
it back, and whatever it reads, the session is in order again: sorted, one entry a name, and the
active alias that of a connection.
-/

namespace Sluice

def snapshotVersion : Nat := 1

inductive SnapshotFault where
  | invalid (fault : Value.DecodeFault)
  | unsupported (version : Nat)
deriving DecidableEq

def SnapshotFault.message : SnapshotFault → String
  | invalid fault => s!"invalid snapshot: {fault.message}"
  | unsupported version => s!"unsupported snapshot version {version} (expected {snapshotVersion})"

def Variable.record (v : Variable) : Value :=
  .map [("name", .str v.name), ("value", v.value), ("created_at", .str v.createdAt),
    ("source", .str v.source)]

def Connection.record (c : Connection) : Value :=
  .map [("alias", .str c.name), ("source", .str c.source), ("created_at", .str c.createdAt)]

def Variable.ofRecord : Value → Except Value.DecodeFault Variable :=
  Value.readRecord "SessionVariable"
    [⟨"name", true, fun x s => x.asText.map fun t => { s with name := t }⟩,
      ⟨"value", true, fun x s => .ok { s with value := x }⟩,
      ⟨"created_at", true, fun x s => x.asText.map fun t => { s with createdAt := t }⟩,
      ⟨"source", true, fun x s => x.asText.map fun t => { s with source := t }⟩]
    ⟨"", .null, "", ""⟩

def Connection.ofRecord : Value → Except Value.DecodeFault Connection :=
  Value.readRecord "Connection"
    [⟨"alias", true, fun x s => x.asText.map fun t => { s with name := t }⟩,
      ⟨"source", true, fun x s => x.asText.map fun t => { s with source := t }⟩,
      ⟨"created_at", true, fun x s => x.asText.map fun t => { s with createdAt := t }⟩]
    ⟨"", "", ""⟩

structure Snapshot where
  version : Nat
  bindings : List Variable
  connections : List Connection
  active : Option String

/-- The fields read from a document; only the version has to be there. -/
def Snapshot.ofRecord : Value → Except Value.DecodeFault Snapshot :=
  Value.readRecord "SnapshotDocument"
    [⟨"version", true, fun x s => x.asCount.map fun n => { s with version := n }⟩,
      ⟨"variables", false, fun x s =>
        (x.asItems Variable.ofRecord).map fun vs => { s with bindings := vs }⟩,
      ⟨"connections", false, fun x s =>
        (x.asItems Connection.ofRecord).map fun cs => { s with connections := cs }⟩,
      ⟨"active", false, fun x s => x.asText?.map fun a => { s with active := a }⟩]
    ⟨0, [], [], none⟩

namespace Session

/-- The document for a session. -/
def snapshot (s : Session) : Value :=
  .map [("version", .ofNat snapshotVersion),
    ("variables", .seq (s.bindings.map Variable.record)),
    ("connections", .seq (s.connections.map Connection.record)),
    ("active", .ofText? s.active)]

/-- The session of a document. Of two entries with one name the later counts; an active alias
without a connection is dropped. -/
def ofSnapshot (document : Value) : Except SnapshotFault Session :=
  match Snapshot.ofRecord document with
  | .error fault => .error (.invalid fault)
  | .ok d =>
    if d.version ≠ snapshotVersion then .error (.unsupported d.version)
    else
      let connections := Keyed.ofList Prod.fst (Keyed.named Connection.name d.connections)
      .ok {
        byName := Keyed.ofList Prod.fst (Keyed.named Variable.name d.bindings)
        byAlias := connections
        active := d.active.filter fun a => (Keyed.value? a connections).isSome }

/-- Puts the session of a document into the place of this one. A document that is no snapshot
changes nothing. -/
def restore (s : Session) (document : Value) : Except SnapshotFault Unit × Session :=
  match ofSnapshot document with
  | .error fault => (.error fault, s)
  | .ok t => (.ok (), t)

end Session

end Sluice
