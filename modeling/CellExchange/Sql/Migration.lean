import CellExchange.Sql.Server

/-! # Bringing the tables up to date

The tables of the database are made by changes, each with a version, a description and a script
(`Change`). The database keeps a note of every change that was made. `Server.migrate` compares the
notes with the changes known here and makes those that are missing, each in a transaction with its
note; it stops if a change was begun and not completed, if it does not know a change, or if the
script of a change is another one. -/

namespace CellExchange.Sql

/-- A change of the tables. -/
structure Change where
  /-- The version: when the change was written. -/
  version : Nat
  /-- What the change is about. -/
  description : String
  /-- The script. -/
  script : String
  deriving DecidableEq, Repr

/-- The change that makes the tables of cells. -/
def Change.cells : Change where
  version := 20241017000000
  description := "cells"
  script := "create table cell (
    id bigserial primary key,
    radio smallint not null,
    mcc integer not null,
    mnc integer not null,
    lac integer not null,
    cid bigint not null,
    psc integer not null default -1,
    lat double precision,
    lon double precision,
    \"range\" integer not null default 0,
    samples integer not null default 0,
    changeable boolean not null default true,
    created timestamptz not null default now(),
    modified timestamptz not null default now(),
    unique (radio, mcc, mnc, lac, cid)
);
create index cell_modified_idx on cell (modified);

-- imported from OpenCellID, kept apart from our own observations
create table ocid_cell (
    like cell including defaults including constraints including indexes
);
-- `like` copies the id default, which would share cell_id_seq
create sequence ocid_cell_id_seq owned by ocid_cell.id;
alter table ocid_cell alter column id set default nextval('ocid_cell_id_seq');
"

/-- All changes, in order. -/
def Change.all : List Change := [.cells]

/-- What is done before the notes are looked at: other runs are kept out, and the table of notes is
made if it is missing. -/
def preparation : List Statement := [
  .bookkeeping "SELECT current_database()",
  .bookkeeping "SELECT pg_advisory_lock($1)",
  .bookkeeping "CREATE TABLE IF NOT EXISTS _sqlx_migrations (
    version BIGINT PRIMARY KEY,
    description TEXT NOT NULL,
    installed_on TIMESTAMPTZ NOT NULL DEFAULT now(),
    success BOOLEAN NOT NULL,
    checksum BYTEA NOT NULL,
    execution_time BIGINT NOT NULL
);"]

/-- Looks for a change that was not completed. -/
def dirtyQuery : Statement :=
  .bookkeeping "SELECT version FROM _sqlx_migrations WHERE success = false ORDER BY version LIMIT 1"

/-- Looks at all notes. -/
def notesQuery : Statement :=
  .bookkeeping "SELECT version, checksum FROM _sqlx_migrations ORDER BY version"

/-- Lets other runs in again. -/
def release : Statement := .bookkeeping "SELECT pg_advisory_unlock($1)"

/-- The statements of a change. -/
def Change.statements (c : Change) : List Statement :=
  [.start, .script c.script, .note c.version c.description c.script, .commit,
    .bookkeeping "UPDATE _sqlx_migrations SET execution_time = $1 WHERE version = $2"]

namespace Server

/-- Statements of the upkeep of the tables. -/
def maintain (statements : List Statement) : Action Server Unit := fun s =>
  match runAll statements s with
  | .ok a s => .ok a s
  | .error _ s => .error (.of (.migration .execute)) s

/-- Makes a change, unless its note is there already. -/
def apply (change : Change) : Action Server Unit := do
  match (← get).changes.find? fun known => known.version = change.version with
  | some known =>
    if known.script ≠ change.script then throw (.of (.migration (.versionMismatch known.version)))
  | none =>
    maintain change.statements
    modify fun s => { s with changes := s.changes ++ [⟨change.version, change.script, true⟩] }

/-- Makes changes one after another. -/
def applyAll : List Change → Action Server Unit
  | [] => return
  | change :: rest => do
    apply change
    applyAll rest

/-- Brings the tables up to date. -/
def migrate : Action Server Unit := do
  maintain preparation
  maintain [dirtyQuery]
  let known := (← get).changes
  if let some change := known.find? (!·.complete) then
    throw (.of (.migration (.dirty change.version)))
  maintain [notesQuery]
  if let some change := known.find? fun k => Change.all.all fun c => c.version ≠ k.version then
    throw (.of (.migration (.versionMissing change.version)))
  applyAll Change.all
  maintain [release]

end Server

end CellExchange.Sql
