/-
  LanguageBlueprint/Store/Basic.lean
  ==================================
  **The store.**  Two tables are kept: one record for each stored blueprint, in
  ascending order of the names, and one row for each generated file, with its
  position among the files of its language.  A record holds the blueprint as its
  body, a digest of the body, and beside them the columns that a listing shows and
  the time at which it was created.

  What belongs together is written in a transaction.  Its statements change the
  tables one after the other, and what they overwrite goes into a journal.  When
  the last of them has gone through, the transaction is committed; when one fails,
  the journal is played back.

    * a name is looked up in the table of records     — `find?_upsert`,
                                                        `find?_removeName`;
    * a transaction that fails leaves no trace         — `rollBack_writeRecords`,
                                                        `rollBack_writeRows`.
-/
import LanguageBlueprint.Exchange.Wire

namespace LanguageBlueprint

/-- The digest of a body.  Distinct bodies are taken to have distinct digests, so that a body can
stand for its own digest. -/
structure Digest where
  body : String
deriving DecidableEq, Repr

def Digest.of (body : String) : Digest := ⟨body⟩

/-- A stored blueprint: its body and digest, the columns of the listing, and when it was created. -/
structure Record where
  name : String
  version : String
  description : String
  execution : String
  body : String
  digest : Digest
  createdAt : Instant
  updatedAt : Instant
deriving DecidableEq, Repr

def Record.ofBlueprint (b : Blueprint) (created now : Instant) : Record where
  name := b.name
  version := b.version
  description := b.description
  execution := Vocabulary.word b.execution
  body := Blueprint.codec.compact b
  digest := .of (Blueprint.codec.compact b)
  createdAt := created
  updatedAt := now

/-- A generated file of a language, and its position among them.  No two files of a language have
one path. -/
structure ArtifactRow where
  language : String
  position : Nat
  artifact : Artifact
deriving DecidableEq

structure Store where
  records : List Record := []
  rows : List ArtifactRow := []
deriving DecidableEq

namespace Store

/-! ### Records -/

/-- Puts a record into records in ascending order of their names, in place of one with its name. -/
def upsert (record : Record) : List Record → List Record
  | [] => [record]
  | other :: others =>
      if record.name = other.name then record :: others
      else if record.name < other.name then record :: other :: others
      else other :: upsert record others

def find? (name : String) (records : List Record) : Option Record :=
  records.find? (fun record => record.name == name)

def removeName (name : String) (records : List Record) : List Record :=
  records.filter (fun record => record.name != name)

def contains (store : Store) (name : String) : Bool := (find? name store.records).isSome

/-- When the record with a name was created; the given time if there is none. -/
def createdAt (name : String) (records : List Record) (now : Instant) : Instant :=
  ((find? name records).map Record.createdAt).getD now

/-- Why a stored body cannot be read. -/
def unreadable : DecodeFault → Failure
  | .malformed => .serialization "malformed text"
  | .unfit misfit => .serialization misfit.message

/-- Reads the blueprint stored under a name; its body has to match its digest. -/
def restore (store : Store) (name : String) (supply : Nat) :
    Except Failure (Option Blueprint × Nat) :=
  match find? name store.records with
  | none => .ok (none, supply)
  | some record =>
      if Digest.of record.body ≠ record.digest then .error (.corruption (.digestMismatch name))
      else
        -- handles that the body leaves out are made from fresh numbers
        match (Blueprint.codec.ofText record.body).run supply with
        | .ok (b, next) => .ok (some b, next)
        | .error fault => .error (unreadable fault)

/-- Removes the record with a name and tells whether there was one.  Generated files are kept. -/
def remove (store : Store) (name : String) : Bool × Store :=
  (store.contains name, { store with records := removeName name store.records })

def summary (record : Record) : Except Failure Summary :=
  match Vocabulary.ofText record.execution with
  | .ok execution =>
      .ok { name := record.name, version := record.version, description := record.description,
            execution := execution, updatedAt := some record.updatedAt }
  | .error unknown => .error (.corruption (.unknownExecution record.name unknown))

def summariesOf : List Record → Except Failure (List Summary)
  | [] => .ok []
  | record :: records => do
      let first ← summary record
      let others ← summariesOf records
      return first :: others

/-- The listing, in ascending order of the names. -/
def summaries (store : Store) : Except Failure (List Summary) := summariesOf store.records

/-! ### Generated files -/

/-- Puts a row into rows in ascending order of their positions, in front of those at its own. -/
def insertRow (row : ArtifactRow) : List ArtifactRow → List ArtifactRow
  | [] => [row]
  | other :: others =>
      if row.position ≤ other.position then row :: other :: others
      else other :: insertRow row others

/-- The rows in ascending order of their positions. -/
def sortRows (rows : List ArtifactRow) : List ArtifactRow := rows.foldr insertRow []

/-- The generated files of a language, in the order of their positions. -/
def artifacts (store : Store) (language : String) : List Artifact :=
  (sortRows (store.rows.filter (fun row => row.language == language))).map ArtifactRow.artifact

def hasPath (language path : String) (rows : List ArtifactRow) : Bool :=
  rows.any (fun row => row.language == language && row.artifact.path == path)

end Store

/-! ### Transactions -/

/-- What a statement has written over: the contents of a table before. -/
inductive Overwritten where
  | records (before : List Record)
  | rows (before : List ArtifactRow)
deriving DecidableEq

/-- Puts back what was written over. -/
def Overwritten.restore (store : Store) : Overwritten → Store
  | .records before => { store with records := before }
  | .rows before => { store with rows := before }

/-- A transaction: the tables as its statements have left them, and the journal of what they have
written over, the last first. -/
structure Transaction where
  store : Store
  journal : List Overwritten := []
deriving DecidableEq

namespace Transaction

def commit (transaction : Transaction) : Store := transaction.store

/-- Plays the journal back. -/
def rollBack (transaction : Transaction) : Store :=
  transaction.journal.foldl Overwritten.restore transaction.store

def writeRecords (records : List Record) (transaction : Transaction) : Transaction where
  store := { transaction.store with records := records }
  journal := .records transaction.store.records :: transaction.journal

def writeRows (rows : List ArtifactRow) (transaction : Transaction) : Transaction where
  store := { transaction.store with rows := rows }
  journal := .rows transaction.store.rows :: transaction.journal

@[simp] theorem rollBack_start (store : Store) : rollBack { store := store } = store := rfl

@[simp] theorem rollBack_writeRecords (records : List Record) (transaction : Transaction) :
    (transaction.writeRecords records).rollBack = transaction.rollBack := rfl

@[simp] theorem rollBack_writeRows (rows : List ArtifactRow) (transaction : Transaction) :
    (transaction.writeRows rows).rollBack = transaction.rollBack := rfl

/-- The outcome of statements, and the store after them: the transaction is committed when they have
gone through, and rolled back when it is dropped before. -/
def close {α : Type} : Except Failure α × Transaction → Except Failure α × Store
  | (.ok a, transaction) => (.ok a, transaction.commit)
  | (.error failure, transaction) => (.error failure, transaction.rollBack)

theorem close_of_ok {α : Type} {outcome : Except Failure α × Transaction} {a : α}
    (h : outcome.1 = .ok a) : close outcome = (.ok a, outcome.2.commit) := by
  obtain ⟨answer, transaction⟩ := outcome
  cases h
  rfl

theorem close_of_error {α : Type} {outcome : Except Failure α × Transaction} {failure : Failure}
    (h : outcome.1 = .error failure) : close outcome = (.error failure, outcome.2.rollBack) := by
  obtain ⟨answer, transaction⟩ := outcome
  cases h
  rfl

/-! ### Statements -/

/-- Writes a blueprint under its name, over any record with that name.  Of such a record only the
time of its creation is kept; otherwise the time is the given one. -/
def putRecord (b : Blueprint) (created now : Instant) (transaction : Transaction) : Transaction :=
  let records := transaction.store.records
  transaction.writeRecords
    (Store.upsert (.ofBlueprint b (Store.createdAt b.name records created) now) records)

def deleteRecord (name : String) (transaction : Transaction) : Transaction :=
  transaction.writeRecords (Store.removeName name transaction.store.records)

/-- Removes the files of a language. -/
def deleteFiles (language : String) (transaction : Transaction) : Transaction :=
  transaction.writeRows
    (transaction.store.rows.filter (fun row => row.language != language))

/-- Inserts files of a language one by one, the first at the given position, up to one whose path is
there already. -/
def insertFiles (language : String) (position : Nat) :
    List Artifact → Transaction → Except Failure Unit × Transaction
  | [], transaction => (.ok (), transaction)
  | artifact :: artifacts, transaction =>
      if Store.hasPath language artifact.path transaction.store.rows then
        (.error (.persistence .repeatedArtifact), transaction)
      else
        insertFiles language (position + 1) artifacts
          (transaction.writeRows (transaction.store.rows ++ [⟨language, position, artifact⟩]))

/-- The files kept for a language are removed, and then the others are inserted. -/
def replaceFiles (language : String) (artifacts : List Artifact) (transaction : Transaction) :
    Except Failure Unit × Transaction :=
  (transaction.deleteFiles language).insertFiles language 0 artifacts

end Transaction

namespace Store

/-! ### Writing -/

/-- Writes a blueprint under its name, over any record with that name. -/
def persist (store : Store) (b : Blueprint) (now : Instant) : Store :=
  (Transaction.putRecord b now now { store := store }).commit

/-- Writes a blueprint in place of the record with a name, under its own name; false when there
is no such record.  The record stays as old as it was. -/
def replace (store : Store) (name : String) (b : Blueprint) (now : Instant) :
    Except Failure Bool × Store :=
  let transaction : Transaction := { store := store }
  match find? name transaction.store.records with
  | none => (.ok false, transaction.rollBack)
  | some record =>
      if name = b.name then
        (.ok true, (transaction.putRecord b record.createdAt now).commit)
      else if transaction.store.contains b.name then
        (.error (.nameTaken b.name), transaction.rollBack)
      else
        (.ok true, ((transaction.deleteRecord name).putRecord b record.createdAt now).commit)

/-- Keeps files for a language in place of those that are kept for it. -/
def keepArtifacts (store : Store) (language : String) (artifacts : List Artifact) :
    Except Failure Unit × Store :=
  Transaction.close (Transaction.replaceFiles language artifacts { store := store })

/-! ### Behind the store's back -/

def storedBody (store : Store) (name : String) : Option String :=
  (find? name store.records).map Record.body

/-- Changes the records with a name and tells how many there are. -/
def alter (store : Store) (name : String) (change : Record → Record) : Nat × Store :=
  ((store.records.filter (fun record => record.name == name)).length,
   { store with records := store.records.map (fun record =>
       if record.name = name then change record else record) })

/-- Overwrites the body stored under a name, and its digest only if asked to. -/
def tamperBody (store : Store) (name body : String) (redigest : Bool) : Nat × Store :=
  store.alter name (fun record =>
    { record with body := body, digest := if redigest then .of body else record.digest })

/-- Overwrites the column of a record that tells how the language is executed. -/
def tamperExecution (store : Store) (name execution : String) : Nat × Store :=
  store.alter name (fun record => { record with execution := execution })

/-! ### Looking up -/

theorem find?_upsert (record : Record) (name : String) (records : List Record) :
    find? name (upsert record records) =
      if record.name = name then some record else find? name records := by
  induction records with
  | nil => by_cases h : record.name = name <;> simp [find?, upsert, h]
  | cons other others ih =>
      unfold upsert
      by_cases hsame : record.name = other.name
      · by_cases h : record.name = name
        · simp [find?, hsame, ← h]
        · have h' : ¬ other.name = name := hsame ▸ h
          simp [find?, hsame, h']
      · simp only [hsame, if_false]
        by_cases hlt : record.name < other.name
        · rw [if_pos hlt]
          by_cases h : record.name = name <;> simp [find?, h]
        · rw [if_neg hlt]
          unfold find? at ih ⊢
          by_cases ho : other.name = name
          · have h : ¬ record.name = name := fun h => hsame (h.trans ho.symm)
            simp [ho, h]
          · simp [ho, ih]

theorem find?_removeName (name other : String) (records : List Record) :
    find? name (removeName other records) =
      if other = name then none else find? name records := by
  unfold find? removeName
  rw [List.find?_filter]
  by_cases h : other = name
  · subst h
    simp
  · simp only [h, if_false]
    congr
    funext record
    by_cases hr : record.name = name
    · have : ¬ name = other := fun e => h e.symm
      simp [hr, this]
    · simp [hr]

end Store

end LanguageBlueprint
