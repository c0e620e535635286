import UsbRadioPlus.Rust.Str
import UsbRadioPlus.Sys.FileStore
import UsbRadioPlus.Sys.Program
import UsbRadioPlus.Sys.Run

/-!
# The store of the configuration (`rust/tune/src/repository.rs`)

A configuration is created from a shipped sample, read, replaced and backed up. Each operation is a
program of system calls; any number of processes run any number of them, call by call in any order.
A call may fail, a process may be killed between two calls, and the machine may crash between two.

All files of a repository stand in one directory, of which `Sys.FileStore` is the model; a file is
known by its name there. The samples and what `create_dir_all` creates stand elsewhere. Left out: a
configuration path without a file name, which every operation refuses, names that are not Unicode,
links by name, and systems other than Unix. An interrupted call is repeated by the standard library.
-/

namespace UsbRadioPlus
namespace Tune

open Rust Sys

namespace Repository

/-! ## Files, texts and errors -/

/-- The owner and the permissions of a file. -/
structure Attrs where
  owner : Nat
  group : Nat
  mode : Nat
  deriving DecidableEq

/-- A text is its bytes. -/
structure Text where
  bytes : List UInt8
  valid : ByteArray.IsValidUTF8 ⟨bytes.toArray⟩

/-- The directory of the configuration, with the permissions and the owner of each file. -/
abbrev Directory := FileStore Str UInt8 Attrs

/-- `std::io::ErrorKind`, of which the operations tell two apart. -/
inductive ErrorKind where
  | alreadyExists
  | notFound
  | writeZero
  | invalidData
  | other
  deriving DecidableEq, Repr

/-- The path of an error. -/
inductive Place where
  | directory
  | beside (name : Str)
  | sample (path : Str)
  deriving DecidableEq, Repr

/-- What an operation of the repository fails with. -/
inductive RepositoryError where
  | shippedSampleUnavailable (candidates : List Str)
  | io (operation : String) (path : Place) (source : ErrorKind)
  deriving DecidableEq, Repr

/-- Whether the configuration was there already. -/
inductive CreationStatus where
  | existing
  | created
  deriving DecidableEq, Repr

/-- The file name of the configuration, and the samples. -/
structure ConfigRepository where
  configName : Str
  sampleCandidates : List Str

/-! ## System calls -/

/-- The system calls. -/
inductive Call where
  | createDirAll
  | tryExists (name : Str)
  | readSample (path : Str)
  | metadata (name : Str)
  | openFile (name : Str)
  | readToEnd (file : Nat)
  | now
  | processId
  | fetchAdd
  | createNew (name : Str)
  | write (file : Nat) (buffer : List UInt8)
  | fileMetadata (file : Nat)
  | fchown (file : Nat) (owner group : Nat)
  | setPermissions (file : Nat) (mode : Nat)
  | syncAll (file : Nat)
  | rename (source destination : Str)
  | hardLink (source destination : Str)
  | removeFile (name : Str)
  | openDirectory
  | syncDirectory

/-- What a call answers. -/
@[reducible] def Call.Answer : Call → Type
  | tryExists _ => Except ErrorKind Bool
  | readSample _ | readToEnd _ => Except ErrorKind (List UInt8)
  | metadata _ | fileMetadata _ => Except ErrorKind Attrs
  | openFile _ | createNew _ | write _ _ => Except ErrorKind Nat
  | now | processId | fetchAdd => Nat
  | createDirAll | fchown .. | setPermissions .. | syncAll _ | rename .. | hardLink ..
  | removeFile _ | openDirectory | syncDirectory => Except ErrorKind Unit

/-- A program of system calls. -/
abbrev Prog := Program Call Call.Answer

/-- One call, with its answer for a value. -/
def Call.make (c : Call) : Prog c.Answer := Program.make c

/-- A program that may fail. -/
abbrev Fallible := ExceptT RepositoryError Prog

variable {α : Type}

/-- `map_err` to `RepositoryError::io`. -/
def orIo (operation : String) (path : Place) (m : Prog (Except ErrorKind α)) : Fallible α :=
  ExceptT.mk (m.bind fun r => .done (r.mapError (.io operation path)))

/-! ## Temporary files -/

/-- `Write::write_all`. Every turn writes at least one byte, so that as many turns are enough as there
are bytes. -/
def writeAll (file : Nat) : (turns : Nat) → List UInt8 → Prog (Except ErrorKind Unit)
  | 0, _ => .done (.ok ())
  | _ + 1, [] => .done (.ok ())
  | turns + 1, buffer => .call (.write file buffer) fun answer =>
    match answer with
    | .error e => .done (.error e)
    | .ok 0 => .done (.error .writeZero)
    | .ok n => writeAll file turns (buffer.drop n)

/-- The permissions of a new configuration. -/
def newConfigMode : Nat := 0o640

/-- `set_new_file_mode` -/
def setNewFileMode (file : Nat) (path : Str) : Fallible Unit :=
  orIo "set configuration permissions" (.beside path)
    (Call.setPermissions file newConfigMode).make

/-- `preserve_owner`: the owner is set only where it differs. -/
def preserveOwner (file : Nat) (path : Str) (metadata : Attrs) : Fallible Unit := do
  let temporaryMetadata ← orIo "read temporary file metadata" (.beside path)
    (Call.fileMetadata file).make
  if temporaryMetadata.owner = metadata.owner ∧ temporaryMetadata.group = metadata.group then
    pure ()
  else
    orIo "preserve file ownership" (.beside path)
      (Call.fchown file metadata.owner metadata.group).make

/-- In `prepare_file`: the attributes of the configuration, or the mode of a new one. -/
def prepareAttrs (file : Nat) (path : Str) : Option Attrs → Fallible Unit
  | some metadata => do
    preserveOwner file path metadata
    orIo "preserve file permissions" (.beside path) (Call.setPermissions file metadata.mode).make
  | none => setNewFileMode file path

/-- The contents, the attributes and the synchronization of a temporary file. -/
def prepareFile (file : Nat) (path : Str) (contents : List UInt8) (metadata : Option Attrs) :
    Fallible Unit := do
  orIo "write temporary file" (.beside path) (writeAll file contents.length contents)
  prepareAttrs file path metadata
  orIo "synchronize temporary file" (.beside path) (Call.syncAll file).make

/-- `let _ = fs::remove_file(..)`: in the drop of a pending file, and where it was not prepared. -/
def dropPending (path : Str) : Prog Unit := .call (.removeFile path) fun _ => .done ()

/-- A temporary file that is removed where its preparation fails. -/
def preparePending (file : Nat) (path : Str) (contents : List UInt8) (metadata : Option Attrs) :
    Fallible Str := do
  Program.orElse (prepareFile file path contents metadata) (dropPending path)
  pure path

/-- A number in decimal. -/
def decimal (n : Nat) : Str := Nat.toDigits 10 n

variable (repo : ConfigRepository)

/-- `format!(".{file_name}.tmp.{}.{}", process::id(), sequence)`. -/
def temporaryName (process sequence : Nat) : Str :=
  '.' :: repo.configName ++ ".tmp.".toList ++ decimal process ++ '.' :: decimal sequence

/-- `append_to_file_name`, of `.bak.{timestamp}.{}.{}`. -/
def backupName (timestamp process sequence : Nat) : Str :=
  repo.configName ++ ".bak.".toList ++ decimal timestamp ++ '.' :: decimal process ++
    '.' :: decimal sequence

/-- `write_temporary`: a new name for every attempt of every process. -/
def writeTemporary (contents : List UInt8) (metadata : Option Attrs) : Fallible Str := do
  let sequence ← ExceptT.lift Call.fetchAdd.make
  let process ← ExceptT.lift Call.processId.make
  let path := temporaryName repo process sequence
  let file ← orIo "create temporary file" (.beside path) (Call.createNew path).make
  preparePending file path contents metadata

/-- `PendingFile::remove`. Where it fails, the drop tries again. -/
def remove (path : Str) : Fallible Unit :=
  orIo "remove temporary file" (.beside path) (Call.removeFile path).make

/-- `sync_parent` -/
def syncParent : Fallible Unit := do
  orIo "open containing directory" .directory Call.openDirectory.make
  orIo "synchronize containing directory" .directory Call.syncDirectory.make

/-- A second name, which fails where the name is taken. -/
def linkFile (source destination : Str) (operation : String) : Fallible Unit :=
  orIo operation (.beside destination) (Call.hardLink source destination).make

/-! ## The operations -/

/-- `write_new`: the first version, which never replaces a file. -/
def writeNew (contents : List UInt8) : Fallible Unit := do
  let pending ← writeTemporary repo contents none
  Program.orElse (do
    linkFile pending repo.configName "create configuration"
    remove pending) (dropPending pending)
  syncParent

/-- A name that is taken means that another process was faster. -/
def creationStatus : Except RepositoryError Unit → Except RepositoryError CreationStatus
  | .ok () => .ok .created
  | .error (.io operation path source) =>
    if source = .alreadyExists then .ok .existing else .error (.io operation path source)
  | .error error => .error error

/-- The text of bytes, where they are one. -/
def fromUtf8 (bytes : List UInt8) : Except ErrorKind Text :=
  if h : ByteArray.validateUTF8 ⟨bytes.toArray⟩ then
    .ok ⟨bytes, ByteArray.validateUTF8_eq_true_iff.mp h⟩
  else .error .invalidData

/-- The loop of `read_first_sample`. -/
def readFirstSample : List Str → Fallible Text
  | [] => throw (.shippedSampleUnavailable repo.sampleCandidates)
  | candidate :: rest =>
    ExceptT.mk (.call (.readSample candidate) fun answer =>
      match answer.bind fromUtf8 with
      | .ok contents => .done (.ok contents)
      | .error .notFound => readFirstSample rest
      | .error error => .done (.error (.io "read shipped configuration sample" (.sample candidate)
          error)))

/-- `ensure_exists` -/
def ensureExists : Fallible CreationStatus := do
  orIo "create directory" .directory Call.createDirAll.make
  if ← orIo "inspect path" (.beside repo.configName) (Call.tryExists repo.configName).make then
    pure .existing
  else
    let contents ← readFirstSample repo repo.sampleCandidates
    ExceptT.mk ((writeNew repo contents.bytes).run.bind fun r => .done (creationStatus r))

/-- `fs::read`, of the configuration. -/
def readBytes : Prog (Except ErrorKind (List UInt8)) :=
  .call (.openFile repo.configName) fun answer =>
    match answer with
    | .error e => .done (.error e)
    | .ok file => (Call.readToEnd file).make

/-- `read` -/
def read : Fallible Text :=
  orIo "read configuration" (.beside repo.configName)
    ((readBytes repo).bind fun r => .done (r.bind fromUtf8))

/-- `write_atomic`: a temporary file with the attributes of the old one takes its name. -/
def writeAtomic (contents : Text) : Fallible Unit := do
  let metadata ← orIo "read configuration metadata" (.beside repo.configName)
    (Call.metadata repo.configName).make
  let pending ← writeTemporary repo contents.bytes (some metadata)
  Program.orElse (orIo "replace configuration" (.beside repo.configName)
    (Call.rename pending repo.configName).make) (dropPending pending)
  syncParent

/-- `create_backup` -/
def createBackup : Fallible Str := do
  let metadata ← orIo "read configuration metadata" (.beside repo.configName)
    (Call.metadata repo.configName).make
  let contents ← orIo "read configuration" (.beside repo.configName) (readBytes repo)
  let timestamp ← ExceptT.lift Call.now.make
  let sequence ← ExceptT.lift Call.fetchAdd.make
  let process ← ExceptT.lift Call.processId.make
  let backupPath := backupName repo timestamp process sequence
  let pending ← writeTemporary repo contents (some metadata)
  Program.orElse (do
    linkFile pending backupPath "create backup"
    remove pending) (dropPending pending)
  syncParent
  pure backupPath

/-! ## The machine -/

/-- What does not change: the samples, and the attributes of a file that a process creates. -/
structure Environment where
  samples : Str → Option (List UInt8)
  creator : Nat → Attrs

/-- The calls of a repository. -/
inductive Operation where
  | ensureExists
  | read
  | writeAtomic (contents : Text)
  | createBackup

/-- What a call returns. -/
inductive Outcome where
  | ensured (result : Except RepositoryError CreationStatus)
  | read (result : Except RepositoryError Text)
  | wrote (result : Except RepositoryError Unit)
  | backedUp (result : Except RepositoryError Str)

/-- The system calls of an operation. -/
def Operation.program : Operation → Prog Outcome
  | ensureExists => (Repository.ensureExists repo).run.bind fun r => .done (.ensured r)
  | read => (Repository.read repo).run.bind fun r => .done (.read r)
  | writeAtomic contents =>
    (Repository.writeAtomic repo contents).run.bind fun r => .done (.wrote r)
  | createBackup => (Repository.createBackup repo).run.bind fun r => .done (.backedUp r)

/-- An operation under way, or ended. -/
structure Running where
  process : Nat
  operation : Operation
  rest : Prog Outcome
  /-- History: the change of the directory by which the operation last bound the configuration. -/
  bound : Option Nat

/-- The directory and the processes that work on it. -/
structure World where
  directory : Directory
  /-- `TEMP_SEQUENCE` of each process. -/
  sequence : Nat → Nat
  running : Nat → Option Running

/-- One step. A call fails with `fault`, where there is one; `number` is the time, or the bound of a
write. -/
inductive Label where
  | start (id process : Nat) (operation : Operation)
  | call (id : Nat) (fault : Option ErrorKind) (number : Nat)
  | kill (process : Nat)
  | crash (choice : Str → Nat) (torn : Nat → List UInt8 × Attrs)

variable (env : Environment)

/-- A call that changes nothing. -/
def asking (d : Directory) (fault : Option ErrorKind) (answer : Except ErrorKind α) :
    Except ErrorKind α × Directory :=
  (fault.elim answer .error, d)

/-- A call that changes the directory on success. -/
def changing (d : Directory) (fault : Option ErrorKind) (a : α) (changed : Directory) :
    Except ErrorKind α × Directory :=
  fault.elim (.ok a, changed) fun e => (.error e, d)

/-- The answer to a call, and the directory behind it. -/
def perform (process sequence : Nat) (d : Directory) (fault : Option ErrorKind) (number : Nat) :
    (c : Call) → c.Answer × Directory
  | .createDirAll | .openDirectory => asking d fault (.ok ())
  | .tryExists name => asking d fault (.ok (d.lookup name).isSome)
  | .readSample path => asking d fault (((env.samples path).map .ok).getD (.error .notFound))
  | .metadata name =>
    asking d fault (((d.lookup name).map fun i => .ok (d.inodes i).attrs).getD (.error .notFound))
  | .openFile name => asking d fault (((d.lookup name).map .ok).getD (.error .notFound))
  | .readToEnd file => asking d fault (.ok (d.inodes file).data)
  | .now => (number, d)
  | .processId => (process, d)
  | .fetchAdd => (sequence, d)
  | .createNew name =>
    match d.lookup name with
    | some _ => asking d fault (.error .alreadyExists)
    | none => changing d fault d.next (d.create name (env.creator process))
  | .write file buffer =>
    changing d fault (min number buffer.length) (d.append file (buffer.take number))
  | .fileMetadata file => asking d fault (.ok (d.inodes file).attrs)
  | .fchown file owner group =>
    changing d fault () (d.setAttrs file fun a => { a with owner := owner, group := group })
  | .setPermissions file mode => changing d fault () (d.setAttrs file fun a => { a with mode := mode })
  | .syncAll file => changing d fault () (d.sync file)
  | .rename source destination =>
    match d.lookup source with
    | none => asking d fault (.error .notFound)
    | some _ => changing d fault () (d.rename source destination)
  | .hardLink source destination =>
    match d.lookup source, d.lookup destination with
    | none, _ => asking d fault (.error .notFound)
    | some _, some _ => asking d fault (.error .alreadyExists)
    | some _, none => changing d fault () (d.link source destination)
  | .removeFile name =>
    match d.lookup name with
    | none => asking d fault (.error .notFound)
    | some _ => changing d fault () (d.unlink name)
  | .syncDirectory => changing d fault () d.syncEntries

/-- The sequence number of a process behind a call. -/
def Call.sequenceAfter (sequence : Nat) : Call → Nat
  | fetchAdd => (sequence + 1) % 2 ^ 64
  | _ => sequence

/-- The next call of an operation. -/
def exec (w : World) (id : Nat) (r : Running) (fault : Option ErrorKind) (number : Nat) :
    Option World :=
  match r.rest with
  | .done _ => none
  | .call c next =>
    let sequence := w.sequence r.process
    let performed := perform env r.process sequence w.directory fault number c
    let present := performed.2.present repo.configName
    some
      { directory := performed.2
        sequence := Function.update w.sequence r.process (c.sequenceAfter sequence)
        running := Function.update w.running id (some { r with
          rest := next performed.1
          bound := if present = w.directory.present repo.configName then r.bound
            else some present.stamp }) }

/-- One label: an operation starts, makes its next system call or is killed, or the machine crashes.
-/
def step (w : World) : Label → Option World
  | .start id process operation =>
    match w.running id with
    | some _ => none
    | none => some
        { w with
          running := Function.update w.running id
            (some ⟨process, operation, operation.program repo, none⟩) }
  | .call id fault number => (w.running id).bind fun r => exec repo env w id r fault number
  | .kill process => some
      { w with
        sequence := Function.update w.sequence process 0
        running := fun id => (w.running id).filter fun r => r.process ≠ process }
  | .crash choice torn => some ⟨w.directory.crash choice torn, fun _ => 0, fun _ => none⟩

/-- All interleavings of the operations. -/
def system (init : World → Prop) : System World Label where
  init := init
  step := step repo env

end Repository
end Tune
end UsbRadioPlus
