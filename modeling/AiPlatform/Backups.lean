import AiPlatform.AgentModel
import Mathlib.Data.List.Infix
import Mathlib.Data.String.Basic

/-!
`scripts/backup.py`: taking a backup, verifying it and restoring it. What the external
commands answer is arbitrary; a command's output is its lines.
-/

namespace AiPlatform.Backups

open Agents (strip truthy)

abbrev Bytes := List UInt8

/-- `str.encode()` -/
def encode (text : String) : Bytes := text.toUTF8.data.toList

structure Tree where
  files : List (String × Bytes)
  distinct : (files.map Prod.fst).Nodup

def Tree.empty : Tree := ⟨[], .nil⟩

def Tree.write (tree : Tree) (name : String) (content : Bytes) : Tree where
  files := tree.files.filter (fun file => file.1 ≠ name) ++ [(name, content)]
  distinct := by
    rw [List.map_append]
    refine List.Nodup.append ?_ (List.nodup_singleton _) ?_
    · exact (List.Sublist.map Prod.fst List.filter_sublist).nodup tree.distinct
    · intro path kept new
      obtain ⟨file, member, rfl⟩ := List.mem_map.mp kept
      have other := List.of_mem_filter member
      simp only [decide_eq_true_eq] at other
      exact other (List.mem_singleton.mp new)

def Tree.read (tree : Tree) (name : String) : Option Bytes := tree.files.lookup name

inductive Artifact
  | file (content : Bytes)
  | directory (tree : Tree)

/-- The names of a path, by which `sorted` compares paths. -/
def parts (path : String) : List (List Char) := path.toList.splitOn '/'

def Tree.sorted (tree : Tree) : List (String × Bytes) :=
  tree.files.insertionSort fun left right => parts left.1 ≤ parts right.1

section Digests

variable (sha256 : Bytes → String)

/-- What `_tree_digest` hashes. -/
def treeText (tree : Tree) : Bytes :=
  tree.sorted.flatMap fun file => encode file.1 ++ encode (sha256 file.2)

def Artifact.text : Artifact → Bytes
  | .file content => content
  | .directory tree => treeText sha256 tree

/-- `_digest` of a file, `_tree_digest` of a directory. -/
def Artifact.digest (artifact : Artifact) : String := sha256 (artifact.text sha256)

def keyFingerprint (key : String) : String :=
  if key = "" then ""
  else
    String.ofList ((sha256 (encode "ai-platform-backup-keyid" ++ 0 :: encode key)).toList.take 16)

end Digests

structure Manifest where
  artifacts : List (String × String)
  keyFingerprint : String

structure Backup where
  artifacts : List (String × Artifact)
  manifest : Option Manifest

def Backup.artifact (backup : Backup) (name : String) : Option Artifact :=
  backup.artifacts.lookup name

/-- The database, the vector collections and the stored originals; `located` tells if the
local data directory is where MinIO keeps them. -/
structure Platform (Database : Type) where
  database : Database
  collections : List String
  originals : Tree
  located : Bool

/-- What the external commands of `create` answer, and the tar file. -/
structure CreateRun where
  -- The output of `pg_dump`, which is `.ok` where it exits with 0.
  pgDump : Except Bytes Bytes
  -- The output of the program that lists the collections.
  listing : List String
  -- The output of the program that has a collection snapshotted.
  snapshot : String → List String
  -- The file that is copied of a collection's snapshot, where `cp` exits with 0.
  copy : String → String → Option Bytes
  tar : Tree → Except String Bytes
  key : String

section Create

variable (loads : String → Option (List String))

/-- `_qdrant_collections`; `loads` reads a JSON list of names. -/
def qdrantCollections (listing : List String) : List String :=
  ((listing.reverse.filter fun line => (strip line).toList.head? = some '[').findSome? loads).getD []

/-- `ln.strip().endswith(".snapshot")` -/
def isSnapshot (line : String) : Bool := ".snapshot".toList.isSuffixOf (strip line).toList

/-- `_qdrant_snapshot`, with the file that it copies. -/
def qdrantSnapshot (run : CreateRun) (collection : String) : Option Bytes :=
  match (run.snapshot collection).reverse.find? isSnapshot with
  | none => none
  | some line => run.copy collection (strip line)

def snapshotName (collection : String) : String := collection ++ ".snapshot"

def saveSnapshots (run : CreateRun) : List String → Tree → Tree
  | [], tree => tree
  | collection :: rest, tree =>
      saveSnapshots run rest (match qdrantSnapshot run collection with
        | some content => tree.write (snapshotName collection) content
        | none => tree)

def artifactsOf {Database : Type} (platform : Platform Database) (run : CreateRun) (dump : Bytes) :
    Except String (List (String × Artifact)) :=
  let tree := saveSnapshots run (qdrantCollections loads run.listing) .empty
  let saved := [("postgres.dump", Artifact.file dump), ("qdrant", .directory tree)]
  if platform.located then
    match run.tar platform.originals with
    | .error typeName => .error typeName
    | .ok tar => .ok (saved ++ [("minio.tar", .file tar)])
  else .ok saved

/-- `create`: the exit status, and the directory. -/
def create {Database : Type} (sha256 : Bytes → String) (platform : Platform Database)
    (run : CreateRun) : Except String (Nat × Backup) :=
  match run.pgDump with
  | .error output => .ok (1, ⟨[("postgres.dump", .file output)], none⟩)
  | .ok dump =>
      match artifactsOf loads platform run dump with
      | .error typeName => .error typeName
      | .ok artifacts =>
          .ok (0, ⟨artifacts, some
            ⟨artifacts.map fun artifact => (artifact.1, artifact.2.digest sha256),
              keyFingerprint sha256 run.key⟩⟩)

end Create

/-- The lines that `pg_restore --list` tells of a dump, where it exits with 0. -/
abbrev Contents := Bytes → Option (List String)

/-- `text in line` -/
def within (text line : String) : Bool :=
  line.toList.tails.any fun tail => text.toList.isPrefixOf tail

def artifactProblem (sha256 : Bytes → String) (backup : Backup) (name digest : String) :
    Option String :=
  match backup.artifact name with
  | none => some s!"{name}: missing"
  | some artifact =>
      if artifact.digest sha256 ≠ digest then
        some s!"{name}: checksum mismatch — the file changed since it was written"
      else none

def dumpProblem (contents : Contents) (backup : Backup) : Except String (List String) :=
  match backup.artifact "postgres.dump" with
  | none => .ok []
  | some (.directory _) => .error "IsADirectoryError"
  | some (.file dump) =>
      match contents dump with
      | none => .ok ["postgres.dump: pg_restore cannot read it"]
      | some lines =>
          if lines.any (within " TABLE DATA ") then .ok []
          else .ok ["postgres.dump: readable but contains no table data"]

/-- `verify`: the exit status. -/
def verify (sha256 : Bytes → String) (contents : Contents) (backup : Backup) : Except String Nat :=
  match backup.manifest with
  | none => .ok 1
  | some manifest =>
      let problems := manifest.artifacts.filterMap fun entry =>
        artifactProblem sha256 backup entry.1 entry.2
      match dumpProblem contents backup with
      | .error typeName => .error typeName
      | .ok more => .ok (if (problems ++ more).isEmpty then 0 else 1)

/-- What is typed, if anything is, and what the external commands of `restore` answer: the lines that
`pg_restore` writes to stderr, and the database as it leaves it. -/
structure RestoreRun (Database : Type) where
  contents : Contents
  key : String
  assumeYes : Bool
  typed : Option String
  stderr : List String
  database : Database

/-- `assume_yes`, or the word that is asked for. -/
def RestoreRun.confirmed {Database : Type} (run : RestoreRun Database) : Except String Bool :=
  if run.assumeYes then .ok true
  else
    match run.typed with
    | none => .error "EOFError"
    | some text => .ok (strip text = "replace")

/-- `"error:" in ln.lower()`; no other letter's lower case is one of these. -/
def isError (line : String) : Bool := within "error:" (line.map Char.toLower)

/-- `restore`: the exit status, and the platform after it. -/
def restore {Database : Type} (sha256 : Bytes → String) (backup : Backup)
    (platform : Platform Database) (run : RestoreRun Database) :
    Except String Nat × Platform Database :=
  match verify sha256 run.contents backup, backup.manifest with
  | .ok 0, some manifest =>
      let recorded := manifest.keyFingerprint
      let current := keyFingerprint sha256 run.key
      if truthy recorded && truthy current && recorded ≠ current then (.ok 1, platform)
      else if truthy recorded && !truthy current then (.ok 1, platform)
      else
        match run.confirmed with
        | .error typeName => (.error typeName, platform)
        | .ok false => (.ok 1, platform)
        | .ok true =>
            match backup.artifact "postgres.dump" with
            | none => (.error "FileNotFoundError", platform)
            | some (.directory _) => (.error "IsADirectoryError", platform)
            | some (.file _) =>
                (.ok (if run.stderr.any isError then 1 else 0),
                  { platform with database := run.database })
  | .ok _, _ => (.ok 1, platform)
  | .error typeName, _ => (.error typeName, platform)

end AiPlatform.Backups
