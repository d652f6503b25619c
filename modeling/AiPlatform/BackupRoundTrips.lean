import AiPlatform.Backups

/-!
What a backup that was taken without complaint is good for: whether it holds everything,
whether a change of it is noticed, and whether a restore that reports success has brought
back what was backed up.
-/

namespace AiPlatform.Backups

variable {Database : Type}

/-- What `pg_restore` makes of a dump, and what is in a tar file. -/
structure Tools (Database : Type) where
  reads : Bytes → Option Database
  unpacks : Bytes → Option Tree

structure Documented (tools : Tools Database) (platform : Platform Database) (run : CreateRun) :
    Prop where
  dumps : ∀ {dump}, run.pgDump = .ok dump → tools.reads dump = some platform.database
  tars : ∀ {tar}, run.tar platform.originals = .ok tar →
    tools.unpacks tar = some platform.originals

/-- The backup holds the database, a snapshot of every collection, and the originals. -/
structure Complete (tools : Tools Database) (platform : Platform Database) (run : CreateRun)
    (backup : Backup) : Prop where
  database : ∃ dump, backup.artifact "postgres.dump" = some (.file dump) ∧
    tools.reads dump = some platform.database
  snapshots : ∃ tree, backup.artifact "qdrant" = some (.directory tree) ∧
    ∀ collection ∈ platform.collections, ∃ content,
      qdrantSnapshot run collection = some content ∧
        tree.read (snapshotName collection) = some content
  originals : platform.originals.files = [] ∨
    ∃ tar, backup.artifact "minio.tar" = some (.file tar) ∧
      tools.unpacks tar = some platform.originals

structure Captured (loads : String → Option (List String)) (platform : Platform Database)
    (run : CreateRun) : Prop where
  collections : ∀ collection ∈ platform.collections,
    collection ∈ qdrantCollections loads run.listing ∧
      (qdrantSnapshot run collection).isSome = true
  originals : platform.originals.files = [] ∨ platform.located = true

def Artifact.Same : Artifact → Artifact → Prop
  | .file content, .file other => content = other
  | .directory tree, .directory other => tree.files.Perm other.files
  | _, _ => False

/-- An artifact is gone or is another. -/
def Changed (backup changed : Backup) : Prop :=
  ∃ entry ∈ backup.artifacts, ∀ artifact ∈ changed.artifact entry.1, ¬ entry.2.Same artifact

def Visible (sha256 : Bytes → String) (contents : Contents) (backup changed : Backup) : Prop :=
  (∃ entry ∈ backup.artifacts, ∀ artifact ∈ changed.artifact entry.1,
    artifact.text sha256 ≠ entry.2.text sha256) ∨ dumpProblem contents changed ≠ .ok []

/-- No artifact has the SHA-256 of another text. -/
def CollisionFree (sha256 : Bytes → String) (backup changed : Backup) : Prop :=
  ∀ entry ∈ backup.artifacts, ∀ artifact ∈ changed.artifact entry.1,
    artifact.digest sha256 = entry.2.digest sha256 → artifact.text sha256 = entry.2.text sha256

def Recovered (platform after : Platform Database) : Prop :=
  after.database = platform.database ∧ after.originals.files.Perm platform.originals.files

theorem snapshotName_inj {left right : String} :
    snapshotName left = snapshotName right ↔ left = right := by
  simp [snapshotName]

theorem Tree.read_write (tree : Tree) (name : String) (content : Bytes) :
    (tree.write name content).read name = some content := by
  have fresh : (tree.files.filter fun file => file.1 ≠ name).lookup name = none := by
    refine List.lookup_eq_none_iff.mpr fun file member => ?_
    have other := List.of_mem_filter member
    simp only [decide_eq_true_eq] at other
    exact bne_iff_ne.mpr (Ne.symm other)
  rw [Tree.read, Tree.write, List.lookup_append, fresh]
  simp

theorem Tree.read_write_of_ne (tree : Tree) {name other : String} (content : Bytes)
    (differ : other ≠ name) : (tree.write name content).read other = tree.read other := by
  have apart : (other == name) = false := beq_false_of_ne differ
  have kept : (tree.files.filter fun file => file.1 ≠ name).lookup other =
      tree.files.lookup other := by
    induction tree.files with
    | nil => rfl
    | cons file rest ih =>
        by_cases same : file.1 = name
        · rw [List.filter_cons_of_neg (by simp [same]), ih, List.lookup_cons, same, apart]
        · rw [List.filter_cons_of_pos (by simp [same]), List.lookup_cons, List.lookup_cons, ih]
  simp only [Tree.read, Tree.write, List.lookup_append, kept, List.lookup_cons, apart,
    List.lookup_nil, Option.or_none]

section Creating

variable {run : CreateRun} {collection : String} {names : List String} {tree : Tree}

theorem saveSnapshots_other (other : collection ∉ names ∨ qdrantSnapshot run collection = none) :
    (saveSnapshots run names tree).read (snapshotName collection) =
      tree.read (snapshotName collection) := by
  induction names generalizing tree with
  | nil => rfl
  | cons first rest ih =>
      rw [saveSnapshots, ih (other.imp_left fun absent => (absent <| List.mem_cons_of_mem first ·))]
      split
      · rename_i content saved
        refine tree.read_write_of_ne content fun same => ?_
        cases snapshotName_inj.mp same
        rcases other with absent | failed
        · exact absent List.mem_cons_self
        · rw [failed] at saved
          cases saved
      · rfl

theorem saveSnapshots_read {content : Bytes} (listed : collection ∈ names)
    (saved : qdrantSnapshot run collection = some content) :
    (saveSnapshots run names tree).read (snapshotName collection) = some content := by
  induction names generalizing tree with
  | nil => cases listed
  | cons first rest ih =>
      by_cases again : collection ∈ rest
      · exact ih again
      · obtain rfl := (List.mem_cons.mp listed).resolve_right again
        rw [saveSnapshots, saveSnapshots_other (.inl again), saved]
        exact tree.read_write _ content

theorem saveSnapshots_saved (names : List String) (tree : Tree) {content : Bytes}
    (fresh : tree.read (snapshotName collection) = none)
    (read : (saveSnapshots run names tree).read (snapshotName collection) = some content) :
    collection ∈ names ∧ qdrantSnapshot run collection = some content := by
  by_cases other : collection ∉ names ∨ qdrantSnapshot run collection = none
  · rw [saveSnapshots_other other, fresh] at read
    cases read
  · simp only [not_or, not_not] at other
    obtain ⟨saved, same⟩ := Option.ne_none_iff_exists'.mp other.2
    rw [saveSnapshots_read other.1 same] at read
    exact ⟨other.1, same.trans read⟩

structure Taken (loads : String → Option (List String)) (sha256 : Bytes → String)
    (platform : Platform Database) (run : CreateRun) (backup : Backup) (dump : Bytes)
    (rest : List (String × Artifact)) : Prop where
  dumped : run.pgDump = .ok dump
  artifacts : backup.artifacts =
    ("postgres.dump", .file dump) ::
      ("qdrant", .directory (saveSnapshots run (qdrantCollections loads run.listing) .empty)) :: rest
  originals : (platform.located = true ∧ ∃ tar, run.tar platform.originals = .ok tar ∧
      rest = [("minio.tar", .file tar)]) ∨ (platform.located = false ∧ rest = [])
  manifest : backup.manifest = some
    ⟨backup.artifacts.map fun artifact => (artifact.1, artifact.2.digest sha256),
      keyFingerprint sha256 run.key⟩

theorem create_taken {loads : String → Option (List String)} {sha256 : Bytes → String}
    {platform : Platform Database} {backup : Backup}
    (created : create loads sha256 platform run = .ok (0, backup)) :
    ∃ dump rest, Taken loads sha256 platform run backup dump rest := by
  unfold create at created
  split at created
  · cases created
  rename_i dump dumped
  unfold artifactsOf at created
  cases located : platform.located with
  | false =>
      simp only [located, Bool.false_eq_true, if_false] at created
      cases created
      exact ⟨dump, [], dumped, rfl, .inr ⟨located, rfl⟩, rfl⟩
  | true =>
      simp only [located, if_true] at created
      cases packed : run.tar platform.originals with
      | error typeName =>
          rw [packed] at created
          cases created
      | ok tar =>
          rw [packed] at created
          cases created
          exact ⟨dump, _, dumped, rfl, .inl ⟨located, tar, packed, rfl⟩, rfl⟩

end Creating

section Taken

variable {loads : String → Option (List String)} {sha256 : Bytes → String}
  {platform : Platform Database} {run : CreateRun} {backup : Backup} {dump : Bytes}
  {rest : List (String × Artifact)} {tools : Tools Database}

theorem Taken.dump_artifact (taken : Taken loads sha256 platform run backup dump rest) :
    backup.artifact "postgres.dump" = some (.file dump) := by
  rw [Backup.artifact, taken.artifacts]
  rfl

theorem Taken.complete_iff (documented : Documented tools platform run)
    (taken : Taken loads sha256 platform run backup dump rest) :
    Complete tools platform run backup ↔ Captured loads platform run := by
  have snapshots : backup.artifact "qdrant" = some
      (.directory (saveSnapshots run (qdrantCollections loads run.listing) .empty)) := by
    rw [Backup.artifact, taken.artifacts]
    rfl
  constructor
  · intro complete
    constructor
    · obtain ⟨tree, held, all⟩ := complete.snapshots
      cases snapshots.symm.trans held
      intro collection member
      obtain ⟨content, _, read⟩ := all collection member
      obtain ⟨listed, saved⟩ := saveSnapshots_saved _ .empty rfl read
      exact ⟨listed, by rw [saved]; rfl⟩
    · refine complete.originals.imp_right ?_
      rintro ⟨tar, held, _⟩
      obtain ⟨located, _⟩ | ⟨_, rfl⟩ := taken.originals
      · exact located
      · rw [Backup.artifact, taken.artifacts] at held
        cases held
  · intro captured
    refine ⟨⟨dump, taken.dump_artifact, documented.dumps taken.dumped⟩, ⟨_, snapshots, ?_⟩, ?_⟩
    · intro collection member
      obtain ⟨listed, some⟩ := captured.collections collection member
      obtain ⟨content, saved⟩ := Option.isSome_iff_exists.mp some
      exact ⟨content, saved, saveSnapshots_read listed saved⟩
    · refine captured.originals.imp_right fun located => ?_
      obtain ⟨_, tar, packed, rfl⟩ | ⟨elsewhere, _⟩ := taken.originals
      · refine ⟨tar, ?_, documented.tars packed⟩
        rw [Backup.artifact, taken.artifacts]
        rfl
      · rw [located] at elsewhere
        cases elsewhere

theorem Taken.verify_iff (taken : Taken loads sha256 platform run backup dump rest)
    {changed : Backup} (kept : changed.manifest = backup.manifest)
    (apart : CollisionFree sha256 backup changed) (contents : Contents) :
    verify sha256 contents changed = .ok 0 ↔ ¬ Visible sha256 contents backup changed := by
  have problems : (∀ entry ∈ backup.artifacts,
        artifactProblem sha256 changed entry.1 (entry.2.digest sha256) = none) ↔
      ¬ ∃ entry ∈ backup.artifacts, ∀ artifact ∈ changed.artifact entry.1,
        artifact.text sha256 ≠ entry.2.text sha256 := by
    simp only [not_exists, not_and]
    refine forall₂_congr fun entry member => ?_
    unfold artifactProblem
    cases held : changed.artifact entry.1 with
    | none => simp
    | some artifact =>
        dsimp only
        constructor
        · intro fine differ
          split at fine
          · cases fine
          · rename_i same
            exact differ artifact rfl (apart entry member artifact held (not_not.mp same))
        · intro seen
          refine if_neg (not_not.mpr ?_)
          by_contra differ
          refine seen fun other same => ?_
          cases same
          exact fun text => differ (congrArg sha256 text)
  have clear : verify sha256 contents changed = .ok 0 ↔
      (∀ entry ∈ backup.artifacts,
        artifactProblem sha256 changed entry.1 (entry.2.digest sha256) = none) ∧
        dumpProblem contents changed = .ok [] := by
    unfold verify
    rw [kept, taken.manifest]
    dsimp only
    cases dumpProblem contents changed with
    | error typeName => simp
    | ok more =>
        rw [Except.ok.injEq, Except.ok.injEq, ite_eq_left_iff, List.isEmpty_iff,
          List.append_eq_nil_iff, List.filterMap_map, List.filterMap_eq_nil_iff]
        exact ⟨fun fine => not_not.mp fun refused => absurd (fine refused) Nat.one_ne_zero,
          fun fine refused => absurd fine refused⟩
  rw [clear, problems, Visible, not_or, not_not]

theorem Taken.artifact_of_mem (taken : Taken loads sha256 platform run backup dump rest)
    {entry : String × Artifact} (member : entry ∈ backup.artifacts) :
    backup.artifact entry.1 = some entry.2 := by
  rw [taken.artifacts] at member
  rw [Backup.artifact, taken.artifacts]
  obtain ⟨_, tar, _, rfl⟩ | ⟨_, rfl⟩ := taken.originals
  · simp only [List.mem_cons, List.not_mem_nil, or_false] at member
    rcases member with rfl | rfl | rfl <;> rfl
  · simp only [List.mem_cons, List.not_mem_nil, or_false] at member
    rcases member with rfl | rfl <;> rfl

theorem Taken.verifies_unchanged (taken : Taken loads sha256 platform run backup dump rest)
    (contents : Contents) :
    verify sha256 contents backup = .ok 0 ↔ dumpProblem contents backup = .ok [] := by
  have same : ∀ entry ∈ backup.artifacts, ∀ artifact ∈ backup.artifact entry.1,
      artifact = entry.2 := by
    intro entry member artifact held
    exact Option.some.inj (held.symm.trans (taken.artifact_of_mem member))
  rw [taken.verify_iff rfl (fun entry member artifact held _ => by rw [same entry member artifact held])]
  rw [Visible, not_or, not_not]
  refine and_iff_right ?_
  rintro ⟨entry, member, differ⟩
  exact differ entry.2 (taken.artifact_of_mem member) rfl

/-- A restore onto a platform with the key of the backup stops where the dump cannot be
listed or nobody confirms; else it succeeds unless a line tells an error. -/
theorem Taken.restore_iff (taken : Taken loads sha256 platform run backup dump rest)
    {restoring : RestoreRun Database} (sameKey : restoring.key = run.key)
    (target : Platform Database) :
    ((restore sha256 backup target restoring).1 = .ok 0 ↔
      dumpProblem restoring.contents backup = .ok [] ∧ restoring.confirmed = .ok true ∧
        restoring.stderr.any isError = false) ∧
    ((restore sha256 backup target restoring).1 = .ok 0 →
      (restore sha256 backup target restoring).2 =
        { target with database := restoring.database }) := by
  rw [← taken.verifies_unchanged]
  by_cases verified : verify sha256 restoring.contents backup = .ok 0
  · simp only [restore, verified, taken.manifest, sameKey, taken.dump_artifact]
    rw [if_neg (by simp), if_neg (by simp)]
    cases restoring.confirmed with
    | error typeName => simp
    | ok word =>
        cases word with
        | false => simp
        | true =>
            cases restoring.stderr.any isError with
            | true => simp
            | false => simp [verified]
  · have stopped : (restore sha256 backup target restoring).1 ≠ .ok 0 := by
      unfold restore
      rw [taken.manifest]
      cases status : verify sha256 restoring.contents backup with
      | error typeName =>
          intro same
          cases same
      | ok code =>
          cases code with
          | zero => exact absurd status verified
          | succ code => exact fun same => absurd (Except.ok.inj same) Nat.one_ne_zero
    exact ⟨iff_of_false stopped fun success => verified success.1, fun success => absurd success stopped⟩

end Taken

/-- What is asked of a backup, of a later change of it, and of a restore of it. -/
structure Trustworthy (tools : Tools Database) (sha256 : Bytes → String)
    (platform : Platform Database) (run : CreateRun) (backup changed : Backup)
    (contents : Contents) (target : Platform Database) (restoring : RestoreRun Database) :
    Prop where
  complete : Complete tools platform run backup
  noticed : Changed backup changed → verify sha256 contents changed ≠ .ok 0
  recovered : (restore sha256 backup target restoring).1 = .ok 0 →
    Recovered platform (restore sha256 backup target restoring).2

/-- The conditions on the platforms, the change and what the commands answer. -/
structure Sound (loads : String → Option (List String)) (sha256 : Bytes → String)
    (platform : Platform Database) (run : CreateRun) (backup changed : Backup)
    (contents : Contents) (target : Platform Database) (restoring : RestoreRun Database) :
    Prop where
  captured : Captured loads platform run
  visible : Changed backup changed → Visible sha256 contents backup changed
  restored : dumpProblem restoring.contents backup = .ok [] → restoring.confirmed = .ok true →
    restoring.stderr.any isError = false →
    Recovered platform { target with database := restoring.database }

/-- A backup that `create` took is complete, every change of it is noticed, and a restore of
it that reports success has brought back what was backed up, if and only if every collection
and the originals were captured, the change shows in a hashed text, and where no line of
`pg_restore` tells an error it left the database of the backup, with the originals there
already. -/
theorem trustworthy_iff {tools : Tools Database} {loads : String → Option (List String)}
    {sha256 : Bytes → String} {platform : Platform Database} {run : CreateRun}
    {backup changed : Backup} (documented : Documented tools platform run)
    (created : create loads sha256 platform run = .ok (0, backup))
    (kept : changed.manifest = backup.manifest) (apart : CollisionFree sha256 backup changed)
    {restoring : RestoreRun Database} (sameKey : restoring.key = run.key) (contents : Contents)
    (target : Platform Database) :
    Trustworthy tools sha256 platform run backup changed contents target restoring ↔
      Sound loads sha256 platform run backup changed contents target restoring := by
  obtain ⟨dump, rest, taken⟩ := create_taken created
  have complete := taken.complete_iff documented
  have noticed := taken.verify_iff kept apart contents
  obtain ⟨success, after⟩ := taken.restore_iff sameKey target
  constructor
  · intro trusted
    refine ⟨complete.mp trusted.complete, fun change => ?_, fun listed confirmed quiet => ?_⟩
    · exact not_not.mp fun hidden => trusted.noticed change (noticed.mpr hidden)
    · have done := success.mpr ⟨listed, confirmed, quiet⟩
      rw [← after done]
      exact trusted.recovered done
  · intro sound
    refine ⟨complete.mpr sound.captured, fun change verified => ?_, fun done => ?_⟩
    · exact noticed.mp verified (sound.visible change)
    · obtain ⟨listed, confirmed, quiet⟩ := success.mp done
      rw [after done]
      exact sound.restored listed confirmed quiet

theorem encode_append (left right : String) : encode (left ++ right) = encode left ++ encode right := by
  simp [encode]

theorem treeText_merged (sha256 : Bytes → String) {first second : String} {content other : Bytes}
    (order : parts first ≤ parts second)
    (distinct : ([(first, content), (second, other)].map Prod.fst).Nodup)
    (single : ([(first ++ sha256 content ++ second, other)].map Prod.fst).Nodup) :
    treeText sha256 ⟨_, distinct⟩ = treeText sha256 ⟨_, single⟩ := by
  have sorted : (Tree.mk _ distinct).sorted = [(first, content), (second, other)] := by
    simp [Tree.sorted, order]
  have one : (Tree.mk _ single).sorted = [(first ++ sha256 content ++ second, other)] := rfl
  rw [treeText, treeText, sorted, one]
  simp [encode_append]

def sum (content : Bytes) : String := (sums.lookup content).getD ""
where
  sums : List (Bytes × String) :=
  [([1], "4bf5122f344554c53bde2ebb8cd2b7e3d1600ad631c385a5d7cce23c7785459a"),
    ([2], "dbc1b4c900ffe48d575b5da5c638040125f65db0fe3e24494b76ea986457d986"),
    ([3], "084fed08b978af4d7d196a7446a86b58009e636b611db16211b65a9aadff29c5"),
    ([4], "e52d9c508c502347344d8c07ad91cbd6068afc75ff6292f062a09ca381c89e71"),
    ([9], "2b4c342f5433ebe591a1da77e013d1b72475562d48578dca8b84bac6651c3cb9"),
    (encode "docs.snapshotdbc1b4c900ffe48d575b5da5c638040125f65db0fe3e24494b76ea986457d986",
      "f55a3f88622650190fc55f952dc188e597d435943c38a1a935101411773b7c61"),
    (encode ("docs.snapshotdbc1b4c900ffe48d575b5da5c638040125f65db0fe3e24494b76ea986457d986" ++
        "hr.snapshote52d9c508c502347344d8c07ad91cbd6068afc75ff6292f062a09ca381c89e71"),
      "68510180eab4efbe1279e41f5716d33f3d72889aebef873607412d7a45e34c80"),
    (encode "ai-platform-backup-keyid" ++ 0 :: encode "k",
      "8c5c58df1cfa6f444b124713697724488e0dc8e6faef57c45f93e1571e26fc53")]

def originals : Tree := ⟨[("docs/a.txt", [65])], by decide⟩

/-- Its dump is `[1]` and its tar file `[3]`. -/
def site (collections : List String) : Platform Nat := ⟨1, collections, originals, true⟩

def reading : Tools Nat where
  reads dump := if dump = [1] then some 1 else none
  unpacks tar := if tar = [3] then some originals else none

def listed (line : String) : Option (List String) :=
  [("[\"docs\"]", ["docs"]), ("[\"docs\", \"hr\", \"ops\"]", ["docs", "hr", "ops"])].lookup line

def taking (listing : String) : CreateRun where
  pgDump := .ok [1]
  listing := [listing]
  snapshot collection := if collection = "ops" then [] else [collection ++ "-1.snapshot"]
  copy collection _ := if collection = "docs" then some [2] else some [4]
  tar _ := .ok [3]
  key := "k"

def backupOf (platform : Platform Nat) (run : CreateRun) : Backup :=
  match create listed sum platform run with
  | .ok (_, backup) => backup
  | .error _ => ⟨[], none⟩

def readable : Contents := fun _ => some ["4099; 0 16390 TABLE DATA public users ai_platform"]

def putBack : RestoreRun Nat := ⟨readable, "k", true, none, [], 1⟩

def docsBackup : Backup := backupOf (site ["docs"]) (taking "[\"docs\"]")

def tampered : Backup :=
  { docsBackup with artifacts := ("postgres.dump", .file [9]) :: docsBackup.artifacts.tail }

theorem documented_site (collections : List String) (listing : String) :
    Documented reading (site collections) (taking listing) := by
  constructor
  · intro dump dumped
    cases dumped
    rfl
  · intro tar packed
    cases packed
    rfl

theorem docs_backup_is_trustworthy :
    Trustworthy reading sum (site ["docs"]) (taking "[\"docs\"]") docsBackup tampered readable
      (site ["docs"]) putBack := by
  have created : create listed sum (site ["docs"]) (taking "[\"docs\"]") = .ok (0, docsBackup) := rfl
  have kept : tampered.manifest = docsBackup.manifest := rfl
  have sameKey : putBack.key = (taking "[\"docs\"]").key := rfl
  refine (trustworthy_iff (documented_site _ _) created kept ?_ sameKey readable _).mpr ⟨?_, ?_, ?_⟩
  · intro entry member artifact held same
    obtain rfl | rfl | rfl : entry = ("postgres.dump", .file [1]) ∨
        entry = ("qdrant", .directory (saveSnapshots (taking "[\"docs\"]")
          (qdrantCollections listed (taking "[\"docs\"]").listing) .empty)) ∨
        entry = ("minio.tar", .file [3]) := by
      rcases List.mem_cons.mp member with first | member
      · exact .inl first
      rcases List.mem_cons.mp member with second | member
      · exact .inr (.inl second)
      · exact .inr (.inr (List.mem_singleton.mp member))
    · cases held
      exact absurd same (by decide +kernel)
    · cases held
      rfl
    · cases held
      rfl
  · exact ⟨by decide +kernel, .inr rfl⟩
  · exact fun _ => .inl ⟨_, List.mem_cons_self, fun artifact held => by
      cases held
      exact (by decide : ([9] : Bytes) ≠ [1])⟩
  · exact fun _ _ _ => ⟨rfl, .refl _⟩

def opsRun : CreateRun := taking "[\"docs\", \"hr\", \"ops\"]"

def opsSite : Platform Nat := site ["docs", "hr", "ops"]

def opsBackup : Backup := backupOf opsSite opsRun

def twoSnapshots : Tree := ⟨[("docs.snapshot", [2]), ("hr.snapshot", [4])], by decide⟩

def oneSnapshot : Tree := ⟨[("docs.snapshot" ++ sum [2] ++ "hr.snapshot", [4])], List.nodup_singleton _⟩

/-- One snapshot is gone, and the other has its name and its digest in front of its own. -/
def merged : Backup :=
  { opsBackup with artifacts :=
    [("postgres.dump", .file [1]), ("qdrant", .directory oneSnapshot), ("minio.tar", .file [3])] }

def stopped : RestoreRun Nat :=
  ⟨readable, "k", true, none, ["service \"postgres\" is not running"], 0⟩

def emptySite : Platform Nat := ⟨0, [], .empty, true⟩

theorem ops_backup_is_not_trustworthy :
    create listed sum opsSite opsRun = .ok (0, opsBackup) ∧
      ¬ Complete reading opsSite opsRun opsBackup ∧
      (merged.manifest = opsBackup.manifest ∧ Changed opsBackup merged ∧
        verify sum readable merged = .ok 0) ∧
      (restore sum opsBackup emptySite stopped).1 = .ok 0 ∧
        ¬ Recovered opsSite (restore sum opsBackup emptySite stopped).2 := by
  have created : create listed sum opsSite opsRun = .ok (0, opsBackup) := rfl
  obtain ⟨dump, rest, taken⟩ := create_taken created
  have artifacts : opsBackup.artifacts =
      [("postgres.dump", .file [1]), ("qdrant", .directory twoSnapshots),
        ("minio.tar", .file [3])] := rfl
  have text : treeText sum oneSnapshot = treeText sum twoSnapshots :=
    (treeText_merged sum (by decide +kernel) _ _).symm
  have texts : ∀ entry ∈ opsBackup.artifacts, ∃ artifact ∈ merged.artifact entry.1,
      artifact.text sum = entry.2.text sum := by
    intro entry member
    rw [artifacts] at member
    simp only [List.mem_cons, List.not_mem_nil, or_false] at member
    obtain rfl | rfl | rfl := member
    · exact ⟨_, rfl, rfl⟩
    · exact ⟨_, rfl, text⟩
    · exact ⟨_, rfl, rfl⟩
  have sameKey : stopped.key = opsRun.key := rfl
  obtain ⟨success, after⟩ := taken.restore_iff sameKey emptySite
  have done := success.mpr ⟨rfl, rfl, by decide +kernel⟩
  have kept : merged.manifest = opsBackup.manifest := rfl
  refine ⟨created, fun complete => ?_, ⟨kept, ?_, ?_⟩, done, ?_⟩
  · obtain ⟨tree, _, all⟩ := complete.snapshots
    obtain ⟨content, saved, _⟩ := all "ops" (by decide)
    cases saved
  · refine ⟨("qdrant", .directory twoSnapshots), ?_, ?_⟩
    · rw [artifacts]
      exact List.mem_cons_of_mem _ List.mem_cons_self
    · intro artifact held same
      cases held
      exact absurd same.length_eq (by decide)
  · refine (taken.verify_iff kept ?_ readable).mpr ?_
    · intro entry member artifact held _
      obtain ⟨other, held', same⟩ := texts entry member
      cases held.symm.trans held'
      exact same
    · rintro (⟨entry, member, differ⟩ | refused)
      · obtain ⟨artifact, held, same⟩ := texts entry member
        exact differ artifact held same
      · exact refused rfl
  · rw [after done]
    rintro ⟨database, _⟩
    cases database

end AiPlatform.Backups
