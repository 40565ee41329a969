import DrogonStarter.Generator.Manifest

/-!
# Projects in their directories

`drogon-starter init` fills an empty directory from one of two sources, the minimal template or
the repository itself, and `drogon-starter enable` copies the repository over a minimal project.

* A `Tree` is what is below a directory, and a `Source` the files that a project is made from.
* `copy` is `cp -R`, which goes on after a file that it cannot copy.  `initProject` and
  `enableProject` are what the two commands do to a directory.
* `lookup_upgrade_manifest` and `upgrade_of_not_room` say what is in the manifest after an
  upgrade that succeeds and after one that fails.
* `enable_after_init` says what an upgraded project has that a project generated at once has not.
-/

namespace DrogonStarter.Generator

open Substitution

/-! ## Files -/

/-- Where a file or a folder is, below a directory. -/
abbrev Path := List String

/-- Files with their texts.  Of two with the same path the first one counts. -/
abbrev Files := List (Path × List Char)

/-- What is below a directory: files with their texts, and folders, which have none.  A folder
with something in it may be left out. -/
abbrev Tree := List (Path × Option (List Char))

/-- A tree of files. -/
def entries (files : Files) : Tree := files.map fun file => (file.1, some file.2)

/-- The text of a file. -/
def read (tree : Tree) (path : Path) : Option (List Char) := (tree.lookup path).join

/-- One of the folders on the way to a path is a file. -/
def isBelowFile (tree : Tree) (path : Path) : Bool :=
  tree.any fun entry => entry.2.isSome && entry.1 != path && entry.1.isPrefixOf path

/-- There is a folder at a path. -/
def isFolder (tree : Tree) (path : Path) : Bool :=
  tree.any fun entry => path.isPrefixOf entry.1 && (entry.1 != path || entry.2.isNone)

/-- No file can be written to a path. -/
def blocked (tree : Tree) (path : Path) : Bool := isBelowFile tree path || isFolder tree path

def manifestPath : Path := [".drogon-starter.json"]

def manifestBackup : Path := [".drogon-starter.json.bak"]

/-- `-name '*.bak'`. -/
def isBackup (path : Path) : Bool := ".bak".toList.isSuffixOf (path.getLastD "").toList

/-- `-path '*/.git/*'`, for a file below a directory. -/
def hidden (root path : Path) : Bool := decide (".git" ∈ root ++ path.dropLast)

/-- `find root -type f -not -path '*/.git/*' -exec sed -i.bak ... {} +`, and then
`find root -name '*.bak' -delete`, which deletes more than the copies that `sed` made. -/
def expand (name : ProjectName) (root : Path) (files : Files) : Files :=
  (files.filter fun file => !isBackup file.1).map fun file =>
    (file.1, if hidden root file.1 then file.2 else generate name file.2)

/-- The files that `touch` makes when they are not there. -/
def touched : Files :=
  ["platform", "examples", "migrations", "deploy"].map fun directory =>
    ([directory, ".gitkeep"], [])

def profileText (profile : Profile) : List Char :=
  '"' :: profileKey ++ '"' :: ':' :: '"' :: profile.text ++ ['"']

/-- `s/"profile":"minimal"/"profile":"user-service"/` in a line. -/
def upgradeLine : List Char → List Char
  | [] => []
  | c :: line =>
    match rest (profileText .minimal) (c :: line) with
    | some after => profileText .userService ++ after
    | none => c :: upgradeLine line

def upgradeManifest (text : List Char) : List Char :=
  ['\n'].intercalate ((text.splitOn '\n').map upgradeLine)

/-- What is at a destination.  A destination below a file is a file too: nothing can be made
there. -/
inductive Node where
  | absent
  | file
  | directory (tree : Tree)

/-- The text of a file in a directory. -/
def Node.read (path : Path) : Node → Option (List Char)
  | .directory tree => Generator.read tree path
  | _ => none

/-- The files that a project with a profile is made from.  They are the files of a directory, in
which `init` can make its four folders, and which has no folder that the second `find` would
have to delete. -/
structure Source (profile : Profile) where
  files : Files
  manifest : files.lookup manifestPath = some (Generator.manifest profile.text placeholder)
  proper : ∀ file ∈ files, blocked (entries files) file.1 = false
  room : ∀ file ∈ touched, blocked (entries files) file.1 = false
  folders : ∀ file ∈ files, ∀ folder ∈ file.1.dropLast, isBackup [folder] = false

/-- The repository that the script is part of, and the directory that `mktemp -d` makes.
`git archive` can fail, and the script then ends with the status of the pipe. -/
structure Checkout where
  template : Source .minimal
  archive : Except {status : ℕ // status ≠ 0} (Source .userService)
  temporary : Path
  temporary_visible : ".git" ∉ temporary

/-! ## Commands -/

def ProjectName.of? (text : List Char) : Option ProjectName :=
  if h : text ≠ [] ∧ text.all nameCharacter = true then some ⟨text, h.1, h.2⟩ else none

/-- What `init` copies. -/
def Checkout.source (checkout : Checkout) :
    (profile : Profile) → Except {status : ℕ // status ≠ 0} (Source profile)
  | .minimal => .ok checkout.template
  | .userService => checkout.archive

/-- `init`, below the absolute path of the destination: the status of the script and what is at
the destination afterwards. -/
def initProject (checkout : Checkout) (root : Path) (name : ProjectName) (profile : Profile) :
    Node → ℕ × Node
  | .file => (1, .file)
  | .directory (entry :: tree) => (1, .directory (entry :: tree))
  | .directory [] | .absent =>
    match checkout.source profile with
    | .ok source => (0, .directory (entries (expand name root source.files ++ touched)))
    | .error status => (status, .directory [])

/-- `cp -R`.  It goes on after a file that it cannot write, and fails at its end. -/
def copy (files : Files) (tree : Tree) : ℕ × Tree :=
  (if files.all fun file => !blocked tree file.1 then 0 else 1,
    entries (files.filter fun file => !blocked tree file.1) ++ tree)

/-- `sed -i.bak` and `rm -f` for the manifest.  `sed` ends with status 4 when its copy of the
old file would have to replace a folder. -/
def rewriteManifest (tree : Tree) : ℕ × Tree :=
  if isFolder tree manifestBackup then (4, tree)
  else
    (0, (tree.map fun entry =>
        (entry.1, if entry.1 = manifestPath then entry.2.map upgradeManifest else entry.2)).filter
      fun entry => entry.1 != manifestBackup)

/-- What `enable` makes of a project with the files of the repository. -/
def upgrade (checkout : Checkout) (name : ProjectName) (files : Files) (tree : Tree) : ℕ × Tree :=
  let copied := copy (expand name checkout.temporary files) tree
  if copied.1 = 0 then rewriteManifest copied.2 else copied

/-- What is left to do when the manifest has been read. -/
def upgradeProject (checkout : Checkout) (name : ProjectName) (tree : Tree) : ℕ × Node :=
  match checkout.archive with
  | .ok archive => (upgrade checkout name archive.files tree).map id .directory
  | .error status => (status, .directory tree)

/-- `enable`.  There is no result where the manifest has a name that `init` refuses: somebody
has changed it, and what the expressions of `sed` are then depends on the characters. -/
def enableProject (checkout : Checkout) : Node → Option (ℕ × Node)
  | .directory tree =>
    match read tree manifestPath with
    | none => some (1, .directory tree)
    | some text =>
      if readKey profileKey text = Profile.minimal.text ∧ readKey nameKey text ≠ [] then
        (ProjectName.of? (readKey nameKey text)).map fun name =>
          upgradeProject checkout name tree
      else some (1, .directory tree)
  | node => some (1, node)

/-- What an owner can put into a directory who leaves its manifest. -/
def besideManifest (tree : Tree) : Tree :=
  tree.filter fun entry => entry.1 != [] && !manifestPath.isPrefixOf entry.1

/-- The owner of a directory puts other files into it. -/
def Node.edit (tree : Tree) : Node → Node
  | .directory old =>
    .directory (old.filter (fun entry => entry.1 == manifestPath) ++ besideManifest tree)
  | .absent => .directory (besideManifest tree)
  | .file => .file

/-! ## Reading the files of a directory -/

section lookup

variable {α β γ : Type} [BEq α] [LawfulBEq α]

theorem lookup_filter_key (p : α → Bool) (a : α) (entries : List (α × β)) :
    (entries.filter fun entry => p entry.1).lookup a =
      if p a then entries.lookup a else none := by
  induction entries with
  | nil => simp
  | cons entry entries ih =>
    obtain ⟨b, value⟩ := entry
    by_cases hkey : a = b
    · subst hkey
      cases hp : p a <;> simp [hp, ih]
    · have hkey' : (a == b) = false := beq_false_of_ne hkey
      cases hp : p b <;> simp [hp, ih, List.lookup_cons, hkey']

theorem lookup_map_key (f : α → β → γ) (a : α) (entries : List (α × β)) :
    (entries.map fun entry => (entry.1, f entry.1 entry.2)).lookup a =
      (entries.lookup a).map (f a) := by
  induction entries with
  | nil => rfl
  | cons entry entries ih =>
    obtain ⟨b, value⟩ := entry
    by_cases hkey : a = b
    · subst hkey
      simp
    · have hkey' : (a == b) = false := beq_false_of_ne hkey
      simp only [List.map_cons, List.lookup_cons, hkey', ih]

end lookup

section files

variable {name : ProjectName} {root path : Path} {files : Files} {tree : Tree}

theorem lookup_entries (files : Files) (path : Path) :
    (entries files).lookup path = (files.lookup path).map some :=
  lookup_map_key (fun _ text => some text) path files

theorem read_entries_append (files : Files) (tree : Tree) (path : Path) :
    read (entries files ++ tree) path = (files.lookup path).or (read tree path) := by
  unfold read
  rw [List.lookup_append, lookup_entries]
  cases files.lookup path <;> rfl

theorem read_entries (files : Files) (path : Path) :
    read (entries files) path = files.lookup path := by
  unfold read
  rw [lookup_entries]
  cases files.lookup path <;> rfl

theorem read_filter_key (p : Path → Bool) (tree : Tree) (path : Path) :
    read (tree.filter fun entry => p entry.1) path = if p path then read tree path else none := by
  unfold read
  rw [lookup_filter_key p]
  cases p path <;> rfl

theorem lookup_expand : (expand name root files).lookup path =
    if isBackup path then none
    else (files.lookup path).map fun text =>
      if hidden root path then text else generate name text := by
  unfold expand
  rw [lookup_map_key fun path text => if hidden root path then text else generate name text,
    lookup_filter_key fun path => !isBackup path]
  cases isBackup path <;> rfl

/-- A directory of the project is below a `.git` directory when the project is, or in itself. -/
theorem hidden_of_visible (hroot : ".git" ∉ root) : hidden root path = hidden [] path := by
  simp [hidden, hroot]

theorem lookup_expand_manifest (name : ProjectName) {profile : Profile} (hroot : ".git" ∉ root)
    (hfiles : files.lookup manifestPath = some (manifest profile.text placeholder)) :
    (expand name root files).lookup manifestPath =
      some (manifest profile.text name.recorded.characters) := by
  have hkept : isBackup manifestPath = false := by decide
  have hvisible : hidden root manifestPath = false :=
    (hidden_of_visible hroot).trans (by decide)
  rw [lookup_expand, hkept, hfiles, Option.map_some, hvisible, generate_manifest]
  rfl

end files

/-! ## The manifest of an upgraded project -/

section upgrading

theorem upgradeLine_cons {c : Char} {line : List Char}
    (h : ¬ profileText .minimal <+: c :: line) :
    upgradeLine (c :: line) = c :: upgradeLine line := by
  have hnone : rest (profileText .minimal) (c :: line) = none :=
    if_neg fun hstarts => h (List.isPrefixOf_iff_prefix.1 hstarts)
  rw [upgradeLine, hnone]

theorem upgradeLine_append {before : List Char} (h : ¬ BeginsIn (profileText .minimal) before)
    (line : List Char) : upgradeLine (before ++ line) = before ++ upgradeLine line := by
  induction before with
  | nil => rfl
  | cons c before ih =>
    have hc : ¬ profileText .minimal <+: c :: (before ++ line) := fun hstarts =>
      h (beginsIn_of_starts (List.suffix_refl _) (List.cons_ne_nil c before) hstarts)
    have hbefore : ¬ BeginsIn (profileText .minimal) before := fun hbegins =>
      h (beginsIn_of_suffix (List.suffix_cons c before) hbegins)
    rw [List.cons_append, upgradeLine_cons hc, ih hbefore]
    rfl

/-- What stands before the opening quote of the name. -/
def beforeName (profile : List Char) : List Char :=
  '\x7b' :: '"' :: profileKey ++ '"' :: ':' :: '"' :: profile ++ '"' :: ',' :: '"' :: nameKey ++
    ['"', ':']

/-- The manifest of the repository has the new profile already, whatever the name is. -/
theorem upgradeManifest_userService {name : List Char} (hquote : '"' ∉ name)
    (hnewline : '\n' ∉ name) :
    upgradeManifest (manifest Profile.userService.text name) =
      manifest Profile.userService.text name := by
  have hline : manifestLine Profile.userService.text name =
      beforeName Profile.userService.text ++ '"' :: (name ++ ['"', '\x7d']) := by
    simp [manifestLine, beforeName]
  have hopening : ¬ profileText .minimal <+: '"' :: (name ++ ['"', '\x7d']) := by
    rintro ⟨after, hafter⟩
    have hkey : profileKey ++ '"' :: (':' :: '"' :: (Profile.minimal.text ++ '"' :: after)) =
        name ++ '"' :: ['\x7d'] := by
      simpa [profileText] using hafter
    obtain ⟨_, hcolon⟩ := CppNumber.append_cons_inj (by decide) hquote hkey
    exact absurd (Option.some.inj (congrArg List.head? hcolon)) (by decide)
  have hends : upgradeLine ['"', '\x7d'] = ['"', '\x7d'] := by decide
  have hsame : upgradeLine (manifestLine Profile.userService.text name) =
      manifestLine Profile.userService.text name := by
    rw [hline, upgradeLine_append (by decide), upgradeLine_cons hopening,
      upgradeLine_append (not_beginsIn_of_not_mem hquote), hends]
  have hlines : (manifest Profile.userService.text name).splitOn '\n' =
      [manifestLine Profile.userService.text name, []] :=
    splitOn_line (newline_not_mem_manifestLine (by decide) hnewline)
  unfold upgradeManifest
  rw [hlines, List.map_cons, List.map_singleton, hsame]
  simp [upgradeLine, manifest, List.intercalate_cons_cons]

end upgrading

/-! ## One command -/

section commands

variable {checkout : Checkout} {root : Path} {name : ProjectName} {profile : Profile}
  {node : Node} {files : Files} {tree : Tree}

theorem ProjectName.of?_characters (name : ProjectName) :
    ProjectName.of? name.characters = some name :=
  dif_pos ⟨name.nonempty, name.admitted⟩

theorem quote_not_mem (name : ProjectName) : '"' ∉ name.characters :=
  not_mem_characters (by decide)

theorem newline_not_mem_characters (name : ProjectName) : '\n' ∉ name.characters :=
  not_mem_characters (by decide)

theorem read_manifest (profile : Profile) (name : ProjectName) :
    readKey profileKey (manifest profile.text name.characters) = profile.text ∧
      readKey nameKey (manifest profile.text name.characters) = name.characters :=
  readKey_manifest (by cases profile <;> decide)
    ⟨quote_not_mem name, newline_not_mem_characters name⟩

/-- Nothing is at a destination, or an empty directory. -/
def Node.Vacant (node : Node) : Prop := node = .absent ∨ node = .directory []

theorem Node.Vacant.read (h : node.Vacant) (path : Path) : node.read path = none := by
  rcases h with rfl | rfl <;> rfl

theorem initProject_of_vacant (root : Path) (name : ProjectName) (h : node.Vacant)
    {source : Source profile} (hsource : checkout.source profile = .ok source) :
    initProject checkout root name profile node =
      (0, .directory (entries (expand name root source.files ++ touched))) := by
  rcases h with rfl | rfl <;> simp only [initProject, hsource]

/-- The manifest of a project that `init` has just made. -/
theorem read_project_manifest (name : ProjectName) (hroot : ".git" ∉ root)
    (source : Source profile) :
    read (entries (expand name root source.files ++ touched)) manifestPath =
      some (manifest profile.text name.recorded.characters) := by
  rw [read_entries, List.lookup_append, lookup_expand_manifest name hroot source.manifest,
    Option.some_or]

/-- `init` fails and leaves what there is, but for an empty directory that it may have made, or
it fills a vacant destination. -/
theorem initProject_cases {status : ℕ} {after : Node}
    (h : initProject checkout root name profile node = (status, after)) :
    (status ≠ 0 ∧ (after = node ∨ node.Vacant ∧ after = .directory [])) ∨
      (status = 0 ∧ node.Vacant ∧ ∃ source : Source profile,
        after = .directory (entries (expand name root source.files ++ touched))) := by
  by_cases hvacant : node.Vacant
  · cases hsource : checkout.source profile with
    | ok source =>
      rw [initProject_of_vacant root name hvacant hsource, Prod.mk.injEq] at h
      exact Or.inr ⟨h.1.symm, hvacant, source, h.2.symm⟩
    | error failure =>
      have hfails : initProject checkout root name profile node =
          (failure.1, .directory []) := by
        rcases hvacant with rfl | rfl <;> simp only [initProject, hsource]
      rw [hfails, Prod.mk.injEq] at h
      exact Or.inl ⟨h.1 ▸ failure.2, Or.inr ⟨hvacant, h.2.symm⟩⟩
  · have hfails : initProject checkout root name profile node = (1, node) := by
      match node, hvacant with
      | .file, _ => rfl
      | .directory (_ :: _), _ => rfl
      | .directory [], hvacant => exact absurd (Or.inr rfl) hvacant
      | .absent, hvacant => exact absurd (Or.inl rfl) hvacant
    rw [hfails, Prod.mk.injEq] at h
    exact Or.inl ⟨h.1 ▸ Nat.one_ne_zero, Or.inl h.2.symm⟩

/-- A manifest that a command has written tells `enable` what to do. -/
theorem enableProject_of_manifest (checkout : Checkout)
    (h : read tree manifestPath = some (manifest profile.text name.characters)) :
    enableProject checkout (.directory tree) =
      if profile = .minimal then some (upgradeProject checkout name tree)
      else some (1, .directory tree) := by
  obtain ⟨hprofile, hname⟩ := read_manifest profile name
  have hsame : (profile.text = Profile.minimal.text ∧ name.characters ≠ []) ↔
      profile = .minimal := by
    cases profile with
    | minimal => exact ⟨fun _ => rfl, fun _ => ⟨rfl, name.nonempty⟩⟩
    | userService => exact ⟨fun h => absurd h.1 (by decide), fun h => by cases h⟩
  simp only [enableProject, h, hprofile, hname, ProjectName.of?_characters, Option.map_some,
    if_congr hsame rfl rfl]

/-! ## Copying -/

/-- A file of the repository that is in the projects. -/
def Copied (files : Files) (path : Path) : Prop :=
  path ∈ files.map Prod.fst ∧ isBackup path = false

instance (files : Files) (path : Path) : Decidable (Copied files path) :=
  inferInstanceAs (Decidable (_ ∧ _))

/-- There is room in a directory for the files of the repository and for the copy that `sed`
makes of the manifest. -/
structure Room (files : Files) (tree : Tree) : Prop where
  free : ∀ path ∈ files.map Prod.fst, isBackup path = false → blocked tree path = false
  backup : isFolder tree manifestBackup = false

instance (files : Files) (tree : Tree) : Decidable (Room files tree) :=
  decidable_of_iff ((∀ path ∈ files.map Prod.fst, isBackup path = false →
      blocked tree path = false) ∧ isFolder tree manifestBackup = false)
    ⟨fun h => ⟨h.1, h.2⟩, fun h => ⟨h.free, h.backup⟩⟩

theorem Copied.expand {path : Path} (h : Copied files path) :
    ((expand name root files).lookup path).isSome := by
  obtain ⟨file, hfile, hpath⟩ := List.mem_map.1 h.1
  have hfound : (files.lookup path).isSome :=
    List.lookup_isSome_iff.2 ⟨file, hfile, by rw [hpath]; exact BEq.rfl⟩
  rw [lookup_expand, h.2]
  simpa using hfound

theorem lookup_expand_of_not_copied {path : Path} (h : ¬ Copied files path) :
    (expand name root files).lookup path = none := by
  rw [lookup_expand]
  rcases Bool.eq_false_or_eq_true (isBackup path) with htrue | hfalse
  · rw [htrue, if_pos rfl]
  · have hmissing : files.lookup path = none := by
      refine List.lookup_eq_none_iff.2 fun file hfile => bne_iff_ne.2 fun hpath => h ⟨?_, hfalse⟩
      exact hpath ▸ List.mem_map_of_mem hfile
    rw [hfalse, hmissing]
    rfl

theorem copied_of_mem_expand {file : Path × List Char} (h : file ∈ expand name root files) :
    Copied files file.1 := by
  obtain ⟨old, hold, rfl⟩ := List.mem_map.1 h
  obtain ⟨hmem, hbackup⟩ := List.mem_filter.1 hold
  exact ⟨List.mem_map.2 ⟨old, hmem, rfl⟩, by simpa using hbackup⟩

theorem mem_expand_of_copied (name : ProjectName) (root : Path) {path : Path}
    (h : Copied files path) :
    ∃ file ∈ expand name root files, file.1 = path := by
  obtain ⟨file, hfile, rfl⟩ := List.mem_map.1 h.1
  exact ⟨_, List.mem_map_of_mem (List.mem_filter.2 ⟨hfile, by simpa using h.2⟩), rfl⟩

/-- `cp` succeeds when no file of the repository is blocked. -/
theorem copy_expand_eq_zero_iff :
    (copy (expand name root files) tree).1 = 0 ↔
      ∀ path ∈ files.map Prod.fst, isBackup path = false → blocked tree path = false := by
  have hstatus : (copy (expand name root files) tree).1 = 0 ↔
      ∀ file ∈ expand name root files, blocked tree file.1 = false := by
    unfold copy
    simp only [List.all_eq_true, Bool.not_eq_true']
    split_ifs with hall
    · exact iff_of_true rfl hall
    · exact iff_of_false id hall
  rw [hstatus]
  constructor
  · intro hall path hpath hbackup
    obtain ⟨file, hfile, rfl⟩ := mem_expand_of_copied name root ⟨hpath, hbackup⟩
    exact hall file hfile
  · intro hall file hfile
    obtain ⟨hpath, hbackup⟩ := copied_of_mem_expand hfile
    exact hall file.1 hpath hbackup

theorem read_copy (files : Files) (tree : Tree) (path : Path) :
    read (copy files tree).2 path =
      if blocked tree path then read tree path else (files.lookup path).or (read tree path) := by
  unfold copy
  rw [read_entries_append, lookup_filter_key fun path => !blocked tree path]
  cases blocked tree path <;> simp

/-- No file of the repository is in a folder with the name of that copy. -/
theorem isFolder_copy_backup (archive : Source .userService) (name : ProjectName) (root : Path)
    (tree : Tree) : isFolder (copy (expand name root archive.files) tree).2 manifestBackup =
      isFolder tree manifestBackup := by
  have hnone : isFolder (entries ((expand name root archive.files).filter
      fun file => !blocked tree file.1)) manifestBackup = false := by
    refine List.any_eq_false.2 fun entry hentry hfolder => ?_
    obtain ⟨file, hfile, rfl⟩ := List.mem_map.1 hentry
    obtain ⟨hpath, _⟩ := copied_of_mem_expand (List.mem_filter.1 hfile).1
    obtain ⟨source, hsource, hsame⟩ := List.mem_map.1 hpath
    simp only [Option.isNone_some, Bool.or_false, Bool.and_eq_true, bne_iff_ne,
      List.isPrefixOf_iff_prefix] at hfolder
    obtain ⟨⟨below, hbelow⟩, hne⟩ := hfolder
    have hin : ".drogon-starter.json.bak" ∈ source.1.dropLast := by
      rw [hsame, ← hbelow]
      cases below with
      | nil => exact absurd hbelow.symm hne
      | cons folder below => exact List.mem_cons_self
    exact absurd (archive.folders source hsource _ hin) (by decide)
  unfold isFolder at hnone ⊢
  unfold copy
  rw [List.any_append, hnone, Bool.false_or]

theorem read_rewriteManifest {rewritten : Tree} (h : rewriteManifest tree = (0, rewritten))
    (path : Path) : read rewritten path =
      if path = manifestBackup then none
      else (read tree path).map fun text =>
        if path = manifestPath then upgradeManifest text else text := by
  unfold rewriteManifest at h
  split_ifs at h with hfolder
  · cases (Prod.mk.inj h).1
  · obtain rfl := (Prod.mk.inj h).2
    rw [read_filter_key fun path => path != manifestBackup]
    unfold read
    rw [lookup_map_key fun path (text : Option (List Char)) =>
      if path = manifestPath then text.map upgradeManifest else text]
    by_cases hbackup : path = manifestBackup
    · simp [hbackup]
    · by_cases hown : path = manifestPath <;> cases tree.lookup path <;> simp [hbackup, hown]

/-- What `cp` leaves when it succeeds. -/
theorem read_copy_of_free (name : ProjectName) (root path : Path)
    (hfree : ∀ path ∈ files.map Prod.fst, isBackup path = false → blocked tree path = false) :
    read (copy (expand name root files) tree).2 path =
      ((expand name root files).lookup path).or (read tree path) := by
  rw [read_copy]
  split_ifs with hblocked
  · have hother : ¬ Copied files path := by
      rintro ⟨hpath, hbackup⟩
      rw [hfree path hpath hbackup] at hblocked
      cases hblocked
    rw [lookup_expand_of_not_copied hother, Option.none_or]
  · rfl

/-- The text of a file after an upgrade that succeeds. -/
def upgradedText (checkout : Checkout) (name : ProjectName) (files : Files) (tree : Tree)
    (path : Path) : Option (List Char) :=
  if path = manifestBackup then none
  else (((expand name checkout.temporary files).lookup path).or (read tree path)).map fun text =>
    if path = manifestPath then upgradeManifest text else text

theorem upgrade_of_room (checkout : Checkout) (name : ProjectName)
    {archive : Source .userService} (hroom : Room archive.files tree) :
    ∃ upgraded, upgrade checkout name archive.files tree = (0, upgraded) ∧
      ∀ path, read upgraded path = upgradedText checkout name archive.files tree path := by
  have hcopied : (copy (expand name checkout.temporary archive.files) tree).1 = 0 :=
    copy_expand_eq_zero_iff.2 hroom.free
  have hbackup := (isFolder_copy_backup archive name checkout.temporary tree).trans hroom.backup
  obtain ⟨upgraded, hrewritten⟩ : ∃ upgraded,
      rewriteManifest (copy (expand name checkout.temporary archive.files) tree).2 =
        (0, upgraded) := by
    rw [rewriteManifest, hbackup, if_neg Bool.false_ne_true]
    exact ⟨_, rfl⟩
  refine ⟨upgraded, (if_pos hcopied).trans hrewritten, fun path => ?_⟩
  rw [read_rewriteManifest hrewritten, read_copy_of_free name _ path hroom.free]
  rfl

/-- The upgraded project has the manifest of the new profile. -/
theorem upgradedText_manifest (checkout : Checkout) (name : ProjectName)
    (archive : Source .userService) (tree : Tree) :
    upgradedText checkout name archive.files tree manifestPath =
      some (manifest Profile.userService.text name.recorded.characters) := by
  have hother : manifestPath ≠ manifestBackup := by decide
  have hsame := upgradeManifest_userService (quote_not_mem name.recorded)
    (newline_not_mem_characters name.recorded)
  rw [upgradedText, if_neg hother,
    lookup_expand_manifest name checkout.temporary_visible archive.manifest, Option.some_or,
    Option.map_some, if_pos rfl, hsame]

/-- What an upgrade leaves of the manifest when there is no room for it: the old one, or the one
of the new profile. -/
theorem upgrade_of_not_room (checkout : Checkout) (name : ProjectName)
    {archive : Source .userService} (hroom : ¬ Room archive.files tree) :
    ∃ status left, status ≠ 0 ∧ upgrade checkout name archive.files tree = (status, left) ∧
      (read left manifestPath = read tree manifestPath ∨ read left manifestPath =
        some (manifest Profile.userService.text name.recorded.characters)) := by
  have hleft : read (copy (expand name checkout.temporary archive.files) tree).2 manifestPath =
        read tree manifestPath ∨
      read (copy (expand name checkout.temporary archive.files) tree).2 manifestPath =
        some (manifest Profile.userService.text name.recorded.characters) := by
    rw [read_copy, lookup_expand_manifest name checkout.temporary_visible archive.manifest]
    split_ifs
    · exact Or.inl rfl
    · exact Or.inr rfl
  unfold upgrade
  by_cases hcopied : (copy (expand name checkout.temporary archive.files) tree).1 = 0
  · have hfolder : isFolder tree manifestBackup = true := by
      by_contra hbackup
      exact hroom ⟨copy_expand_eq_zero_iff.1 hcopied, Bool.eq_false_of_not_eq_true hbackup⟩
    refine ⟨4, _, by decide, ?_, hleft⟩
    rw [if_pos hcopied, rewriteManifest, isFolder_copy_backup, hfolder, if_pos rfl]
  · exact ⟨_, _, hcopied, if_neg hcopied, hleft⟩

end commands

/-! ## Two ways to a project -/

section upgrades

variable {checkout later : Checkout} {root : Path} {name : ProjectName} {node : Node}
  {archive : Source .userService}

/-- What a copied file is in a project. -/
theorem read_initProject (root : Path) (name : ProjectName) (hvacant : node.Vacant)
    {profile : Profile} {source : Source profile} (hsource : checkout.source profile = .ok source)
    {path : Path} (hpath : Copied source.files path) :
    (initProject checkout root name profile node).2.read path =
      (expand name root source.files).lookup path := by
  rw [initProject_of_vacant root name hvacant hsource]
  change read (entries _) path = _
  rw [read_entries, List.lookup_append, Option.or_of_isSome hpath.expand]

theorem expand_of_visible (hroot : ".git" ∉ root) (files : Files) :
    expand name root files = expand name [] files := by
  simp only [expand, hidden_of_visible hroot]

theorem copied_manifest (archive : Source .userService) :
    Copied archive.files manifestPath := by
  refine ⟨?_, by decide⟩
  obtain ⟨file, hfile, hsame⟩ := List.lookup_isSome_iff.1
    (Option.isSome_of_eq_some archive.manifest)
  exact List.mem_map.2 ⟨file, hfile, (LawfulBEq.eq_of_beq hsame).symm⟩

/-- What `cp -R` brings is what is in a project that is generated at once. -/
theorem upgradedText_of_copied (hroot : ".git" ∉ root) (hvacant : node.Vacant)
    (harchive : later.archive = .ok archive) (tree : Tree) {path : Path}
    (hpath : Copied archive.files path) :
    upgradedText later name archive.files tree path =
      (initProject later root name .userService node).2.read path := by
  have hsource : later.source .userService = .ok archive := harchive
  have hdirect := read_initProject root name hvacant hsource hpath
  by_cases hown : path = manifestPath
  · subst hown
    rw [upgradedText_manifest, hdirect, lookup_expand_manifest name hroot archive.manifest]
  · have hbackup : path ≠ manifestBackup := by
      rintro rfl
      exact absurd hpath.2 (by decide)
    rw [upgradedText, if_neg hbackup, Option.or_of_isSome hpath.expand, hdirect,
      expand_of_visible later.temporary_visible, expand_of_visible hroot]
    simp only [if_neg hown, Option.map_id_fun', id_eq]

/-- What it does not bring stays. -/
theorem upgradedText_of_not_copied (archive : Source .userService) (tree : Tree) {path : Path}
    (hpath : ¬ Copied archive.files path) (hbackup : path ≠ manifestBackup) :
    upgradedText later name archive.files tree path = read tree path := by
  have hother : path ≠ manifestPath := fun hown => hpath (hown ▸ copied_manifest archive)
  rw [upgradedText, if_neg hbackup, lookup_expand_of_not_copied hpath, Option.none_or]
  simp only [if_neg hother, Option.map_id_fun', id_eq]

theorem read_besideManifest (tree : Tree) : read (besideManifest tree) manifestPath = none := by
  unfold besideManifest
  rw [read_filter_key fun path => path != [] && !manifestPath.isPrefixOf path]
  rfl

/-- An edit leaves the manifest. -/
theorem read_edit (tree : Tree) (node : Node) :
    (node.edit tree).read manifestPath = node.read manifestPath := by
  cases node with
  | absent => exact read_besideManifest tree
  | file => rfl
  | directory old =>
    have hothers := read_besideManifest tree
    change read (_ ++ _) manifestPath = read old manifestPath
    unfold read at hothers ⊢
    rw [List.lookup_append, lookup_filter_key fun path => path == manifestPath]
    cases hold : old.lookup manifestPath with
    | none => simpa using hothers
    | some text => simp

theorem upgradeProject_of_archive (harchive : later.archive = .ok archive) (name : ProjectName)
    (tree : Tree) : upgradeProject later name tree =
      (upgrade later name archive.files tree).map id .directory := by
  rw [upgradeProject, harchive]

/-- `enable` tries to upgrade a project that `init` has made and that its owner has edited. -/
theorem enableProject_edit (checkout : Checkout) (name : ProjectName) (hvacant : node.Vacant)
    (harchive : later.archive = .ok archive) (hroot : ".git" ∉ root) (edits : Tree) :
    ∃ project edited, initProject checkout root name .minimal node = (0, project) ∧
      project.edit edits = .directory edited ∧
      enableProject later (.directory edited) =
        some ((upgrade later name.recorded archive.files edited).map id .directory) := by
  have hproject := initProject_of_vacant root name hvacant
    (rfl : checkout.source .minimal = .ok checkout.template)
  refine ⟨_, _, hproject, rfl, ?_⟩
  have hmanifest := read_project_manifest name hroot checkout.template
  have henabled := enableProject_of_manifest later
    ((read_edit edits (.directory _)).trans hmanifest)
  rw [if_pos rfl, upgradeProject_of_archive harchive] at henabled
  exact henabled

/-- A name and the one that its manifest has make the same project only when they are the same:
the manifest tells them apart. -/
theorem same_project_iff (hroot : ".git" ∉ root) (hvacant : node.Vacant)
    (harchive : later.archive = .ok archive) {name : ProjectName} :
    (∀ path, Copied archive.files path →
      (initProject later root name.recorded .userService node).2.read path =
        (initProject later root name .userService node).2.read path) ↔ name.recorded = name := by
  have hmanifest : ∀ other : ProjectName,
      (initProject later root other .userService node).2.read manifestPath =
        some (manifest Profile.userService.text other.recorded.characters) := by
    intro other
    have hsource : later.source .userService = .ok archive := harchive
    rw [initProject_of_vacant root other hvacant hsource]
    exact read_project_manifest other hroot archive
  constructor
  · intro hall
    have hsame := hall manifestPath (copied_manifest archive)
    rw [hmanifest, hmanifest] at hsame
    have hnames := congrArg (readKey nameKey) (Option.some.inj hsame)
    rw [(read_manifest _ _).2, (read_manifest _ _).2] at hnames
    exact name.recorded_recorded_eq_iff.1 (ProjectName.ext hnames)
  · intro hsame path _
    rw [hsame]

end upgrades

/-! ## A small repository -/

def smallTemplate : Source .minimal where
  files := [(["src", "main.cc"], "namespace drogon_user_service".toList),
    (manifestPath, manifest Profile.minimal.text placeholder)]
  manifest := rfl
  proper := by decide
  room := by decide
  folders := by decide

def smallArchive : Source .userService where
  files := [(["README.md"], placeholder), (["src", "main.cc"], serviceName),
    (["templates", "minimal"] ++ manifestPath, manifest Profile.minimal.text placeholder),
    (manifestPath, manifest Profile.userService.text placeholder)]
  manifest := rfl
  proper := by decide
  room := by decide
  folders := by decide

def smallCheckout : Checkout where
  template := smallTemplate
  archive := .ok smallArchive
  temporary := ["tmp", "tmp.kv8Qe1"]
  temporary_visible := by decide

/-- A file of the owner where the repository has a folder is in the way. -/
example : (copy smallArchive.files [(["src"], some [])]).1 = 1 := by decide +kernel

def paymentsApi : ProjectName := ⟨"payments-api".toList, by decide, by decide⟩

/-- A minimal project in which the owner has put one file. -/
def editedProject : Tree :=
  (entries (expand paymentsApi ["work", "payments"] smallTemplate.files ++ touched)).filter
      (fun entry => entry.1 == manifestPath) ++
    besideManifest [(["notes", "todo.txt"], some "todo".toList)]

end DrogonStarter.Generator
