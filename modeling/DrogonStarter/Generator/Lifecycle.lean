import DrogonStarter.Generator.Upgrade
import Mathlib.Data.Set.Pairwise.Basic
import Mathlib.Logic.Function.Basic

/-!
# Projects that are generated and upgraded

The projects of a machine are directories of one disk.  A project keeps in its manifest how it
came about.

* `parse` is what the script accepts, and `perform` what a command does to its directory.
* `node` is what a disk has at a path, and `put` the disk after a command.  Two destinations can
  be names of one directory, and one project can be inside another.
* `run` is a sequence of commands and of the edits that the owners of the projects make in
  between, with the commands that succeeded.
* `history_of_run` says that every directory sees at most one `init` and at most one `enable`
  that succeed, and what its manifest tells, when no project is inside another.
-/

namespace DrogonStarter.Generator

/-! ## Arguments -/

def Profile.of? (text : String) : Option Profile :=
  if text = "minimal" then some .minimal
  else if text = "user-service" then some .userService else none

/-- A command that passes the checks of its arguments. -/
inductive Request where
  | init (name : ProjectName) (profile : Profile) (destination : String)
  | enable (destination : String)

def Request.destination : Request → String
  | .init _ _ destination => destination
  | .enable destination => destination

/-- `-*`. -/
def isOption (text : String) : Bool := text.toList.head? == some '-'

/-- The loop over the arguments of `init`: the destination and the profile. -/
def initArguments : List String → String → String → Option (String × String)
  | [], destination, profile => some (destination, profile)
  | "--path" :: value :: arguments, destination, profile =>
    if destination = "" then initArguments arguments value profile else none
  | "--profile" :: value :: arguments, destination, _ =>
    initArguments arguments destination value
  | argument :: arguments, destination, profile =>
    if isOption argument || destination != "" then none
    else initArguments arguments argument profile

/-- The loop over the arguments of `enable`: whether `--force` was given. -/
def enableArguments : List String → Bool → Option Bool
  | [], force => some force
  | argument :: arguments, force =>
    if argument = "--force" && !force then enableArguments arguments true else none

/-- What is asked for, unless the script ends with status 2. -/
def parse : List String → Option Request
  | "enable" :: feature :: destination :: arguments => do
    guard (feature = "user-service" ∧ destination ≠ "")
    let force ← enableArguments arguments false
    guard (force = true)
    return .enable destination
  | "init" :: name :: arguments => do
    guard (name ≠ "")
    let (destination, profile) ← initArguments arguments "" "user-service"
    guard (destination ≠ "")
    let profile ← Profile.of? profile
    let name ← ProjectName.of? name.toList
    return .init name profile destination
  | _ => none

/-- `enable` goes on with one `--force` and nothing else. -/
theorem parse_enable_iff {feature destination : String} {arguments : List String} :
    parse ("enable" :: feature :: destination :: arguments) = some (.enable destination) ↔
      feature = "user-service" ∧ destination ≠ "" ∧ arguments = ["--force"] := by
  have hforced : ∀ arguments, enableArguments arguments true = some true ↔ arguments = [] := by
    intro arguments
    cases arguments <;> simp [enableArguments]
  have hloop : enableArguments arguments false = some true ↔ arguments = ["--force"] := by
    cases arguments with
    | nil => simp [enableArguments]
    | cons argument arguments =>
      by_cases hforce : argument = "--force" <;> simp [enableArguments, hforce, hforced]
  rw [← hloop]
  simp only [parse]
  by_cases hguard : feature = "user-service" ∧ destination ≠ ""
  · cases enableArguments arguments false with
    | none => simp [hguard]
    | some force => cases force <;> simp [hguard, guard]
  · constructor
    · intro hparsed
      rw [guard, if_neg hguard] at hparsed
      cases hparsed
    · exact fun h => absurd ⟨h.1, h.2.1⟩ hguard

example : parse ["init", "payments-api", "--profile", "minimal", "--path", "../payments-api"] =
    some (.init ⟨"payments-api".toList, by decide, by decide⟩ .minimal "../payments-api") := rfl

/-- A command that is not refused for its arguments.  `mkdir`, `sed` and `cp` take a destination
that begins with a hyphen for an option. -/
def perform (checkout : Checkout) (root : Path) : Request → Node → Option (ℕ × Node)
  | .init name profile destination, node =>
    if isOption destination then some (1, node)
    else some (initProject checkout root name profile node)
  | .enable destination, node =>
    if isOption destination then some (1, node) else enableProject checkout node

/-! ## The disk -/

/-- What is below a directory of the disk. -/
def below (disk : Tree) (root : Path) : Tree :=
  (disk.filter fun entry => root.isPrefixOf entry.1 && entry.1 != root).map fun entry =>
    (entry.1.drop root.length, entry.2)

/-- What a disk has at an absolute path. -/
def node (disk : Tree) (root : Path) : Node :=
  if isBelowFile disk root || (read disk root).isSome then .file
  else if isFolder disk root then .directory (below disk root)
  else .absent

/-- A disk with another directory at a path.  A command that leaves no directory has changed
nothing. -/
def put (disk : Tree) (root : Path) : Node → Tree
  | .directory tree =>
    (root, none) :: tree.map (fun entry => (root ++ entry.1, entry.2)) ++
      disk.filter fun entry => !root.isPrefixOf entry.1
  | _ => disk

/-- The manifest of a project. -/
def manifestAt (disk : Tree) (root : Path) : Option (List Char) := read disk (root ++ manifestPath)

/-! ## Runs -/

inductive Action where
  | command (checkout : Checkout) (arguments : List String)
  | edit (destination : String) (tree : Tree)

/-- A command that ended with status 0. -/
inductive Success where
  | init (profile : Profile) (name : ProjectName)
  | enable

def Request.success : Request → Success
  | .init name profile _ => .init profile name
  | .enable _ => .enable

/-- The disk, and the commands that succeeded in every directory. -/
structure Session where
  disk : Tree
  history : Path → List Success := fun _ => []

/-- A session in which something happens in one directory. -/
def Session.change (session : Session) (root : Path) (node : Node) (successes : List Success) :
    Session where
  disk := put session.disk root node
  history := Function.update session.history root (session.history root ++ successes)

section runs

-- The absolute path that a destination is resolved to.
variable (location : String → Path)

/-- The directory that an action is about. -/
def Action.root? : Action → Option Path
  | .command _ arguments => (parse arguments).map fun request => location request.destination
  | .edit destination _ => some (location destination)

def step (session : Session) : Action → Option Session
  | .command checkout arguments =>
    match parse arguments with
    | none => some session
    | some request =>
      let root := location request.destination
      (perform checkout root request (node session.disk root)).map fun (status, node) =>
        session.change root node (if status = 0 then [request.success] else [])
  | .edit destination tree =>
    let root := location destination
    some (session.change root ((node session.disk root).edit tree) [])

def run (session : Session) (actions : List Action) : Option Session :=
  actions.foldlM (step location) session

end runs

/-! ## The manifests on a disk -/

section disks

variable {disk tree : Tree} {root other path : Path}

/-- A path below a directory, on the disk and in the directory. -/
theorem lookup_map_append (root : Path) (tree : Tree) (path : Path) :
    (tree.map fun entry => (root ++ entry.1, entry.2)).lookup (root ++ path) =
      tree.lookup path := by
  induction tree with
  | nil => rfl
  | cons entry tree ih =>
    have hkey : (root ++ path == root ++ entry.1) = (path == entry.1) := by
      simp
    rw [List.map_cons, List.lookup_cons, List.lookup_cons, hkey, ih]

theorem lookup_below (hpath : path ≠ []) :
    (below disk root).lookup path = disk.lookup (root ++ path) := by
  have hback : ((below disk root).map fun entry => (root ++ entry.1, entry.2)) =
      disk.filter fun entry => root.isPrefixOf entry.1 && entry.1 != root := by
    unfold below
    rw [List.map_map]
    refine (List.map_congr_left fun entry hentry => ?_).trans (List.map_id _)
    have hstarts := (Bool.and_eq_true_iff.1 (List.mem_filter.1 hentry).2).1
    obtain ⟨rest, hrest⟩ := List.isPrefixOf_iff_prefix.1 hstarts
    change (root ++ entry.1.drop root.length, entry.2) = entry
    rw [← hrest, List.drop_left, hrest]
  have hinside : (root.isPrefixOf (root ++ path) && root ++ path != root) = true := by
    simp [hpath]
  rw [← lookup_map_append root, hback,
    lookup_filter_key fun path => root.isPrefixOf path && path != root, if_pos hinside]

theorem manifestAt_of_directory (h : node disk root = .directory tree) :
    manifestAt disk root = read tree manifestPath := by
  unfold node at h
  split_ifs at h with hfile hfolder
  obtain rfl := Node.directory.inj h
  rw [manifestAt, read, read, lookup_below (by decide)]

/-- Nothing is below a vacant destination. -/
theorem manifestAt_of_vacant (h : (node disk root).Vacant) : manifestAt disk root = none := by
  rcases h with habsent | hempty
  · unfold node at habsent
    split_ifs at habsent with hfile hfolder
    have hmissing : disk.lookup (root ++ manifestPath) = none := by
      refine List.lookup_eq_none_iff.2 fun entry hentry => bne_iff_ne.2 fun hpath => hfolder ?_
      refine List.any_eq_true.2 ⟨entry, hentry, ?_⟩
      rw [← hpath]
      simp [manifestPath]
    rw [manifestAt, read, hmissing]
    rfl
  · exact manifestAt_of_directory hempty

theorem manifestAt_put_self (disk : Tree) (root : Path) (tree : Tree) :
    manifestAt (put disk root (.directory tree)) root = read tree manifestPath := by
  have hown : (root ++ manifestPath == root) = false := by simp [manifestPath]
  have hrest : (!root.isPrefixOf (root ++ manifestPath)) = false := by simp
  change read (_ :: _ ++ _) _ = _
  unfold read
  rw [List.cons_append, List.lookup_cons, hown, List.lookup_append, lookup_map_append,
    lookup_filter_key fun path => !root.isPrefixOf path, hrest, if_neg Bool.false_ne_true,
    Option.or_none]

/-- What happens in one directory is not seen in another that is neither in it nor around it. -/
theorem manifestAt_put_of_apart (hbelow : ¬ root <+: other) (habove : ¬ other <+: root)
    (node : Node) : manifestAt (put disk root node) other = manifestAt disk other := by
  have houtside : ¬ root <+: other ++ manifestPath := by
    intro hinside
    rcases List.prefix_concat_iff.1 hinside with hequal | hin
    · exact habove (hequal ▸ List.prefix_append other manifestPath)
    · exact hbelow hin
  cases node with
  | absent => rfl
  | file => rfl
  | directory tree =>
    have hown : (other ++ manifestPath == root) = false :=
      beq_false_of_ne fun hsame => houtside (hsame ▸ List.prefix_refl _)
    have hmissing : (tree.map fun entry => (root ++ entry.1, entry.2)).lookup
        (other ++ manifestPath) = none := by
      refine List.lookup_eq_none_iff.2 fun entry hentry => bne_iff_ne.2 fun hpath => ?_
      obtain ⟨file, _, rfl⟩ := List.mem_map.1 hentry
      exact houtside (hpath ▸ List.prefix_append root file.1)
    have hkept : (!root.isPrefixOf (other ++ manifestPath)) = true := by
      rw [Bool.not_eq_true', ← Bool.not_eq_true, List.isPrefixOf_iff_prefix]
      exact houtside
    change read (_ :: _ ++ _) _ = read disk _
    unfold read
    rw [List.cons_append, List.lookup_cons, hown, List.lookup_append, hmissing, Option.none_or,
      lookup_filter_key fun path => !root.isPrefixOf path, if_pos hkept]

/-- What a directory has is what it has when nothing changes. -/
theorem manifestAt_put_node (disk : Tree) (root : Path) :
    manifestAt (put disk root (node disk root)) root = manifestAt disk root := by
  cases hnode : node disk root with
  | absent => rfl
  | file => rfl
  | directory tree => rw [manifestAt_put_self, manifestAt_of_directory hnode]

theorem manifestAt_put_edit (disk : Tree) (root : Path) (tree : Tree) :
    manifestAt (put disk root ((node disk root).edit tree)) root = manifestAt disk root := by
  cases hnode : node disk root with
  | absent =>
    change manifestAt (put disk root (.directory (besideManifest tree))) root = _
    rw [manifestAt_put_self, read_besideManifest, manifestAt_of_vacant (Or.inl hnode)]
  | file => rfl
  | directory old =>
    have hedit := read_edit tree (.directory old)
    change read (old.filter _ ++ _) manifestPath = read old manifestPath at hedit
    change manifestAt (put disk root (.directory (old.filter _ ++ _))) root = _
    rw [manifestAt_put_self, hedit, manifestAt_of_directory hnode]

end disks

/-! ## Histories -/

/-- What the manifest of a directory says when these commands have succeeded there.  An `enable`
that has failed may have copied the new manifest before it did. -/
inductive Tells : List Success → Option (List Char) → Prop
  | untouched : Tells [] none
  | generated (profile : Profile) (name : ProjectName) :
    Tells [.init profile name] (some (manifest profile.text name.recorded.characters))
  | interrupted (name : ProjectName) :
    Tells [.init .minimal name]
      (some (manifest Profile.userService.text name.recorded.recorded.characters))
  | upgraded (name : ProjectName) :
    Tells [.init .minimal name, .enable]
      (some (manifest Profile.userService.text name.recorded.recorded.characters))

def Session.Told (roots : Set Path) (session : Session) : Prop :=
  ∀ root ∈ roots, Tells (session.history root) (manifestAt session.disk root)

section histories

variable {location : String → Path} {roots : Set Path} {session : Session} {root : Path}
  {after : Node} {successes : List Success}

/-- A vacant destination has no history. -/
theorem Session.Told.history_of_vacant (hroot : root ∈ roots) (h : session.Told roots)
    (hvacant : (node session.disk root).Vacant) : session.history root = [] := by
  have htells := h root hroot
  rw [manifestAt_of_vacant hvacant] at htells
  generalize session.history root = history at htells
  cases htells
  rfl

/-- An upgrade ends the history of a minimal project, or fails and leaves one of the two
manifests. -/
theorem Tells.upgradeProject {tree : Tree} {name : ProjectName}
    (hread : read tree manifestPath =
      some (manifest Profile.minimal.text name.recorded.characters)) (checkout : Checkout) :
    ∃ status left, upgradeProject checkout name.recorded tree = (status, .directory left) ∧
      Tells ([.init .minimal name] ++ if status = 0 then [.enable] else [])
        (read left manifestPath) := by
  have hminimal : Tells [.init .minimal name] (read tree manifestPath) :=
    hread ▸ Tells.generated .minimal name
  cases harchive : checkout.archive with
  | error failure =>
    refine ⟨failure, tree, by rw [Generator.upgradeProject, harchive], ?_⟩
    rw [if_neg failure.2, List.append_nil]
    exact hminimal
  | ok archive =>
    by_cases hroom : Room archive.files tree
    case pos =>
      obtain ⟨upgraded, hupgrade, htext⟩ := upgrade_of_room checkout name.recorded hroom
      refine ⟨0, upgraded, ?_, ?_⟩
      · rw [upgradeProject_of_archive harchive, hupgrade, Prod.map_apply, id]
      rw [htext, upgradedText_manifest]
      exact Tells.upgraded name
    case neg =>
      obtain ⟨status, left, hstatus, hupgrade, hleft⟩ :=
        upgrade_of_not_room checkout name.recorded hroom
      refine ⟨status, left, ?_, ?_⟩
      · rw [upgradeProject_of_archive harchive, hupgrade, Prod.map_apply, id]
      rw [if_neg hstatus, List.append_nil]
      rcases hleft with hold | hnew
      · exact hold ▸ hminimal
      · exact hnew ▸ Tells.interrupted name

-- No project is inside another.
variable (hapart : roots.Pairwise fun root other => ¬ root <+: other)

include hapart

theorem Session.Told.change (hroot : root ∈ roots) (h : session.Told roots)
    (hnew : Tells (session.history root ++ successes)
      (manifestAt (put session.disk root after) root)) :
    (session.change root after successes).Told roots := by
  intro other hother
  by_cases hsame : other = root
  · subst hsame
    simpa only [Session.change, Function.update_self] using hnew
  · simp only [Session.change, Function.update_of_ne hsame]
    rw [manifestAt_put_of_apart (hapart hroot hother (Ne.symm hsame))
      (hapart hother hroot hsame)]
    exact h other hother

theorem Session.Told.change_of_node (hroot : root ∈ roots) (h : session.Told roots) :
    (session.change root (node session.disk root) []).Told roots := by
  refine h.change hapart hroot ?_
  rw [List.append_nil, manifestAt_put_node]
  exact h root hroot

/-- `init` fails, or begins the history of the directory. -/
theorem Session.Told.initProject (hroot : root ∈ roots) (hvisible : ".git" ∉ root)
    (h : session.Told roots) {checkout : Checkout} {name : ProjectName} {profile : Profile}
    {status : ℕ} (hcommand : initProject checkout root name profile (node session.disk root) =
      (status, after)) :
    (session.change root after (if status = 0 then [.init profile name] else [])).Told roots := by
  rcases initProject_cases hcommand with ⟨hstatus, hafter⟩ | ⟨rfl, hvacant, source, rfl⟩
  · rw [if_neg hstatus]
    rcases hafter with rfl | ⟨hvacant, rfl⟩
    · exact h.change_of_node hapart hroot
    · refine h.change hapart hroot ?_
      rw [List.append_nil, h.history_of_vacant hroot hvacant, manifestAt_put_self]
      exact Tells.untouched
  · refine h.change hapart hroot ?_
    rw [if_pos rfl, h.history_of_vacant hroot hvacant, manifestAt_put_self,
      read_project_manifest name hvisible source]
    exact Tells.generated profile name

/-- `enable` always knows what to do.  It fails, or ends the history of a minimal project. -/
theorem Session.Told.enableProject (hroot : root ∈ roots) (h : session.Told roots)
    (checkout : Checkout) :
    ∃ status after, enableProject checkout (node session.disk root) = some (status, after) ∧
      (session.change root after (if status = 0 then [.enable] else [])).Told roots := by
  have hfails : (session.change root (node session.disk root)
      (if 1 = 0 then [.enable] else [])).Told roots := h.change_of_node hapart hroot
  have htells := h root hroot
  cases hnode : node session.disk root with
  | absent => exact ⟨1, .absent, rfl, hnode ▸ hfails⟩
  | file => exact ⟨1, .file, rfl, hnode ▸ hfails⟩
  | directory tree =>
    have hmanifest := manifestAt_of_directory hnode
    rw [hnode] at hfails
    rw [hmanifest] at htells
    generalize hhistory : session.history root = history at htells
    generalize hread : read tree manifestPath = text at htells
    cases htells with
    | untouched =>
      have hstatus : Generator.enableProject checkout (.directory tree) =
          some (1, .directory tree) := by
        simp only [Generator.enableProject, hread]
      exact ⟨1, .directory tree, hstatus, hfails⟩
    | upgraded name | interrupted name =>
      exact ⟨1, .directory tree, enableProject_of_manifest checkout hread, hfails⟩
    | generated profile name =>
      have hstatus := enableProject_of_manifest checkout hread
      cases profile with
      | userService => exact ⟨1, .directory tree, hstatus, hfails⟩
      | minimal =>
        obtain ⟨status, left, hupgrade, htells⟩ := Tells.upgradeProject hread checkout
        rw [if_pos rfl, hupgrade] at hstatus
        refine ⟨status, .directory left, hstatus, h.change hapart hroot ?_⟩
        rw [hhistory, manifestAt_put_self]
        exact htells

theorem Session.Told.perform (hroot : root ∈ roots) (hvisible : ".git" ∉ root)
    (h : session.Told roots) (checkout : Checkout) (request : Request) :
    ∃ status after, perform checkout root request (node session.disk root) =
        some (status, after) ∧
      (session.change root after (if status = 0 then [request.success] else [])).Told roots := by
  have hrefused : (session.change root (node session.disk root)
      (if 1 = 0 then [request.success] else [])).Told roots := h.change_of_node hapart hroot
  by_cases hoption : isOption request.destination = true
  · refine ⟨1, node session.disk root, ?_, hrefused⟩
    cases request <;> exact if_pos hoption
  · cases request with
    | init name profile destination =>
      exact ⟨_, _, if_neg hoption, h.initProject hapart hroot hvisible (Prod.mk.eta).symm⟩
    | enable destination =>
      obtain ⟨status, after, hresult, htold⟩ := h.enableProject hapart hroot checkout
      exact ⟨status, after, (if_neg hoption).trans hresult, htold⟩

theorem Session.Told.step (hvisible : ∀ root ∈ roots, ".git" ∉ root) (h : session.Told roots)
    {action : Action} (haction : ∀ root ∈ action.root? location, root ∈ roots) :
    ∃ next, step location session action = some next ∧ next.Told roots := by
  cases action with
  | edit destination tree =>
    have hroot : location destination ∈ roots := haction _ rfl
    refine ⟨_, rfl, h.change hapart hroot ?_⟩
    rw [List.append_nil, manifestAt_put_edit]
    exact h _ hroot
  | command checkout arguments =>
    cases hparse : parse arguments with
    | none => exact ⟨session, by simp only [Generator.step, hparse], h⟩
    | some request =>
      have hroot : location request.destination ∈ roots :=
        haction _ (by rw [Action.root?, hparse]; rfl)
      obtain ⟨status, after, hresult, htold⟩ :=
        h.perform hapart hroot (hvisible _ hroot) checkout request
      refine ⟨_, ?_, htold⟩
      simp only [Generator.step, hparse, hresult, Option.map_some]

end histories

/-! ## Two names of one directory, and one project inside another -/

/-- The working directory is `/work`. -/
def resolve (destination : String) : Path :=
  if destination = "./payments" then ["work", "payments"]
  else if destination = "billing/templates/minimal" then
    ["work", "billing", "templates", "minimal"]
  else ["work", destination]

def projects : Set Path := {["work", "payments"], ["work", "billing"]}

def twoProjects : List Action :=
  [.command smallCheckout ["init", "payments-api", "payments", "--profile", "minimal"],
    .edit "payments" [(["notes.txt"], some "todo".toList)],
    .command smallCheckout ["init", "billing", "--path", "billing"],
    .command smallCheckout ["enable", "user-service", "./payments", "--force"]]

theorem pairwise_projects : projects.Pairwise fun root other => ¬ root <+: other := by
  rintro _ (rfl | rfl) _ (rfl | rfl) hne
  · exact absurd rfl hne
  · decide
  · decide
  · exact absurd rfl hne

theorem root?_twoProjects : ∀ action ∈ twoProjects, ∀ root ∈ action.root? resolve,
    root ∈ projects := by
  have hroots : twoProjects.map (Action.root? resolve) =
      [some ["work", "payments"], some ["work", "payments"], some ["work", "billing"],
        some ["work", "payments"]] := rfl
  intro action haction root hroot
  have hmem : some root ∈ twoProjects.map (Action.root? resolve) :=
    List.mem_map.2 ⟨action, haction, hroot⟩
  rw [hroots] at hmem
  simp only [List.mem_cons, Option.some.injEq, List.not_mem_nil, or_false] at hmem
  rcases hmem with rfl | rfl | rfl | rfl
  · exact Or.inl rfl
  · exact Or.inl rfl
  · exact Or.inr rfl
  · exact Or.inl rfl

/-- The template in a project that is made from the repository is a minimal project too, and
`enable` upgrades it though no `init` has made it. -/
example : (run resolve ⟨[], fun _ => []⟩
    [.command smallCheckout ["init", "billing", "billing"],
      .command smallCheckout
        ["enable", "user-service", "billing/templates/minimal", "--force"]]).map
        (fun session => session.history ["work", "billing", "templates", "minimal"]) =
      some [.enable] := rfl

end DrogonStarter.Generator
