import ClassAtlas.Proofs.Files.Paths

/-!
# Following paths down a tree

In a file system that is a tree, a path below a directory leads to the place with the steps of
the path as its names. What is read there, and what is listed, is what the tree has there.
-/

namespace ClassAtlas

namespace FileSystem

variable {files : FileSystem} {here location : Location}

/-!
# Trees
-/

/-- What is there has a name, in a directory that is there too. -/
structure IsTree (files : FileSystem) : Prop where
  named : ∀ {name : String} {outer : Location}, files.node? (name :: outer) ≠ none →
    Path.IsPlain name ∧ '/' ∉ name.toList ∧ '\x00' ∉ name.toList ∧
      Path.isStepTooLong name.toList = false
  nested : ∀ {name : String} {outer : Location}, files.node? (name :: outer) ≠ none →
    files.node? outer = some .directory

namespace IsTree

theorem present_of_append (tree : files.IsTree) {inner outer : Location}
    (present : files.node? (inner ++ outer) ≠ none) : files.node? outer ≠ none := by
  induction inner with
  | nil => exact present
  | cons name rest ih =>
      have directory : files.node? (rest ++ outer) = some .directory := tree.nested present
      exact ih (by simp [directory])

theorem not_nul_of_append (tree : files.IsTree) {inner outer : Location}
    (present : files.node? (inner ++ outer) ≠ none) :
    ∀ name ∈ inner, '\x00' ∉ name.toList := by
  induction inner with
  | nil => exact List.forall_mem_nil _
  | cons name rest ih =>
      refine List.forall_mem_cons.mpr ⟨(tree.named present).right.right.left, ih ?_⟩
      have directory : files.node? (rest ++ outer) = some .directory := tree.nested present
      simp [directory]

end IsTree

/-!
# Following steps
-/

theorem follow_eq_ok_iff {step : List Char} (plain : step ≠ [] ∧ step ≠ ['.'] ∧ step ≠ ['.', '.']) :
    files.follow here step = .ok location ↔ files.node? here = some .directory ∧
      Path.isStepTooLong step = false ∧ location = String.ofList step :: here := by
  have busy : Path.isIdle step = false := by simp [Path.isIdle, plain.left, plain.right.left]
  unfold follow
  cases files.node? here with
  | none => simp
  | some node =>
      cases node with
      | file content => simp
      | directory =>
          simp only [busy, Bool.false_eq_true, if_false, if_neg plain.right.right, true_and]
          split
          · next long => simp [long]
          · next short => simp [short, eq_comm]

/-- Steps that lead further down can only lead to the place with their names. -/
theorem eq_of_foldlM_follow {steps : List (List Char)}
    (plain : ∀ step ∈ steps, step ≠ [] ∧ step ≠ ['.'] ∧ step ≠ ['.', '.'])
    (followed : steps.foldlM files.follow here = .ok location) :
    location = (steps.map String.ofList).reverse ++ here := by
  induction steps generalizing here with
  | nil => exact (Except.ok.inj followed).symm
  | cons step rest ih =>
      rw [List.foldlM_cons] at followed
      cases first : files.follow here step with
      | error error =>
          rw [first] at followed
          cases followed
      | ok next =>
          rw [first] at followed
          rcases (follow_eq_ok_iff (plain step List.mem_cons_self)).mp first with ⟨_, _, rfl⟩
          rw [ih (fun later mem => plain later (List.mem_cons_of_mem _ mem)) followed]
          simp

theorem IsTree.foldlM_follow (tree : files.IsTree) {steps : List (List Char)}
    (plain : ∀ step ∈ steps, step ≠ [] ∧ step ≠ ['.'] ∧ step ≠ ['.', '.'])
    (present : files.node? ((steps.map String.ofList).reverse ++ here) ≠ none) :
    steps.foldlM files.follow here = .ok ((steps.map String.ofList).reverse ++ here) := by
  induction steps generalizing here with
  | nil => rfl
  | cons step rest ih =>
      have shape : ((step :: rest).map String.ofList).reverse ++ here =
          (rest.map String.ofList).reverse ++ String.ofList step :: here := by simp
      rw [shape] at present ⊢
      have child := tree.present_of_append present
      have short := (tree.named child).right.right.right
      rw [String.toList_ofList] at short
      rw [List.foldlM_cons, (follow_eq_ok_iff (plain step List.mem_cons_self)).mpr
        ⟨tree.nested child, short, rfl⟩]
      exact ih (fun later mem => plain later (List.mem_cons_of_mem _ mem)) present

/-!
# Paths below a directory
-/

variable {root resource : String}

theorem eq_of_follow_nil (followed : files.follow here [] = .ok location) : location = here := by
  unfold follow at followed
  split at followed
  · cases followed
  · cases followed
  · exact (Except.ok.inj followed).symm

/-- The steps of a joined path are those of the directory, and then those of the path. -/
theorem foldlM_follow_join {start : Location} (filled : root ≠ "")
    (followed : (root.toList.splitOn '/').foldlM files.follow start = .ok here) :
    ((root ++ Path.joint root ++ resource).toList.splitOn '/').foldlM files.follow start =
      (resource.toList.splitOn '/').foldlM files.follow here := by
  rcases Path.joint_cases filled with ⟨outer, whole, none⟩ | slash
  · have joined : (root ++ Path.joint root ++ resource).toList =
        outer ++ '/' :: resource.toList := by
      simp [String.toList_append, whole, none]
    rw [whole, List.splitOn_append_cons_self, List.foldlM_append] at followed
    rw [joined, List.splitOn_append_cons_self, List.foldlM_append]
    cases before : (outer.splitOn '/').foldlM files.follow start with
    | error error =>
        rw [before] at followed
        cases followed
    | ok there =>
        rw [before] at followed
        have last : (files.follow there [] >>= pure) = .ok here := followed
        rw [bind_pure] at last
        rw [eq_of_follow_nil last]
        rfl
  · have joined : (root ++ Path.joint root ++ resource).toList =
        root.toList ++ '/' :: resource.toList := by
      simp [String.toList_append, slash]
    rw [joined, List.splitOn_append_cons_self, List.foldlM_append, followed]
    rfl

theorem locate_join (located : files.locate root = .ok here)
    (relative : Path.isAbsolute resource = false) :
    files.locate (Path.join root resource) =
      if '\x00' ∈ resource.toList then .error .invalidName
      else if Path.isTooLong (Path.join root resource) then .error .nameTooLong
      else (resource.toList.splitOn '/').foldlM files.follow here := by
  unfold locate at located
  split at located
  · cases located
  · next valid =>
      split at located
      · cases located
      · split at located
        · cases located
        · next named =>
            have filled : root ≠ "" := by
              intro empty
              simp [empty] at named
            have nul : '\x00' ∈ (Path.join root resource).toList ↔ '\x00' ∈ resource.toList := by
              rw [Path.join_eq relative]
              rcases Path.joint_cases filled with ⟨_, _, none⟩ | slash
              · simp [String.toList_append, none, valid]
              · simp [String.toList_append, slash, valid]
            have joinedFilled : (Path.join root resource).isEmpty = false := by
              simp [Path.join_eq relative, filled]
            have sameStart : Path.isAbsolute (Path.join root resource) = Path.isAbsolute root := by
              rw [Path.join_eq relative]
              unfold Path.isAbsolute
              cases whole : root.toList with
              | nil => exact absurd (String.toList_eq_nil_iff.mp whole) filled
              | cons c rest => simp [String.toList_append, whole]
            unfold locate
            simp only [nul, joinedFilled, sameStart, Bool.false_eq_true, if_false]
            rw [Path.join_eq relative, foldlM_follow_join filled located]

/-!
# Reading and listing in a tree
-/

theorem isFile_iff {path : String} :
    files.isFile path = true ↔ ∃ content, files.lookup path = .ok (.file content) := by
  unfold isFile
  split
  · next content found => simp [found]
  · next other =>
      simp only [Bool.false_eq_true, false_iff]
      exact fun found => found.elim other

theorem read_of_lookup {path : String} {content : ByteArray}
    (found : files.lookup path = .ok (.file content)) : files.read path = .ok content := by
  rw [FileSystem.read, found]
  rfl

theorem lookup_eq_ok_iff {path : String} {node : FileNode} :
    files.lookup path = .ok node ↔
      ∃ location, files.locate path = .ok location ∧ files.node? location = some node := by
  unfold lookup
  cases files.locate path with
  | error error => simp [bind, Except.bind]
  | ok location =>
      simp only [bind, Except.bind, Except.ok.injEq, exists_eq_left']
      cases files.node? location with
      | none => simp [throw, throwThe, MonadExceptOf.throw]
      | some there => simp [pure, Except.pure]

theorem childName?_eq_some_iff {child : String} :
    childName? here location = some child ↔ location = child :: here := by
  cases location with
  | nil => simp [childName?]
  | cons name outer =>
      by_cases same : outer = here
      · simp [childName?, same]
      · simp [childName?, same]

theorem node?_ne_none_iff {name : String} {outer : Location} :
    files.node? (name :: outer) ≠ none ↔ ∃ node, (name :: outer, node) ∈ files.nodes := by
  unfold node?
  rw [ne_eq, Option.map_eq_none_iff, List.find?_eq_none]
  constructor
  · intro found
    apply Classical.byContradiction
    intro absent
    refine found fun entry mem same => absent ⟨entry.2, ?_⟩
    rw [← of_decide_eq_true same]
    exact mem
  · intro present absent
    rcases present with ⟨node, mem⟩
    exact absent _ mem (decide_eq_true rfl)

theorem isTree_of_nodes
    (named : ∀ entry ∈ files.nodes, ∀ name ∈ entry.1.head?, Path.IsPlain name ∧
      '/' ∉ name.toList ∧ '\x00' ∉ name.toList ∧ Path.isStepTooLong name.toList = false)
    (nested : ∀ entry ∈ files.nodes, files.node? entry.1.tail = some .directory) :
    files.IsTree where
  named present := by
    rcases node?_ne_none_iff.mp present with ⟨node, mem⟩
    exact named _ mem _ rfl
  nested present := by
    rcases node?_ne_none_iff.mp present with ⟨node, mem⟩
    exact nested _ mem

theorem mem_nodes_of_file {content : ByteArray}
    (there : files.node? location = some (.file content)) :
    (location, .file content) ∈ files.nodes := by
  cases location with
  | nil => cases Option.some.inj there
  | cons name outer =>
      rcases Option.map_eq_some_iff.mp there with ⟨entry, found, isFile⟩
      have named := List.find?_some found
      rw [← of_decide_eq_true named, ← isFile]
      exact List.mem_of_find?_eq_some found

theorem mem_childNames_iff {path child : String} :
    child ∈ files.childNames path ↔
      ∃ location, files.locate path = .ok location ∧ files.node? location = some .directory ∧
        files.node? (child :: location) ≠ none := by
  unfold childNames
  cases files.locate path with
  | error error => simp
  | ok location =>
      simp only [Except.ok.injEq, exists_eq_left']
      rw [node?_ne_none_iff]
      cases files.node? location with
      | none => simp
      | some node =>
          cases node with
          | file content => simp
          | directory => simp [childName?_eq_some_iff]

theorem eq_below_of_locate_join (located : files.locate root = .ok here)
    (plain : Path.IsPlain resource)
    (found : files.locate (Path.join root resource) = .ok location) :
    location = Path.below here resource ∧ Path.isTooLong (Path.join root resource) = false := by
  rw [locate_join located (Path.isAbsolute_of_isPlain plain)] at found
  split at found
  · cases found
  · split at found
    · cases found
    · next short => exact ⟨eq_of_foldlM_follow plain found, Bool.eq_false_iff.mpr short⟩

namespace IsTree

theorem locate_join (tree : files.IsTree) (located : files.locate root = .ok here)
    (plain : Path.IsPlain resource) (present : files.node? (Path.below here resource) ≠ none)
    (short : Path.isTooLong (Path.join root resource) = false) :
    files.locate (Path.join root resource) = .ok (Path.below here resource) := by
  have valid : '\x00' ∉ resource.toList := by
    intro nul
    have whole : ['/'].intercalate (resource.toList.splitOn '/') = resource.toList :=
      List.intercalate_splitOn '/'
    rw [← whole] at nul
    rcases Text.mem_intercalate nul with impossible | ⟨step, mem, inStep⟩
    · cases impossible
    · refine tree.not_nul_of_append present (String.ofList step)
        (List.mem_reverse.mpr (List.mem_map_of_mem mem)) ?_
      rw [String.toList_ofList]
      exact inStep
  rw [FileSystem.locate_join located (Path.isAbsolute_of_isPlain plain), if_neg valid, short]
  exact tree.foldlM_follow plain present

theorem lookup_join_iff (tree : files.IsTree) (located : files.locate root = .ok here)
    (plain : Path.IsPlain resource) {node : FileNode} :
    files.lookup (Path.join root resource) = .ok node ↔
      files.node? (Path.below here resource) = some node ∧
        Path.isTooLong (Path.join root resource) = false := by
  rw [lookup_eq_ok_iff]
  constructor
  · intro found
    rcases found with ⟨location, followed, there⟩
    rcases eq_below_of_locate_join located plain followed with ⟨rfl, short⟩
    exact ⟨there, short⟩
  · intro found
    rcases found with ⟨there, short⟩
    exact ⟨_, tree.locate_join located plain (by simp [there]) short, there⟩

theorem mem_files_iff (tree : files.IsTree) (located : files.locate root = .ok here)
    {inner child : String} (plain : Path.IsPlain inner) :
    (child ∈ files.childNames (Path.join root inner) ∧
        files.isFile (Path.join (Path.join root inner) child) = true) ↔
      '/' ∉ child.toList ∧ Path.IsPlain child ∧
        files.isFile (Path.join root (inner ++ "/" ++ child)) = true := by
  constructor
  · intro both
    rcases both with ⟨listed, isFile⟩
    rcases mem_childNames_iff.mp listed with ⟨location, _, _, present⟩
    rcases tree.named present with ⟨plainChild, single, _⟩
    rw [Path.join_join plain (Path.isAbsolute_of_isPlain plainChild)] at isFile
    exact ⟨single, plainChild, isFile⟩
  · intro isFile
    rcases isFile with ⟨single, plainChild, isFile⟩
    have relative := Path.isAbsolute_of_isPlain plainChild
    rw [Path.join_join plain relative]
    refine ⟨?_, isFile⟩
    rcases isFile_iff.mp isFile with ⟨content, found⟩
    rcases (tree.lookup_join_iff located (Path.isPlain_append plain plainChild)).mp found with
      ⟨there, short⟩
    rw [Path.below_append, Path.below_of_single _ single] at there
    have present : files.node? (child :: Path.below here inner) ≠ none := by simp [there]
    have directory := tree.nested present
    have shortInner : Path.isTooLong (Path.join root inner) = false := by
      rw [← Path.join_join plain relative, Path.join_eq relative] at short
      exact Path.isTooLong_of_append (Path.isTooLong_of_append short)
    exact mem_childNames_iff.mpr ⟨_, tree.locate_join located plain (by simp [directory])
      shortInner, directory, present⟩

end IsTree

end FileSystem
end ClassAtlas
