/-
Module: TypedManifests.Proofs.ManifestWalk
Purpose: Which files of a tree are read, and in which order. The walk leaves out what is below an
  ignored directory without looking at it; still it finds exactly the manifests on whose way nothing
  is ignored, each of them once, those of a directory before those of its subdirectories.
Main exports: Path.Glob.accepted_iff, WellNamed, pathTo, ReadBefore, FoundAt, mem_manifestsBelow,
  pairwise_manifestsBelow, pathTo_injective, walk_exact
-/
import Mathlib.Data.List.Infix
import TypedManifests.Manifest.Loading
import TypedManifests.Proofs.Cuts
import TypedManifests.Proofs.FileContents
import TypedManifests.Proofs.Sorting

namespace TypedManifests

/-!
### Patterns
-/

namespace Path.Glob

/-- The pattern may be tried against any path. -/
def Accepted (pattern : String) : Prop := ∀ path, ∃ matched, pathMatches pattern path = .ok matched

/-- A pattern may be tried if it has a segment. -/
theorem accepted_iff {pattern : String} : Accepted pattern ↔ parts pattern ≠ [] := by
  constructor
  · intro accepted empty
    obtain ⟨matched, tried⟩ := accepted ""
    simp [pathMatches, empty] at tried
  · intro nonempty path
    have segments : (parts pattern).isEmpty = false := by simpa using nonempty
    simp only [pathMatches, segments, Bool.false_eq_true, if_false]
    split <;> exact ⟨_, rfl⟩

/-- No such pattern matches the empty path, so its being let through says nothing more. -/
theorem ignores_eq {pattern : String} (accepted : Accepted pattern) (path : String) :
    ignores pattern path = pathMatches pattern path := by
  rw [ignores]
  split
  · next empty =>
    subst empty
    have nonempty : parts pattern ≠ [] := accepted_iff.1 accepted
    have given : parts "" = [] := by decide
    simp [pathMatches, given, nonempty]
  · rfl

/-- With patterns that may be tried, a path is ignored if one of them matches it. -/
theorem isIgnored_of_accepted {patterns : List String}
    (accepted : ∀ pattern ∈ patterns, Accepted pattern) (path : String) :
    ∃ covered, isIgnored patterns path = .ok covered ∧
      (covered = true ↔ ∃ pattern ∈ patterns, pathMatches pattern path = .ok true) := by
  induction patterns with
  | nil => exact ⟨false, rfl, by simp⟩
  | cons pattern rest ih =>
      have first := accepted pattern List.mem_cons_self
      obtain ⟨later, others, covers⟩ := ih fun other member =>
        accepted other (List.mem_cons_of_mem _ member)
      obtain ⟨matched, tried⟩ := first path
      cases matched with
      | true => exact ⟨true, by rw [isIgnored, ignores_eq first, tried], by simp [tried]⟩
      | false =>
          exact ⟨later, by rw [isIgnored, ignores_eq first, tried, others], by simp [tried, covers]⟩

end Path.Glob

/-!
### Names at the end of a path
-/

namespace Path

variable {directory name : String}

/-- A directory as it stands before the name of an entry. -/
def withSlash (directory : String) : String :=
  if directory = "" ∨ directory.toList.getLast? = some '/' then directory else directory ++ "/"

theorem join_eq (unslashed : '/' ∉ name.toList) :
    join directory name = withSlash directory ++ name := by
  have relative : isAbsolute name = false := by
    rw [isAbsolute, decide_eq_false_iff_not]
    exact fun first => unslashed (List.mem_of_mem_head? first)
  rw [join, relative, withSlash]
  split
  · next eq => cases eq
  · split <;> rfl

/-- Nothing or a slash stands before the name. -/
theorem withSlash_cases (directory : String) :
    (withSlash directory).toList = [] ∨ ∃ front, (withSlash directory).toList = front ++ ['/'] := by
  rw [withSlash]
  split
  · next ends =>
    rcases ends with rfl | ends
    · exact Or.inl rfl
    · exact Or.inr (List.getLast?_eq_some_iff.1 ends)
  · exact Or.inr ⟨directory.toList, by simp⟩

theorem lastSegment_join (unslashed : '/' ∉ name.toList) :
    lastSegment (join directory name) = name := by
  have reversed : '/' ∉ name.toList.reverse := by simpa using unslashed
  rw [lastSegment, join_eq unslashed, String.toList_append, List.reverse_append]
  rcases withSlash_cases directory with empty | ⟨front, split⟩
  · rw [empty, List.reverse_nil, List.append_nil, Text.takeWhile_ne_of_notMem reversed]
    simp
  · rw [split, List.reverse_append, List.reverse_singleton, List.singleton_append,
      Text.takeWhile_ne_append reversed]
    simp

end Path

theorem prefix_takeWhile_iff {α : Type} {p : α → Bool} {front l : List α}
    (all : ∀ a ∈ front, p a = true) : front <+: l.takeWhile p ↔ front <+: l := by
  constructor
  · exact fun within => within.trans (List.takeWhile_prefix p)
  · rintro ⟨rest, rfl⟩
    rw [List.takeWhile_append_of_pos all]
    exact List.prefix_append _ _

/-- A path ends as a manifest's does if its last segment does. -/
theorem isManifestName_lastSegment (path : String) :
    isManifestName (Path.lastSegment path) = isManifestName path := by
  have ends : ∀ ending ∈ manifestEndings,
      ending.toList.isSuffixOf (Path.lastSegment path).toList =
        ending.toList.isSuffixOf path.toList := by
    intro ending member
    have unslashed : ∀ c ∈ ending.toList.reverse, decide (c ≠ '/') = true := by
      simp only [manifestEndings, List.mem_cons, List.not_mem_nil, or_false] at member
      rcases member with rfl | rfl <;> simp
    rw [Bool.eq_iff_iff, List.isSuffixOf_iff_suffix, List.isSuffixOf_iff_suffix,
      ← List.reverse_prefix, ← List.reverse_prefix, Path.lastSegment, String.toList_ofList,
      List.reverse_reverse]
    exact prefix_takeWhile_iff unslashed
  rw [isManifestName, isManifestName, Bool.eq_iff_iff, List.any_eq_true, List.any_eq_true]
  refine exists_congr fun ending => and_congr_right fun member => ?_
  rw [ends ending member]

namespace FileTree

/-!
### Places and their paths
-/

instance (name : String) : Decidable (Path.IsName name) :=
  decidable_of_iff ('/' ∉ name.toList ∧ name ≠ "" ∧ name ≠ "." ∧ name ≠ "..")
    ⟨fun ⟨h₁, h₂, h₃, h₄⟩ => ⟨h₁, h₂, h₃, h₄⟩, fun ⟨h₁, h₂, h₃, h₄⟩ => ⟨h₁, h₂, h₃, h₄⟩⟩

/-- In every directory the entries have names, and different ones. -/
inductive WellNamed : FileTree → Prop where
  | file (text : String) : WellNamed (.file text)
  | directory {entries : List (String × FileTree)} (nodup : (entries.map Prod.fst).Nodup)
      (names : ∀ entry ∈ entries, Path.IsName entry.1)
      (all : ∀ entry ∈ entries, WellNamed entry.2) : WellNamed (.directory entries)

/-- The path of a place in a tree that stands at a path. -/
def pathTo (path : String) (place : Place) : String := place.foldl Path.join path

@[simp] theorem pathTo_nil (path : String) : pathTo path [] = path := rfl

@[simp] theorem pathTo_cons (path name : String) (place : Place) :
    pathTo path (name :: place) = pathTo (Path.join path name) place := rfl

theorem pathTo_eq {place : Place} (nonempty : place ≠ []) :
    ∀ path, (∀ name ∈ place, Path.IsName name) →
      pathTo path place = Path.withSlash path ++ String.intercalate "/" place := by
  induction place with
  | nil => exact absurd rfl nonempty
  | cons name rest ih =>
      intro path names
      have first := names name List.mem_cons_self
      rw [pathTo_cons]
      cases rest with
      | nil => simp [Path.join_eq first.unslashed]
      | cons next others =>
          have ended : Path.withSlash (Path.join path name) = Path.join path name ++ "/" := by
            rw [Path.withSlash, Path.join_eq first.unslashed, if_neg]
            have last : name.toList ≠ [] := by simpa using first.nonempty
            rintro (empty | slash)
            · simp [first.nonempty] at empty
            · rw [String.toList_append, List.getLast?_append_of_ne_nil _ last] at slash
              exact first.unslashed (List.mem_of_getLast? slash)
          rw [ih (by simp) _ fun other member => names other (List.mem_cons_of_mem _ member), ended,
            Path.join_eq first.unslashed, String.intercalate_cons_cons]
          simp only [String.append_assoc]

/-- Different places below a path have different paths. -/
theorem pathTo_injective {path : String} {p q : Place} (nonempty : p ≠ []) (nonempty' : q ≠ [])
    (names : ∀ name ∈ p, Path.IsName name) (names' : ∀ name ∈ q, Path.IsName name)
    (same : pathTo path p = pathTo path q) : p = q := by
  rw [pathTo_eq nonempty path names, pathTo_eq nonempty' path names',
    String.append_right_inj] at same
  have segments := congrArg Path.segments same
  rwa [Path.segments_intercalate nonempty fun name member => (names name member).unslashed,
    Path.segments_intercalate nonempty' fun name member => (names' name member).unslashed]
    at segments

/-- The order in which files are read: those of a directory by their names, before those of its
subdirectories, which come by the names of these. -/
inductive ReadBefore : Place → Place → Prop where
  | own {a b : String} (less : a < b) : ReadBefore [a] [b]
  | ownFirst {a b : String} {rest : Place} (below : rest ≠ []) : ReadBefore [a] (b :: rest)
  | directories {a b : String} {p q : Place} (inside : p ≠ []) (inside' : q ≠ []) (less : a < b) :
      ReadBefore (a :: p) (b :: q)
  | within {a : String} {p q : Place} (before : ReadBefore p q) : ReadBefore (a :: p) (a :: q)

theorem ReadBefore.nonempty {p q : Place} (before : ReadBefore p q) : p ≠ [] ∧ q ≠ [] := by
  cases before <;> simp

theorem ReadBefore.irrefl : ∀ {p : Place}, ¬ ReadBefore p p
  | _, .own less => lt_irrefl _ less
  | _, .ownFirst below => below rfl
  | _, .directories _ _ less => lt_irrefl _ less
  | _, .within before => before.irrefl

theorem lookup_eq_some_iff_mem {entries : List (String × FileTree)}
    (nodup : (entries.map Prod.fst).Nodup) {name : String} {tree : FileTree} :
    entries.lookup name = some tree ↔ (name, tree) ∈ entries := by
  constructor
  · intro found
    obtain ⟨before, after, rfl, _⟩ := List.lookup_eq_some_iff.1 found
    simp
  · intro member
    obtain ⟨before, after, rfl⟩ := List.append_of_mem member
    rw [List.map_append, List.nodup_append] at nodup
    refine List.lookup_eq_some_iff.2 ⟨before, after, rfl, fun entry listed => ?_⟩
    have different := nodup.2.2 entry.1 (List.mem_map_of_mem listed) name (by simp)
    simpa using Ne.symm different

/-- The names on the way to a file are names. -/
theorem isName_of_text? {tree : FileTree} (named : tree.WellNamed) :
    ∀ {place : Place} {text : String}, tree.text? place = some text →
      ∀ name ∈ place, Path.IsName name := by
  induction named with
  | file text =>
      intro place found held name member
      cases place with
      | nil => cases member
      | cons => simp [text?, find?] at held
  | directory nodup names all ih =>
      intro place found held name member
      cases place with
      | nil => cases member
      | cons first rest =>
          rw [text?_cons] at held
          obtain ⟨below, entry, held⟩ := Option.bind_eq_some_iff.1 held
          have listed := (lookup_eq_some_iff_mem nodup).1 entry
          rcases List.mem_cons.1 member with rfl | member
          · exact names _ listed
          · exact ih _ listed held name member

/-!
### What the walk finds

A manifest at a place is found if nothing is ignored from the top down to the place. The induction
is on the tree: what is found below an entry of a directory is what is found in the entry's tree.
-/

/-- The file at a place is a manifest, and no path on the way to it is ignored. -/
structure FoundAt (ignored : String → Bool) (path : String) (tree : FileTree) (place : Place)
    (found : Found) : Prop where
  path_eq : found.1 = pathTo path place
  text_eq : tree.text? place = some found.2
  isManifest : isManifestName (Path.lastSegment found.1) = true
  kept : ∀ above, above <+: place → ignored (pathTo path above) = false

variable {ignored : String → Bool} {path : String} {tree : FileTree} {found : Found}
  {entries : List (String × FileTree)}

theorem foundAt_cons (nodup : (entries.map Prod.fst).Nodup) (top : ignored path = false)
    {name : String} {place : Place} :
    FoundAt ignored path (.directory entries) (name :: place) found ↔
      ∃ tree, (name, tree) ∈ entries ∧ FoundAt ignored (Path.join path name) tree place found := by
  constructor
  · rintro ⟨path_eq, text_eq, isManifest, kept⟩
    rw [text?_cons] at text_eq
    obtain ⟨tree, entry, text_eq⟩ := Option.bind_eq_some_iff.1 text_eq
    refine ⟨tree, (lookup_eq_some_iff_mem nodup).1 entry, path_eq, text_eq, isManifest, ?_⟩
    exact fun above within => kept (name :: above) (List.cons_prefix_cons.2 ⟨rfl, within⟩)
  · rintro ⟨tree, entry, path_eq, text_eq, isManifest, kept⟩
    refine ⟨path_eq, ?_, isManifest, fun above within => ?_⟩
    · rw [text?_cons, (lookup_eq_some_iff_mem nodup).2 entry, Option.bind_some, text_eq]
    · rcases List.prefix_cons_iff.1 within with rfl | ⟨rest, rfl, below⟩
      · exact top
      · exact kept rest below

theorem mem_ownManifests (nodup : (entries.map Prod.fst).Nodup)
    (names : ∀ entry ∈ entries, Path.IsName entry.1) (top : ignored path = false) {name : String} :
    (name, found) ∈ ownManifests ignored path entries ↔
      FoundAt ignored path (.directory entries) [name] found := by
  rw [foundAt_cons nodup top, ownManifests, List.mem_filterMap]
  constructor
  · rintro ⟨⟨other, tree⟩, entry, kept⟩
    cases tree with
    | directory below => cases kept
    | file text =>
        simp only at kept
        split at kept
        · next wanted =>
          cases kept
          refine ⟨_, entry, rfl, rfl, ?_, fun above within => ?_⟩
          · rw [Path.lastSegment_join (names _ entry).unslashed]
            exact wanted.1
          · rw [List.prefix_nil.1 within]
            simpa using wanted.2
        · cases kept
  · rintro ⟨tree, entry, path_eq, text_eq, isManifest, kept⟩
    refine ⟨_, entry, ?_⟩
    obtain ⟨file, text⟩ := found
    obtain rfl : file = Path.join path name := path_eq
    rw [Path.lastSegment_join (names _ entry).unslashed] at isManifest
    obtain rfl : tree = .file text := by simpa [text?_eq_some, find?] using text_eq
    have free : ignored (Path.join path name) = false := kept [] List.nil_prefix
    simp [isManifest, free]

theorem mem_manifestsOfEach {group : String × List Found} :
    group ∈ manifestsOfEach ignored path entries ↔
      ∃ tree, (group.1, tree) ∈ entries ∧ ignored (Path.join path group.1) = false ∧
        group.2 = manifestsBelow ignored (Path.join path group.1) tree := by
  induction entries with
  | nil => simp [manifestsOfEach]
  | cons entry rest ih =>
      obtain ⟨name, tree⟩ := entry
      obtain ⟨label, listed⟩ := group
      rw [manifestsOfEach]
      split
      · next covered =>
        rw [ih]
        refine exists_congr fun other => and_congr_left fun free => ?_
        have apart : label ≠ name := by
          rintro rfl
          simp [covered] at free
        simp [apart]
      · next free =>
        rw [List.mem_cons, ih]
        constructor
        · rintro (same | ⟨other, entry, rest⟩)
          · cases same
            exact ⟨tree, List.mem_cons_self, by simpa using free, rfl⟩
          · exact ⟨other, List.mem_cons_of_mem _ entry, rest⟩
        · rintro ⟨other, entry, rest⟩
          rcases List.mem_cons.1 entry with same | later
          · cases same
            exact Or.inl (Prod.ext rfl rest.2)
          · exact Or.inr ⟨other, later, rest⟩

/-- Below a directory that is not ignored the walk finds what it should. -/
theorem mem_manifestsBelow (named : tree.WellNamed) : ∀ {path : String}, ignored path = false →
    (found ∈ manifestsBelow ignored path tree ↔
      ∃ place, place ≠ [] ∧ FoundAt ignored path tree place found) := by
  induction named with
  | file text =>
      intro path _
      rw [manifestsBelow]
      constructor
      · intro listed
        cases listed
      · rintro ⟨place, nonempty, _, text_eq, _⟩
        obtain ⟨name, rest, rfl⟩ := List.exists_cons_of_ne_nil nonempty
        simp [text?, find?] at text_eq
  | @directory entries nodup names all ih =>
      intro path top
      rw [manifestsBelow, List.mem_append]
      constructor
      · rintro (own | deeper)
        · obtain ⟨⟨name, _⟩, sorted, rfl⟩ := List.mem_map.1 own
          have listed := List.mem_mergeSort.1 sorted
          exact ⟨[name], by simp, (mem_ownManifests nodup names top).1 listed⟩
        · obtain ⟨group, sorted, inside⟩ := List.mem_flatMap.1 deeper
          obtain ⟨tree, entry, free, eq⟩ := mem_manifestsOfEach.1 (List.mem_mergeSort.1 sorted)
          rw [eq, ih _ entry free] at inside
          obtain ⟨place, _, inside⟩ := inside
          exact ⟨group.1 :: place, by simp, (foundAt_cons nodup top).2 ⟨tree, entry, inside⟩⟩
      · rintro ⟨place, nonempty, foundAt⟩
        obtain ⟨name, rest, rfl⟩ := List.exists_cons_of_ne_nil nonempty
        by_cases own : rest = []
        · subst own
          have listed := (mem_ownManifests nodup names top).2 foundAt
          exact Or.inl (List.mem_map.2 ⟨_, List.mem_mergeSort.2 listed, rfl⟩)
        · obtain ⟨tree, entry, inside⟩ := (foundAt_cons nodup top).1 foundAt
          have free : ignored (Path.join path name) = false := inside.kept [] List.nil_prefix
          have group : (name, manifestsBelow ignored (Path.join path name) tree) ∈
              manifestsOfEach ignored path entries :=
            mem_manifestsOfEach.2 ⟨tree, entry, free, rfl⟩
          have listed := (ih _ entry free).2 ⟨rest, own, inside⟩
          exact Or.inr (List.mem_flatMap.2 ⟨_, List.mem_mergeSort.2 group, listed⟩)

/-!
### The order of the walk
-/

/-- Two files that are found one after the other. -/
def InOrder (ignored : String → Bool) (path : String) (tree : FileTree)
    (found next : Found) : Prop :=
  ∃ p q, FoundAt ignored path tree p found ∧ FoundAt ignored path tree q next ∧ ReadBefore p q

/-- What is picked from named entries under their names keeps the names different. -/
theorem nodup_filterMap {α β : Type} {f : String × α → Option (String × β)}
    {entries : List (String × α)} (nodup : (entries.map Prod.fst).Nodup)
    (keeps : ∀ entry picked, f entry = some picked → picked.1 = entry.1) :
    ((entries.filterMap f).map Prod.fst).Nodup := by
  refine nodup.sublist ?_
  induction entries with
  | nil => simp
  | cons entry rest ih =>
      have others := ih (List.nodup_cons.1 nodup).2
      rw [List.filterMap_cons]
      split
      · exact others.cons _
      · next picked taken =>
        rw [List.map_cons, List.map_cons, keeps entry picked taken]
        exact others.cons_cons _

theorem nodup_ownManifests (nodup : (entries.map Prod.fst).Nodup) :
    ((ownManifests ignored path entries).map Prod.fst).Nodup := by
  refine nodup_filterMap nodup ?_
  rintro ⟨name, tree⟩ picked taken
  cases tree with
  | directory below => cases taken
  | file text =>
      simp only at taken
      split at taken
      · cases taken
        rfl
      · cases taken

theorem nodup_manifestsOfEach (nodup : (entries.map Prod.fst).Nodup) :
    ((manifestsOfEach ignored path entries).map Prod.fst).Nodup := by
  induction entries with
  | nil => simp [manifestsOfEach]
  | cons entry rest ih =>
      obtain ⟨name, tree⟩ := entry
      rw [List.map_cons, List.nodup_cons] at nodup
      rw [manifestsOfEach]
      split
      · exact ih nodup.2
      · rw [List.map_cons, List.nodup_cons]
        refine ⟨fun member => ?_, ih nodup.2⟩
        obtain ⟨group, listed, same⟩ := List.mem_map.1 member
        obtain ⟨other, entry, _⟩ := mem_manifestsOfEach.1 listed
        exact nodup.1 (List.mem_map.2 ⟨_, entry, same⟩)

/-- Below a directory that is not ignored the walk finds the files in order. -/
theorem pairwise_manifestsBelow (named : tree.WellNamed) : ∀ {path : String}, ignored path = false →
    (manifestsBelow ignored path tree).Pairwise (InOrder ignored path tree) := by
  induction named with
  | file text =>
      intro path _
      rw [manifestsBelow]
      exact .nil
  | @directory entries nodup names all ih =>
      intro path top
      have own : ∀ {picked : String × Found},
          picked ∈ sortByName (ownManifests ignored path entries) →
            FoundAt ignored path (.directory entries) [picked.1] picked.2 := fun sorted =>
        (mem_ownManifests nodup names top).1 (List.mem_mergeSort.1 sorted)
      have deeper : ∀ {group : String × List Found} {found : Found},
          group ∈ sortByName (manifestsOfEach ignored path entries) → found ∈ group.2 →
            ∃ rest, rest ≠ [] ∧
              FoundAt ignored path (.directory entries) (group.1 :: rest) found := by
        intro group found sorted inside
        obtain ⟨tree, entry, free, eq⟩ := mem_manifestsOfEach.1 (List.mem_mergeSort.1 sorted)
        rw [eq, mem_manifestsBelow (all _ entry) free] at inside
        obtain ⟨rest, nonempty, inside⟩ := inside
        exact ⟨rest, nonempty, (foundAt_cons nodup top).2 ⟨tree, entry, inside⟩⟩
      rw [manifestsBelow, List.pairwise_append]
      refine ⟨?_, ?_, ?_⟩
      · rw [List.pairwise_map]
        refine (pairwise_mergeSort_fst (nodup_ownManifests nodup)).imp_of_mem ?_
        exact fun member member' less => ⟨_, _, own member, own member', .own less⟩
      · rw [List.pairwise_flatMap]
        constructor
        · intro group sorted
          obtain ⟨tree, entry, free, eq⟩ := mem_manifestsOfEach.1 (List.mem_mergeSort.1 sorted)
          rw [eq]
          refine (ih _ entry free).imp ?_
          rintro found next ⟨p, q, first, second, before⟩
          exact ⟨_, _, (foundAt_cons nodup top).2 ⟨tree, entry, first⟩,
            (foundAt_cons nodup top).2 ⟨tree, entry, second⟩, .within before⟩
        · refine (pairwise_mergeSort_fst (nodup_manifestsOfEach nodup)).imp_of_mem ?_
          intro group group' member member' less found inside next inside'
          obtain ⟨p, nonempty, first⟩ := deeper member inside
          obtain ⟨q, nonempty', second⟩ := deeper member' inside'
          exact ⟨_, _, first, second, .directories nonempty nonempty' less⟩
      · intro found listed next inside
        obtain ⟨picked, sorted, rfl⟩ := List.mem_map.1 listed
        obtain ⟨group, sorted', inside⟩ := List.mem_flatMap.1 inside
        obtain ⟨rest, nonempty, second⟩ := deeper sorted' inside
        exact ⟨_, _, own sorted, second, .ownFirst nonempty⟩

/-!
### The walk of a run
-/

/-- The files that are read for an input: a tree that stands at a path. -/
def walk (patterns : List String) (path : String) (tree : FileTree) : List Found :=
  tree.manifests (fun p => (Path.Glob.isIgnored patterns p).toOption.getD false) path

/-- Nothing is found in what is itself ignored. -/
theorem not_foundAt {place : Place} (covered : ignored path = true) :
    ¬ FoundAt ignored path tree place found := by
  intro foundAt
  have free : ignored path = false := foundAt.kept [] List.nil_prefix
  simp [covered] at free

theorem foundAt_file {text : String} {place : Place} (top : ignored path = false) :
    FoundAt ignored path (.file text) place found ↔
      place = [] ∧ isManifestName path = true ∧ found = (path, text) := by
  constructor
  · rintro ⟨path_eq, text_eq, isManifest, -⟩
    cases place with
    | cons name rest => simp [text?, find?] at text_eq
    | nil =>
        rw [path_eq, pathTo_nil, isManifestName_lastSegment] at isManifest
        have same : text = found.2 := by simpa [text?, find?] using text_eq
        exact ⟨rfl, isManifest, Prod.ext path_eq same.symm⟩
  · rintro ⟨rfl, isManifest, rfl⟩
    refine ⟨rfl, rfl, ?_, fun above within => ?_⟩
    · rw [isManifestName_lastSegment, isManifest]
    · rw [List.prefix_nil.1 within, pathTo_nil, top]

theorem mem_manifests (named : tree.WellNamed) :
    found ∈ tree.manifests ignored path ↔ ∃ place, FoundAt ignored path tree place found := by
  by_cases covered : ignored path = true
  · cases tree <;> simp [manifests, covered, not_foundAt]
  · have top : ignored path = false := by simpa using covered
    cases tree with
    | file text =>
        rw [manifests, if_neg covered]
        simp only [foundAt_file top, exists_eq_left]
        by_cases isManifest : isManifestName path = true <;> simp [isManifest]
    | directory entries =>
        rw [manifests, if_neg covered, mem_manifestsBelow named top]
        refine exists_congr fun place => and_iff_right_of_imp fun foundAt => ?_
        rintro rfl
        simpa [text?, find?] using foundAt.text_eq

theorem pairwise_manifests (named : tree.WellNamed) :
    (tree.manifests ignored path).Pairwise (InOrder ignored path tree) := by
  by_cases covered : ignored path = true
  · cases tree <;> simp [manifests, covered]
  · cases tree with
    | file text =>
        rw [manifests, if_neg covered]
        split <;> simp
    | directory entries =>
        rw [manifests, if_neg covered]
        exact pairwise_manifestsBelow named (by simpa using covered)

/-- Two files that are found one after the other are at different paths. -/
theorem InOrder.path_ne (named : tree.WellNamed) {next : Found}
    (inOrder : InOrder ignored path tree found next) : found.1 ≠ next.1 := by
  obtain ⟨p, q, first, second, before⟩ := inOrder
  intro same
  have paths : pathTo path p = pathTo path q := by rw [← first.path_eq, same, second.path_eq]
  obtain rfl : p = q := pathTo_injective before.nonempty.1 before.nonempty.2
    (isName_of_text? named first.text_eq) (isName_of_text? named second.text_eq) paths
  exact before.irrefl

variable {patterns : List String}

theorem toOption_isIgnored (accepted : ∀ pattern ∈ patterns, Path.Glob.Accepted pattern)
    (path : String) :
    (Path.Glob.isIgnored patterns path).toOption.getD false = false ↔
      ∀ pattern ∈ patterns, Path.Glob.pathMatches pattern path ≠ .ok true := by
  obtain ⟨covered, tried, covers⟩ := Path.Glob.isIgnored_of_accepted accepted path
  rw [tried, Except.toOption, Option.getD_some, ← Bool.not_eq_true, covers]
  simp only [not_exists, not_and, ne_eq]

/-- The walk finds exactly the manifests on whose way no path matches a pattern: the input itself,
the directories below it, the file. It finds each of them once, in order, and they are what is
read. -/
theorem walk_exact (accepted : ∀ pattern ∈ patterns, Path.Glob.Accepted pattern)
    (path : String) (named : tree.WellNamed) :
    (∀ (w : Workspace) (schemaUrl : Value) (l : Loading), w.find? path = some tree →
      l.addInput w patterns schemaUrl path = l.addFiles schemaUrl (tree.walk patterns path)) ∧
    (∀ file text, (file, text) ∈ tree.walk patterns path ↔
      ∃ place, file = pathTo path place ∧ tree.text? place = some text ∧
        isManifestName (Path.lastSegment file) = true ∧
        ∀ above, above <+: place → ∀ pattern ∈ patterns,
          Path.Glob.pathMatches pattern (pathTo path above) ≠ .ok true) ∧
    ((tree.walk patterns path).map Prod.fst).Nodup ∧
    (tree.walk patterns path).Pairwise fun found next => ∃ p q, ReadBefore p q ∧
      found.1 = pathTo path p ∧ tree.text? p = some found.2 ∧
      next.1 = pathTo path q ∧ tree.text? q = some next.2 := by
  refine ⟨fun w schemaUrl l found => ?_, fun file text => ?_, ?_, ?_⟩
  · obtain ⟨covered, tried, -⟩ := Path.Glob.isIgnored_of_accepted accepted path
    rw [Loading.addInput, found]
    simp only [tried]
    rfl
  · rw [walk, mem_manifests named]
    refine exists_congr fun place => ?_
    constructor
    · rintro ⟨path_eq, text_eq, isManifest, kept⟩
      exact ⟨path_eq, text_eq, isManifest, fun above within =>
        (toOption_isIgnored accepted _).1 (kept above within)⟩
    · rintro ⟨path_eq, text_eq, isManifest, kept⟩
      exact ⟨path_eq, text_eq, isManifest, fun above within =>
        (toOption_isIgnored accepted _).2 (kept above within)⟩
  · rw [List.nodup_iff_pairwise_ne, List.pairwise_map]
    exact (pairwise_manifests named).imp fun inOrder => inOrder.path_ne named
  · refine (pairwise_manifests named).imp ?_
    rintro found next ⟨p, q, first, second, before⟩
    exact ⟨p, q, before, first.path_eq, first.text_eq, second.path_eq, second.text_eq⟩

/-- A pattern of two segments leaves out a directory in one place only. -/
theorem walk_exact_pruned :
    let tree := FileTree.directory
      [("test", .directory [("a.yaml", .file "a")]),
        ("app", .directory [("test", .directory [("b.yaml", .file "b")])])]
    (∀ pattern ∈ ["app/test"], Path.Glob.Accepted pattern) ∧ tree.WellNamed ∧
      ("/in/test/a.yaml", "a") ∈ tree.walk ["app/test"] "/in" ∧
      ("/in/app/test/b.yaml", "b") ∉ tree.walk ["app/test"] "/in" := by
  intro tree
  have accepted : ∀ pattern ∈ ["app/test"], Path.Glob.Accepted pattern := by
    simp only [List.mem_singleton, forall_eq]
    exact Path.Glob.accepted_iff.2 (by decide)
  have leaf : ∀ name text, Path.IsName name →
      (FileTree.directory [(name, .file text)]).WellNamed := fun name text isName =>
    .directory (by simp) (by simpa using isName) (by simp [WellNamed.file])
  have app : (FileTree.directory [("test", .directory [("b.yaml", .file "b")])]).WellNamed :=
    .directory (by decide) (by decide) (by simp [leaf "b.yaml" "b" (by decide)])
  have named : tree.WellNamed :=
    .directory (by decide) (by decide) (by simp [leaf "a.yaml" "a" (by decide), app])
  have exactly := (walk_exact accepted "/in" named).2.1
  refine ⟨accepted, named, (exactly _ _).2 ⟨["test", "a.yaml"], ?_, rfl, ?_, ?_⟩, ?_⟩
  · decide +kernel
  · decide +kernel
  · have kept : ∀ above ∈ ["test", "a.yaml"].inits, ∀ pattern ∈ ["app/test"],
        Path.Glob.pathMatches pattern (pathTo "/in" above) ≠ .ok true := by decide +kernel
    exact fun above within => kept above ((List.mem_inits _ _).2 within)
  · intro listed
    obtain ⟨place, path_eq, text_eq, -, kept⟩ := (exactly _ _).1 listed
    have below : tree.text? ["app", "test", "b.yaml"] = some "b" := rfl
    have nonempty : place ≠ [] := by
      rintro rfl
      cases text_eq
    have same : pathTo "/in" place = pathTo "/in" ["app", "test", "b.yaml"] := by
      rw [← path_eq]
      decide +kernel
    obtain rfl := pathTo_injective nonempty (by simp) (isName_of_text? named text_eq)
      (isName_of_text? named below) same
    refine kept ["app", "test"] ⟨["b.yaml"], rfl⟩ _ (List.mem_singleton_self _) ?_
    decide +kernel

end FileTree

end TypedManifests
