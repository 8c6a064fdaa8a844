/-
Module: TypedManifests.Proofs.Places
Purpose: A path that is spelled by the names of a place leads to that place.
Main exports: Path.IsName, Path.segments_spelled, Path.isName_of_mem_absolute,
  Workspace.locate_spelled, Workspace.TakesFile, Workspace.write_spelled,
  Workspace.write_spelled_refused
-/
import TypedManifests.Files.Workspace

/-!
Paths are texts and places are lists of names. A text is cut into its names at the slashes, and an
absolute path is made of names again after the points in it are taken away. Such a path leads
nowhere else than to the place its names spell, whatever the tree holds, so whether a file can be
written there is a matter of two places: the directory, which has to be one, and the file itself,
which must not be one.
-/

namespace TypedManifests

/-!
### Cutting at a character
-/

namespace Text

variable {c : Char}

theorem splitAll_eq_splitOn (text : List Char) : splitAll c text = text.splitOn c := by
  induction text with
  | nil => rfl
  | cons d text ih =>
      rw [splitAll, List.splitOn_cons_eq_if_modifyHead, ih]
      by_cases cut : d = c
      · simp [cut]
      · cases parts : text.splitOn c with
        | nil => exact absurd parts (List.splitOn_ne_nil c text)
        | cons part parts => simp [cut]

theorem notMem_of_mem_splitAll {text part : List Char} (member : part ∈ splitAll c text) :
    c ∉ part := by
  induction text generalizing part with
  | nil => simp_all [splitAll]
  | cons d text ih =>
      rw [splitAll] at member
      split at member
      · rcases List.mem_cons.1 member with rfl | member
        · exact List.not_mem_nil
        · exact ih member
      · next other =>
        split at member
        · next begun parts cut =>
          rcases List.mem_cons.1 member with rfl | member
          · have clean : c ∉ begun := ih (cut ▸ List.mem_cons_self)
            simp [Ne.symm other, clean]
          · exact ih (cut ▸ List.mem_cons_of_mem _ member)
        · simpa [List.mem_singleton.1 member] using Ne.symm other

theorem mem_of_mem_splitAll {d : Char} {text part : List Char} (member : part ∈ splitAll c text)
    (inside : d ∈ part) : d ∈ text := by
  induction text generalizing part with
  | nil => simp_all [splitAll]
  | cons first text ih =>
      rw [splitAll] at member
      split at member
      · rcases List.mem_cons.1 member with rfl | later
        · cases inside
        · exact List.mem_cons_of_mem _ (ih later inside)
      · split at member
        · next begun parts cut =>
          rcases List.mem_cons.1 member with rfl | later
          · rcases List.mem_cons.1 inside with rfl | inside
            · exact List.mem_cons_self
            · exact List.mem_cons_of_mem _ (ih (cut ▸ List.mem_cons_self) inside)
          · exact List.mem_cons_of_mem _ (ih (cut ▸ List.mem_cons_of_mem _ later) inside)
        · rw [List.mem_singleton.1 member] at inside
          rw [List.mem_singleton.1 inside]
          exact List.mem_cons_self

theorem mem_intercalate {between : List Char} : ∀ {parts : List (List Char)},
    c ∈ between.intercalate parts → c ∈ between ∨ ∃ part ∈ parts, c ∈ part
  | [], member => by simp at member
  | [part], member => .inr ⟨part, List.mem_singleton_self part, by simpa using member⟩
  | part :: next :: rest, member => by
      rw [List.intercalate_cons_cons, List.mem_append, List.mem_append] at member
      rcases member with (own | separator) | later
      · exact .inr ⟨part, List.mem_cons_self, own⟩
      · exact .inl separator
      · rcases mem_intercalate later with separator | ⟨other, listed, inside⟩
        · exact .inl separator
        · exact .inr ⟨other, List.mem_cons_of_mem _ listed, inside⟩

end Text

/-!
### The names in a path
-/

namespace Path

open TypedManifests.Text

/-- A name of a place: a segment that leads from a directory to one of its entries. -/
structure IsName (name : String) : Prop where
  unslashed : '/' ∉ name.toList
  nonempty : name ≠ ""
  ne_here : name ≠ "."
  ne_parent : name ≠ ".."

theorem IsName.isPlace {name : String} (named : IsName name) : isPlace name = true := by
  simp [Path.isPlace, named.nonempty, named.ne_here]

theorem unslashed_of_mem_segments {path segment : String} (member : segment ∈ segments path) :
    '/' ∉ segment.toList := by
  obtain ⟨part, listed, rfl⟩ := List.mem_map.1 member
  simpa using notMem_of_mem_splitAll listed

theorem segments_intercalate {names : List String} (nonempty : names ≠ [])
    (unslashed : ∀ name ∈ names, '/' ∉ name.toList) :
    segments (String.intercalate "/" names) = names := by
  have clean : ∀ part ∈ names.map String.toList, '/' ∉ part := by simpa using unslashed
  have cut : (List.intercalate ['/'] (names.map String.toList)).splitOn '/' =
      names.map String.toList := List.splitOn_intercalate '/' clean (by simpa using nonempty)
  rw [segments, splitAll_eq_splitOn, String.toList_intercalate]
  simpa [Function.comp_def] using congrArg (List.map String.ofList) cut

/-- A leading slash comes to an empty segment. -/
theorem segments_slash (path : String) : segments ("/" ++ path) = "" :: segments path := by
  simp [segments, splitAll]

/-- A path that begins at the top, spelled by names. -/
theorem segments_spelled {names : List String} (nonempty : names ≠ [])
    (named : ∀ name ∈ names, IsName name) : segments (ofNames "/" names) = "" :: names := by
  rw [ofNames, segments_slash,
    segments_intercalate nonempty fun name member => (named name member).unslashed]

/-- Segments that name places of their own, parents included, are read again as they are joined. -/
theorem names_joined {names : List String} (unslashed : ∀ name ∈ names, '/' ∉ name.toList)
    (places : ∀ name ∈ names, isPlace name = true) :
    Path.names (String.intercalate "/" names) = names := by
  by_cases nonempty : names = []
  · subst nonempty
    decide
  · rw [Path.names, segments_intercalate nonempty unslashed]
    exact List.filter_eq_self.2 places

theorem names_slash (path : String) : names ("/" ++ path) = names path := by
  rw [names, segments_slash, List.filter_cons_of_neg (by decide), names]

/-! An absolute path has no points left in it: what is taken back is never above the root. -/

/-- What one more name comes to, when those before it are names of places. -/
theorem isName_of_mem_step {done : List String} {name : String}
    (before : ∀ n ∈ done, IsName n) (unslashed : '/' ∉ name.toList)
    (place : isPlace name = true) : ∀ n ∈ cancelParents.step true done name, IsName n := by
  obtain ⟨nonempty, elsewhere⟩ : name ≠ "" ∧ name ≠ "." := by simpa [isPlace] using place
  unfold cancelParents.step
  split
  · next onward =>
    intro n member
    rcases List.mem_cons.1 member with rfl | member
    · exact ⟨unslashed, nonempty, elsewhere, onward⟩
    · exact before n member
  · split
    · simp
    · next last rest =>
      have onward : last ≠ ".." := (before last List.mem_cons_self).ne_parent
      rw [if_neg onward]
      exact fun n member => before n (List.mem_cons_of_mem _ member)

theorem isName_of_mem_cancelParents {path name : String}
    (member : name ∈ cancelParents true (names path)) : IsName name := by
  have fold : ∀ (rest done : List String), rest ⊆ names path → (∀ n ∈ done, IsName n) →
      ∀ n ∈ rest.foldl (cancelParents.step true) done, IsName n := by
    intro rest
    induction rest with
    | nil => exact fun done _ before => before
    | cons next rest ih =>
        intro done within before
        obtain ⟨segment, place⟩ := List.mem_filter.1 (within List.mem_cons_self)
        refine ih _ (fun n listed => within (List.mem_cons_of_mem _ listed)) ?_
        exact isName_of_mem_step before (unslashed_of_mem_segments segment) place
  exact fold (names path) [] (List.Subset.refl _) (by simp) name (List.mem_reverse.1 member)

theorem root_of_isAbsolute {path : String} (absolute : isAbsolute path = true) :
    root path = "/" ∨ root path = "//" := by
  have begins : path.toList.head? = some '/' := by simpa [isAbsolute] using absolute
  unfold root
  split
  · next none =>
    obtain ⟨rest, text⟩ := List.head?_eq_some_iff.1 begins
    simp [text] at none
  · exact .inr rfl
  · exact .inl rfl

theorem root_of_relative {path : String} (relative : isAbsolute path = false) : root path = "" := by
  have begins : path.toList.head? ≠ some '/' := by simpa [isAbsolute] using relative
  have none : path.toList.takeWhile (· = '/') = [] := by
    cases text : path.toList with
    | nil => rfl
    | cons c rest => simp_all
  simp [root, none]

/-- The root of a path makes no difference to its names. -/
theorem names_rooted (path : String) {names : List String}
    (unslashed : ∀ name ∈ names, '/' ∉ name.toList) (places : ∀ name ∈ names, isPlace name = true) :
    Path.names (ofNames (root path) names) = names := by
  have joined := names_joined unslashed places
  cases absolute : isAbsolute path with
  | false => rw [ofNames, root_of_relative absolute, String.empty_append, joined]
  | true =>
      rcases root_of_isAbsolute absolute with one | two
      · rw [ofNames, one, names_slash, joined]
      · have apart : "//" ++ String.intercalate "/" names =
            "/" ++ ("/" ++ String.intercalate "/" names) := by
          rw [← String.append_assoc]
          rfl
        rw [ofNames, two, apart, names_slash, names_slash, joined]

/-- The names of an absolute path that was made as short as possible. -/
theorem names_normalize {path : String} (absolute : isAbsolute path = true) :
    names (normalize path) = cancelParents true (names path) := by
  have named := fun name member => @isName_of_mem_cancelParents path name member
  have spelled := names_rooted path (fun name member => (named name member).unslashed)
    fun name member => (named name member).isPlace
  have nonempty : ofNames (root path) (cancelParents true (names path)) ≠ "" := by
    rcases root_of_isAbsolute absolute with one | two
    · simp [ofNames, one]
    · simp [ofNames, two]
  rw [normalize, absolute]
  simp only [nonempty, if_false, spelled]

theorem isAbsolute_append {start rest : String} (absolute : isAbsolute start = true) :
    isAbsolute (start ++ rest) = true := by
  simp_all [isAbsolute, List.head?_append]

theorem isAbsolute_join {directory entry : String} (absolute : isAbsolute directory = true) :
    isAbsolute (join directory entry) = true := by
  unfold join
  split
  · assumption
  · split
    · exact isAbsolute_append absolute
    · exact isAbsolute_append (isAbsolute_append absolute)

/-- A path begins at the top if its root is spelled out, and else it does not. -/
theorem isAbsolute_rooted (path : String) {names : List String}
    (unslashed : ∀ name ∈ names, '/' ∉ name.toList) (places : ∀ name ∈ names, isPlace name = true) :
    isAbsolute (ofNames (root path) names) = isAbsolute path := by
  cases absolute : isAbsolute path with
  | true =>
      apply isAbsolute_append
      rcases root_of_isAbsolute absolute with one | two
      · rw [one]
        decide
      · rw [two]
        decide
  | false =>
      rw [ofNames, root_of_relative absolute, String.empty_append, isAbsolute,
        String.toList_intercalate]
      cases names with
      | nil => rfl
      | cons name rest =>
          have clean := unslashed name List.mem_cons_self
          have begun : name.toList ≠ [] := by
            have nonempty : name ≠ "" := by
              rintro rfl
              exact absurd (places "" List.mem_cons_self) (by decide)
            simpa using nonempty
          obtain ⟨c, others, text⟩ := List.exists_cons_of_ne_nil begun
          have plain : c ≠ '/' := by
            rintro rfl
            exact clean (by simp [text])
          cases rest <;> simp [text, plain, List.intercalate]

theorem unslashed_of_mem_names {path name : String} (member : name ∈ names path) :
    '/' ∉ name.toList :=
  unslashed_of_mem_segments (List.mem_filter.1 member).1

theorem isPlace_of_mem_names {path name : String} (member : name ∈ names path) :
    isPlace name = true :=
  (List.mem_filter.1 member).2

/-- Only a path without names has no name at its end. -/
theorem names_eq_nil {path : String} (unnamed : baseName path = "") : names path = [] := by
  cases last : (names path).getLast? with
  | none => exact List.getLast?_eq_none_iff.1 last
  | some name =>
      have place : isPlace name = true := isPlace_of_mem_names (List.mem_of_getLast? last)
      obtain rfl : name = "" := by simpa [baseName, last] using unnamed
      exact absurd place (by decide)

/-- What is left out of a path says nothing of where it leads. -/
theorem tidy_spec (path : String) :
    names (tidy path) = names path ∧ isAbsolute (tidy path) = isAbsolute path := by
  have unslashed := fun name member => @unslashed_of_mem_names path name member
  have places := fun name member => @isPlace_of_mem_names path name member
  have spelled := names_rooted path unslashed places
  have begun := isAbsolute_rooted path unslashed places
  unfold tidy
  dsimp only
  split
  · next empty =>
    rw [empty] at spelled begun
    exact ⟨spelled, begun⟩
  · exact ⟨spelled, begun⟩

@[simp] theorem names_tidy (path : String) : names (tidy path) = names path := (tidy_spec path).1

@[simp] theorem isAbsolute_tidy (path : String) : isAbsolute (tidy path) = isAbsolute path :=
  (tidy_spec path).2

/-- What is put together from names of a path has its characters from there. -/
theorem mem_rooted {path : String} {listed : List String} (within : listed ⊆ names path) {c : Char}
    (member : c ∈ (ofNames (root path) listed).toList) : c = '/' ∨ c ∈ path.toList := by
  have slashes : c ∈ (root path).toList → c = '/' := by
    unfold root
    split <;> simp
  rw [ofNames, String.toList_append, List.mem_append, String.toList_intercalate] at member
  rcases member with start | joined
  · exact .inl (slashes start)
  · rcases mem_intercalate joined with separator | ⟨_, part, inside⟩
    · exact .inl (by simpa using separator)
    · obtain ⟨name, chosen, rfl⟩ := List.mem_map.1 part
      obtain ⟨segment, cut, rfl⟩ := List.mem_map.1 (List.mem_filter.1 (within chosen)).1
      exact .inr (mem_of_mem_splitAll cut (by simpa using inside))

theorem mem_tidy {path : String} {c : Char} (member : c ∈ (tidy path).toList) :
    c = '/' ∨ c = '.' ∨ c ∈ path.toList := by
  unfold tidy at member
  dsimp only at member
  split at member
  · exact .inr (.inl (by simpa using member))
  · exact (mem_rooted (List.Subset.refl _) member).imp_right .inr

theorem mem_parentOf {path : String} {c : Char} (member : c ∈ (parentOf path).toList) :
    c = '/' ∨ c = '.' ∨ c ∈ path.toList := by
  unfold parentOf at member
  dsimp only at member
  split at member
  · exact .inr (.inl (by simpa using member))
  · exact (mem_rooted (List.dropLast_subset _) member).imp_right .inr

/-- An absolute path is spelled by names of places. -/
theorem isName_of_mem_absolute {directory path name : String}
    (start : isAbsolute directory = true) (member : name ∈ names (absolute directory path)) :
    IsName name := by
  rw [absolute, names_normalize (isAbsolute_join start)] at member
  exact isName_of_mem_cancelParents member

end Path

/-!
### The place a path leads to
-/

namespace FileTree

theorem find?_append (tree : FileTree) (place rest : Place) :
    tree.find? (place ++ rest) = (tree.find? place).bind fun below => below.find? rest := by
  induction place generalizing tree with
  | nil => simp [find?]
  | cons name place ih =>
      cases tree with
      | file text => simp [find?]
      | directory entries =>
          rw [List.cons_append, find?, find?]
          cases entries.lookup name with
          | none => rfl
          | some below => exact ih below

/-- What is above something is a directory. -/
theorem find?_above {tree : FileTree} {place rest : Place} {name : String} {below : FileTree}
    (found : tree.find? (place ++ name :: rest) = some below) :
    ∃ entries, tree.find? place = some (.directory entries) := by
  rw [find?_append] at found
  obtain ⟨above, passed, found⟩ := Option.bind_eq_some_iff.1 found
  cases above with
  | file text => simp [find?] at found
  | directory entries => exact ⟨entries, passed⟩

end FileTree

namespace Workspace

open TypedManifests.Path

theorem isAbsolute_path (w : Workspace) : isAbsolute w.path = true := isAbsolute_append (by decide)

theorem isName_of_mem_absolute (w : Workspace) {path name : String}
    (member : name ∈ names (w.absolute path)) : IsName name :=
  Path.isName_of_mem_absolute w.isAbsolute_path member

/-- A name is followed from a directory to its entry. -/
theorem follow_name {tree : FileTree} {here place : Place} {name : String} {rest : List String}
    (named : IsName name) :
    follow tree here (name :: rest) = .ok place ↔
      (∃ entries, tree.find? here = some (.directory entries)) ∧
        follow tree (here ++ [name]) rest = .ok place := by
  rw [follow]
  split
  · next nothing => simp [nothing]
  · next text file => simp [file]
  · next entries isDirectory =>
    rw [if_neg (by simp [named.nonempty, named.ne_here]), if_neg named.ne_parent]
    simp [isDirectory]

section Spelled

variable {directory place : Place} {name : String}

/-- Names are followed down to an entry of a directory that is there. -/
theorem follow_names (tree : FileTree) (here : Place)
    (named : ∀ n ∈ directory ++ [name], IsName n) :
    follow tree here (directory ++ [name]) = .ok place ↔
      place = here ++ (directory ++ [name]) ∧
        ∃ entries, tree.find? (here ++ directory) = some (.directory entries) := by
  induction directory generalizing here with
  | nil =>
      rw [List.nil_append, follow_name (named name (by simp)), follow, List.append_nil]
      simp [eq_comm, and_comm]
  | cons next directory ih =>
      have below := ih (here ++ [next]) fun n member => named n (List.mem_cons_of_mem _ member)
      rw [List.append_assoc, List.append_assoc, List.singleton_append, List.singleton_append]
        at below
      rw [List.cons_append, follow_name (named next (by simp)), below]
      constructor
      · exact fun both => both.2
      · rintro ⟨rfl, entries, isDirectory⟩
        exact ⟨FileTree.find?_above isDirectory, rfl, entries, isDirectory⟩

variable {w : Workspace}

/-- A path from the top, spelled by names, leads to the place they spell, if that is in a directory
that is there, and else nowhere. -/
theorem locate_spelled (named : ∀ n ∈ directory ++ [name], IsName n) :
    w.locate (ofNames "/" (directory ++ [name])) = .ok place ↔
      place = directory ++ [name] ∧
        ∃ entries, w.tree.find? directory = some (.directory entries) := by
  have absolute : isAbsolute (ofNames "/" (directory ++ [name])) = true :=
    isAbsolute_append (by decide)
  have nonempty : ofNames "/" (directory ++ [name]) ≠ "" := by
    intro empty
    rw [empty] at absolute
    exact absurd absolute (by decide)
  rw [locate, if_neg nonempty, if_pos absolute, segments_spelled (by simp) named, follow]
  cases tree : w.tree with
  | file text =>
      -- no place has a directory at it
      cases directory <;> simp [FileTree.find?]
  | directory entries =>
      simpa [FileTree.find?] using follow_names (.directory entries) [] named

/-- A file can be written under a name in a directory: the directory is there, and what is there
under the name is no directory. -/
structure TakesFile (w : Workspace) (directory : Place) (name : String) : Prop where
  isDirectory : ∃ entries, w.tree.find? directory = some (.directory entries)
  isNoDirectory : ∀ entries, w.tree.find? (directory ++ [name]) ≠ some (.directory entries)

theorem write_spelled (named : ∀ n ∈ directory ++ [name], IsName n)
    (takes : w.TakesFile directory name) (text : String) :
    w.write (ofNames "/" (directory ++ [name])) text =
      .ok { w with tree := w.tree.put (directory ++ [name]) (.file text) } := by
  rw [write, (locate_spelled named).2 ⟨rfl, takes.isDirectory⟩]
  dsimp only
  split
  · next entries occupied => exact absurd occupied (takes.isNoDirectory entries)
  · rfl

theorem write_spelled_refused (named : ∀ n ∈ directory ++ [name], IsName n)
    (refuses : ¬ w.TakesFile directory name) (text : String) :
    ∃ fault, w.write (ofNames "/" (directory ++ [name])) text =
      .error ⟨fault, ofNames "/" (directory ++ [name]), none⟩ := by
  rw [write]
  cases located : w.locate (ofNames "/" (directory ++ [name])) with
  | error fault => exact ⟨fault, rfl⟩
  | ok place =>
      obtain ⟨rfl, isDirectory⟩ := (locate_spelled named).1 located
      -- the directory is there, so a directory is in the way of the file
      have occupied :
          ¬ ∀ entries, w.tree.find? (directory ++ [name]) ≠ some (.directory entries) :=
        fun free => refuses ⟨isDirectory, free⟩
      obtain ⟨entries, found⟩ := Classical.not_forall.1 occupied
      exact ⟨.isADirectory, by simp [Classical.not_not.1 found]⟩

end Spelled

end Workspace

end TypedManifests
