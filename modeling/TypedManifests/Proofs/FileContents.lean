/-
Module: TypedManifests.Proofs.FileContents
Purpose: What files hold after one of them was written, moved or taken out, told place by place.
Main exports: FileTree.IsDirectory, FileTree.text?_put_of_apart, FileTree.remove_put,
  Workspace.place, Workspace.place_of_locate, Workspace.text?_write, Workspace.delete_write,
  Workspace.text?_move, Workspace.text?_provide
-/
import TypedManifests.Proofs.Places

/-!
A tree is changed by putting files into it and by taking them out. What matters to those who read it
is the text at each place, so each change is described by that: which text is at a place afterwards,
in terms of the texts before. A path is followed through directories that are there; it then leads
to the place that its names spell, which does not depend on the tree.
-/

namespace TypedManifests

namespace FileTree

variable {tree new : FileTree} {place p : Place} {name : String} {text : String}
  {entries : List (String × FileTree)}

/-- There is a directory at the place. -/
def IsDirectory (tree : FileTree) (place : Place) : Prop :=
  ∃ entries, tree.find? place = some (.directory entries)

/-!
### Entries
-/

theorem lookup_entry (entry : String × FileTree) (rest : List (String × FileTree)) (name : String) :
    (entry :: rest).lookup name = if name = entry.1 then some entry.2 else rest.lookup name := by
  obtain ⟨n, tree⟩ := entry
  rw [List.lookup_cons]
  by_cases same : name = n
  · simp [same]
  · simp [same, beq_false_of_ne same]

theorem lookup_setEntry (name : String) (new : FileTree) (entries : List (String × FileTree))
    (other : String) :
    (setEntry name new entries).lookup other =
      if other = name then some new else entries.lookup other := by
  induction entries with
  | nil => rw [setEntry, lookup_entry]
  | cons entry rest ih =>
      obtain ⟨n, tree⟩ := entry
      by_cases here : n = name
      · subst here
        rw [setEntry, if_pos rfl, lookup_entry, lookup_entry]
        by_cases same : other = n <;> simp [same]
      · rw [setEntry, if_neg here, lookup_entry, lookup_entry, ih]
        by_cases same : other = n
        · simp [same, here]
        · simp [same]

theorem lookup_filter (name : String) (entries : List (String × FileTree)) (other : String) :
    (entries.filter fun entry => entry.1 ≠ name).lookup other =
      if other = name then none else entries.lookup other := by
  induction entries with
  | nil => simp
  | cons entry rest ih =>
      obtain ⟨n, tree⟩ := entry
      by_cases here : n = name
      · subst here
        rw [List.filter_cons_of_neg (by simp), ih, lookup_entry]
        by_cases same : other = n <;> simp [same]
      · rw [List.filter_cons_of_pos (by simp [here]), lookup_entry, lookup_entry, ih]
        by_cases same : other = n
        · simp [same, here]
        · simp [same]

theorem setEntry_self (found : entries.lookup name = some tree) :
    setEntry name tree entries = entries := by
  induction entries with
  | nil => cases found
  | cons entry rest ih =>
      obtain ⟨n, below⟩ := entry
      rw [lookup_entry] at found
      by_cases here : n = name
      · subst here
        obtain rfl : below = tree := by simpa using found
        rw [setEntry, if_pos rfl]
      · have apart : name ≠ n := fun eq => here eq.symm
        rw [if_neg apart] at found
        rw [setEntry, if_neg here, ih found]

theorem setEntry_setEntry (old : FileTree) :
    setEntry name new (setEntry name old entries) = setEntry name new entries := by
  induction entries with
  | nil => simp [setEntry]
  | cons entry rest ih =>
      obtain ⟨n, below⟩ := entry
      by_cases here : n = name <;> simp [setEntry, here, ih]

/-- An entry that was not there is taken out again. -/
theorem filter_setEntry (absent : entries.lookup name = none) :
    ((setEntry name new entries).filter fun entry => entry.1 ≠ name) = entries := by
  induction entries with
  | nil => simp [setEntry]
  | cons entry rest ih =>
      obtain ⟨n, below⟩ := entry
      rw [lookup_entry] at absent
      by_cases here : name = n
      · simp [here] at absent
      · have apart : n ≠ name := fun eq => here eq.symm
        rw [if_neg here] at absent
        rw [setEntry, if_neg apart, List.filter_cons_of_pos (by simp [apart]), ih absent]

/-!
### Texts
-/

theorem find?_cons : (directory entries).find? (name :: place) =
    (entries.lookup name).bind fun below => below.find? place := by
  rw [find?]
  cases entries.lookup name <;> rfl

theorem text?_cons : (directory entries).text? (name :: place) =
    (entries.lookup name).bind fun below => below.text? place := by
  rw [text?, find?_cons]
  cases entries.lookup name <;> rfl

theorem text?_default (place : Place) : (default : FileTree).text? place = none := by
  cases place <;> rfl

theorem text?_eq_some : tree.text? place = some text ↔ tree.find? place = some (.file text) := by
  unfold text?
  split
  · next found => simp [found]
  · next found => simpa using found text

/-- Below what is no directory there is nothing. -/
theorem text?_below (noDirectory : ¬ tree.IsDirectory place) (below : place <+: p)
    (apart : p ≠ place) : tree.text? p = none := by
  obtain ⟨rest, rfl⟩ := below
  cases rest with
  | nil => simp at apart
  | cons name rest =>
      rw [text?, find?_append]
      cases found : tree.find? place with
      | none => rfl
      | some at' =>
          cases at' with
          | file text => rfl
          | directory entries => exact absurd ⟨entries, found⟩ noDirectory

/-!
### Putting a file
-/

/-- Nothing changes but at the place and below it. -/
theorem text?_put_of_apart (apart : ¬ place <+: p) :
    (tree.put place new).text? p = tree.text? p := by
  induction place generalizing tree p with
  | nil => exact absurd List.nil_prefix apart
  | cons name place ih =>
      cases tree with
      | file text => rfl
      | directory entries =>
          rw [put]
          cases p with
          | nil => rfl
          | cons n p =>
              rw [text?_cons, text?_cons, lookup_setEntry]
              by_cases same : n = name
              · subst same
                have deeper : ¬ place <+: p := fun inside =>
                  apart (List.cons_prefix_cons.2 ⟨rfl, inside⟩)
                rw [if_pos rfl, Option.bind_some, ih deeper]
                cases entries.lookup n with
                | none => exact text?_default p
                | some below => rfl
              · rw [if_neg same]

/-- Below a file that is put there is nothing. -/
theorem text?_put_below (below : place <+: p) (apart : p ≠ place) :
    (tree.put place (.file text)).text? p = none := by
  induction place generalizing tree p with
  | nil =>
      cases p with
      | nil => exact absurd rfl apart
      | cons n p => rfl
  | cons name place ih =>
      obtain ⟨rest, rfl⟩ := below
      cases tree with
      | file text => rfl
      | directory entries =>
          have apart' : place ++ rest ≠ place := fun eq => apart (congrArg (name :: ·) eq)
          rw [put, List.cons_append, text?_cons, lookup_setEntry, if_pos rfl, Option.bind_some]
          exact ih (List.prefix_append _ _) apart'

/-- In a directory that is there the file has the text that is put. -/
theorem text?_put_self (parent : tree.IsDirectory place) :
    (tree.put (place ++ [name]) (.file text)).text? (place ++ [name]) = some text := by
  induction place generalizing tree with
  | nil =>
      obtain ⟨entries, found⟩ := parent
      cases found
      rw [List.nil_append, put, text?_cons, lookup_setEntry, if_pos rfl]
      rfl
  | cons n place ih =>
      obtain ⟨entries, found⟩ := parent
      cases tree with
      | file text => simp [find?] at found
      | directory others =>
          rw [find?_cons] at found
          obtain ⟨below, entry, found⟩ := Option.bind_eq_some_iff.1 found
          rw [List.cons_append, put, text?_cons, lookup_setEntry, if_pos rfl, entry]
          exact ih ⟨entries, found⟩

/-- Directories stay directories. -/
theorem isDirectory_put (noDirectory : ¬ tree.IsDirectory place) (here : tree.IsDirectory p) :
    (tree.put place (.file text)).IsDirectory p := by
  induction place generalizing tree p with
  | nil =>
      -- the tree itself is no directory, so nothing in it is one
      cases tree with
      | directory entries => exact absurd ⟨entries, rfl⟩ noDirectory
      | file text =>
          obtain ⟨entries, found⟩ := here
          cases p <;> simp [find?] at found
  | cons name place ih =>
      cases tree with
      | file text => exact here
      | directory entries =>
          rw [put]
          cases p with
          | nil => exact ⟨_, rfl⟩
          | cons n p =>
              obtain ⟨inside, found⟩ := here
              rw [find?_cons] at found
              obtain ⟨below, entry, found⟩ := Option.bind_eq_some_iff.1 found
              unfold IsDirectory
              rw [find?_cons, lookup_setEntry]
              by_cases same : n = name
              · subst same
                rw [if_pos rfl, entry]
                apply ih _ ⟨inside, found⟩
                rintro ⟨others, occupied⟩
                exact noDirectory ⟨others, by rw [find?_cons, entry]; exact occupied⟩
              · rw [if_neg same, entry]
                exact ⟨inside, found⟩

/-!
### Taking a file out

A place is gone through name by name. At its last name the entry is taken out, before that the entry
is replaced by what is left of it.
-/

theorem remove_single : (directory entries).remove [name] =
    .directory (entries.filter fun entry => entry.1 ≠ name) := rfl

theorem remove_cons (more : place ≠ []) : (directory entries).remove (name :: place) =
    match entries.lookup name with
    | some below => .directory (setEntry name (below.remove place) entries)
    | none => .directory entries := by
  cases place with
  | nil => exact absurd rfl more
  | cons next place => rfl

/-- Nothing changes but at the place and below it. -/
theorem text?_remove_of_apart (apart : ¬ place <+: p) :
    (tree.remove place).text? p = tree.text? p := by
  induction place generalizing tree p with
  | nil => exact absurd List.nil_prefix apart
  | cons name place ih =>
      cases tree with
      | file text => cases place <;> rfl
      | directory entries =>
          by_cases more : place = []
          · subst more
            rw [remove_single]
            cases p with
            | nil => rfl
            | cons n p =>
                have other : n ≠ name := fun same =>
                  apart (List.cons_prefix_cons.2 ⟨same.symm, List.nil_prefix⟩)
                rw [text?_cons, text?_cons, lookup_filter, if_neg other]
          · rw [remove_cons more]
            cases entry : entries.lookup name with
            | none => rfl
            | some below =>
                cases p with
                | nil => rfl
                | cons n p =>
                    dsimp only
                    rw [text?_cons, text?_cons, lookup_setEntry]
                    by_cases same : n = name
                    · subst same
                      have deeper : ¬ place <+: p := fun inside =>
                        apart (List.cons_prefix_cons.2 ⟨rfl, inside⟩)
                      rw [if_pos rfl, entry, Option.bind_some, Option.bind_some, ih deeper]
                    · rw [if_neg same]

/-- What was taken out is gone, and all that was below it. -/
theorem text?_remove_inside (named : place ≠ []) (inside : place <+: p) :
    (tree.remove place).text? p = none := by
  induction place generalizing tree p with
  | nil => exact absurd rfl named
  | cons name place ih =>
      obtain ⟨rest, rfl⟩ := inside
      cases tree with
      | file text => cases place <;> rfl
      | directory entries =>
          rw [List.cons_append]
          by_cases more : place = []
          · subst more
            rw [remove_single, text?_cons, lookup_filter, if_pos rfl]
            rfl
          · rw [remove_cons more]
            cases entry : entries.lookup name with
            | none =>
                dsimp only
                rw [text?_cons, entry]
                rfl
            | some below =>
                dsimp only
                rw [text?_cons, lookup_setEntry, if_pos rfl]
                exact ih more (List.prefix_append _ _)

/-- Directories stay directories when a file is taken out. -/
theorem isDirectory_remove (noDirectory : ¬ tree.IsDirectory place) (here : tree.IsDirectory p) :
    (tree.remove place).IsDirectory p := by
  induction place generalizing tree p with
  | nil => exact here
  | cons name place ih =>
      cases tree with
      | file text => cases place <;> exact here
      | directory entries =>
          cases p with
          | nil =>
              by_cases more : place = []
              · subst more
                exact ⟨_, rfl⟩
              · rw [remove_cons more]
                cases entries.lookup name <;> exact ⟨_, rfl⟩
          | cons n p =>
              obtain ⟨inside, found⟩ := here
              rw [find?_cons] at found
              obtain ⟨below, entry, found⟩ := Option.bind_eq_some_iff.1 found
              have deeper (same : n = name) : ¬ below.IsDirectory place := by
                rintro ⟨others, occupied⟩
                subst same
                exact noDirectory ⟨others, by rw [find?_cons, entry]; exact occupied⟩
              unfold IsDirectory
              by_cases more : place = []
              · subst more
                rw [remove_single, find?_cons, lookup_filter]
                by_cases same : n = name
                · -- an entry that is taken out is a file, so no directory is below it
                  cases below with
                  | directory others => exact absurd ⟨others, rfl⟩ (deeper same)
                  | file text => cases p <;> simp [find?] at found
                · rw [if_neg same, entry]
                  exact ⟨inside, found⟩
              · rw [remove_cons more]
                cases taken : entries.lookup name with
                | none =>
                    dsimp only
                    rw [find?_cons, entry]
                    exact ⟨inside, found⟩
                | some old =>
                    dsimp only
                    rw [find?_cons, lookup_setEntry]
                    by_cases same : n = name
                    · subst same
                      cases entry.symm.trans taken
                      rw [if_pos rfl]
                      exact ih (deeper rfl) ⟨inside, found⟩
                    · rw [if_neg same, entry]
                      exact ⟨inside, found⟩

/-- A file that was not there and is taken out again leaves no trace. -/
theorem remove_put (parent : tree.IsDirectory place)
    (absent : tree.find? (place ++ [name]) = none) :
    (tree.put (place ++ [name]) new).remove (place ++ [name]) = tree := by
  induction place generalizing tree with
  | nil =>
      obtain ⟨entries, found⟩ := parent
      cases found
      rw [List.nil_append, find?_cons] at absent
      have none : entries.lookup name = none := by
        cases entry : entries.lookup name with
        | none => rfl
        | some below => simp [entry, find?] at absent
      rw [List.nil_append, put, remove_single, filter_setEntry none]
  | cons n place ih =>
      obtain ⟨entries, found⟩ := parent
      cases tree with
      | file text => simp [find?] at found
      | directory others =>
          rw [find?_cons] at found
          obtain ⟨below, entry, found⟩ := Option.bind_eq_some_iff.1 found
          rw [List.cons_append, find?_cons, entry] at absent
          rw [List.cons_append, put, remove_cons (by simp), lookup_setEntry, if_pos rfl, entry]
          dsimp only [Option.getD_some]
          rw [setEntry_setEntry, ih ⟨entries, found⟩ absent, setEntry_self entry]

end FileTree

namespace Workspace

open FileTree

variable {w w' : Workspace} {path target text : String} {spot p : Place}

/-!
### The place that a path spells
-/

/-- Where a name leads from a place. -/
def climb (here : Place) (name : String) : Place :=
  if name = ".." then here.dropLast else here ++ [name]

/-- The place where a path begins. -/
def origin (w : Workspace) (path : String) : Place :=
  if Path.isAbsolute path then [] else w.directory

/-- The place that a path spells, whatever is there. -/
def place (w : Workspace) (path : String) : Place :=
  (Path.names path).foldl climb (w.origin path)

theorem place_of_follow {tree : FileTree} {here : Place} {segments : List String}
    (reached : follow tree here segments = .ok spot) :
    spot = (segments.filter Path.isPlace).foldl climb here := by
  induction segments generalizing here with
  | nil =>
      cases reached
      rfl
  | cons segment rest ih =>
      rw [follow] at reached
      split at reached
      · cases reached
      · cases reached
      · split at reached
        · next skipped =>
          have noPlace : ¬ Path.isPlace segment = true := by
            rcases skipped with rfl | rfl
            · decide
            · decide
          rw [List.filter_cons_of_neg noPlace]
          exact ih reached
        · next named =>
          have isPlace : Path.isPlace segment = true := by
            rw [not_or] at named
            simp [Path.isPlace, named.1, named.2]
          rw [List.filter_cons_of_pos isPlace, List.foldl_cons]
          split at reached
          · next up => rw [climb, if_pos up, ih reached]
          · next down => rw [climb, if_neg down, ih reached]

/-- A path leads to the place that it spells, or nowhere. -/
theorem place_of_locate (reached : w.locate path = .ok spot) : spot = w.place path := by
  unfold locate at reached
  split at reached
  · cases reached
  · exact place_of_follow reached

/-- What a path leads to is a directory, or it would be an entry of one. -/
def Reached (tree : FileTree) (spot : Place) : Prop :=
  tree.IsDirectory spot ∨ ∃ parent name, spot = parent ++ [name] ∧ tree.IsDirectory parent

theorem reached_of_follow {tree : FileTree} {here : Place} {segments : List String}
    (reached : follow tree here segments = .ok spot) :
    (segments = [] ∧ spot = here) ∨ Reached tree spot := by
  induction segments generalizing here with
  | nil =>
      cases reached
      exact Or.inl ⟨rfl, rfl⟩
  | cons segment rest ih =>
      apply Or.inr
      rw [follow] at reached
      split at reached
      · cases reached
      · cases reached
      · next entries found =>
        have isDirectory : tree.IsDirectory here := ⟨entries, found⟩
        split at reached
        · rcases ih reached with ⟨_, rfl⟩ | further
          · exact Or.inl isDirectory
          · exact further
        · split at reached
          · rcases ih reached with ⟨_, rfl⟩ | further
            · -- what is above a directory is one
              apply Or.inl
              cases parts : here.reverse with
              | nil =>
                  have top : here = [] := by simpa using parts
                  rwa [top, List.dropLast_nil, ← top]
              | cons name above =>
                  have split : here = above.reverse ++ [name] := by
                    rw [← List.reverse_reverse here, parts, List.reverse_cons]
                  rw [split] at found
                  rw [split, List.dropLast_concat]
                  exact find?_above found
            · exact further
          · rcases ih reached with ⟨_, rfl⟩ | further
            · exact Or.inr ⟨here, segment, rfl, isDirectory⟩
            · exact further

theorem segments_ne_nil (path : String) : Path.segments path ≠ [] := by
  rw [Path.segments, Text.splitAll_eq_splitOn]
  simp

theorem reached_of_locate (reached : w.locate path = .ok spot) : Reached w.tree spot := by
  unfold locate at reached
  split at reached
  · cases reached
  · rcases reached_of_follow reached with ⟨empty, _⟩ | further
    · exact absurd empty (segments_ne_nil path)
    · exact further

/-- A path leads where it did if all directories are still there. -/
theorem locate_of_directories {tree : FileTree}
    (kept : ∀ here, w.tree.IsDirectory here → tree.IsDirectory here)
    (reached : w.locate path = .ok spot) : locate { w with tree } path = .ok spot := by
  have follows : ∀ (segments : List String) (here : Place),
      follow w.tree here segments = .ok spot → follow tree here segments = .ok spot := by
    intro segments
    induction segments with
    | nil => exact fun here reached => reached
    | cons segment rest ih =>
        intro here reached
        rw [follow] at reached
        split at reached
        · cases reached
        · cases reached
        · next entries found =>
          obtain ⟨others, still⟩ := kept here ⟨entries, found⟩
          rw [follow, still]
          dsimp only
          split at reached
          · next skipped =>
            rw [if_pos skipped]
            exact ih _ reached
          · next named =>
            rw [if_neg named]
            split at reached
            · next up =>
              rw [if_pos up]
              exact ih _ reached
            · next down =>
              rw [if_neg down]
              exact ih _ reached
  unfold locate at reached ⊢
  split at reached
  · cases reached
  · next nonempty =>
    rw [if_neg nonempty]
    exact follows _ _ reached

/-!
### Writing, taking out, moving
-/

/-- A file that is written into its directory is the only one that changes. -/
theorem text?_put_file {parent : Place} {name : String} (takes : w.TakesFile parent name) :
    (w.tree.put (parent ++ [name]) (.file text)).text? p =
      if p = parent ++ [name] then some text else w.tree.text? p := by
  have noDirectory : ¬ w.tree.IsDirectory (parent ++ [name]) := fun ⟨entries, found⟩ =>
    takes.isNoDirectory entries found
  by_cases here : p = parent ++ [name]
  · rw [if_pos here, here]
    exact text?_put_self takes.isDirectory
  · rw [if_neg here]
    by_cases inside : parent ++ [name] <+: p
    · rw [text?_put_below inside here, text?_below noDirectory inside here]
    · exact text?_put_of_apart inside

/-- A file is written where its path leads, into a directory that is there. -/
theorem write_ok (done : w.write path text = .ok w') :
    ∃ parent name, w.place path = parent ++ [name] ∧ w.TakesFile parent name ∧
      w.locate path = .ok (parent ++ [name]) ∧
      w' = { w with tree := w.tree.put (parent ++ [name]) (.file text) } := by
  unfold write at done
  cases located : w.locate path with
  | error fault => simp [located] at done
  | ok spot =>
      rw [located] at done
      dsimp only at done
      have noDirectory : ∀ entries, w.tree.find? spot ≠ some (.directory entries) := by
        intro entries occupied
        simp [occupied] at done
      rcases reached_of_locate located with ⟨entries, occupied⟩ | ⟨parent, name, rfl, isDirectory⟩
      · exact absurd occupied (noDirectory entries)
      · refine ⟨parent, name, (place_of_locate located).symm, ⟨isDirectory, noDirectory⟩, rfl, ?_⟩
        split at done
        · cases done
        · cases done
          rfl

theorem text?_write (done : w.write path text = .ok w') :
    w'.directory = w.directory ∧
      ∀ p, w'.tree.text? p = if p = w.place path then some text else w.tree.text? p := by
  obtain ⟨parent, name, spelled, takes, _, rfl⟩ := write_ok done
  constructor
  · rfl
  · intro p
    rw [spelled]
    exact text?_put_file takes

/-- A path that nothing could be written to leads to no file, or to one that cannot be taken out. -/
theorem delete_of_write_error {e : FileError} (refused : w.write path text = .error e) :
    w.has path = false ∨ ∃ fault, w.delete path = .error fault := by
  unfold write at refused
  cases located : w.locate path with
  | error fault =>
      apply Or.inl
      simp [has, find?, located]
  | ok spot =>
      rw [located] at refused
      dsimp only at refused
      split at refused
      · next entries occupied =>
        apply Or.inr
        exact ⟨_, by rw [delete, located]; simp only [occupied]; rfl⟩
      · cases refused

/-- A file that was not there is taken out again, and all is as before. -/
theorem delete_write (absent : w.tree.text? (w.place path) = none)
    (done : w.write path text = .ok w') : w'.has path = true ∧ w'.delete path = .ok w := by
  obtain ⟨parent, name, spelled, takes, located, rfl⟩ := write_ok done
  have noDirectory : ¬ w.tree.IsDirectory (parent ++ [name]) := fun ⟨entries, found⟩ =>
    takes.isNoDirectory entries found
  have still := locate_of_directories
    (fun here isDirectory => @isDirectory_put w.tree _ here text noDirectory isDirectory) located
  have nothing : w.tree.find? (parent ++ [name]) = none := by
    cases found : w.tree.find? (parent ++ [name]) with
    | none => rfl
    | some below =>
        cases below with
        | directory entries => exact absurd found (takes.isNoDirectory entries)
        | file old =>
            rw [spelled, text?_eq_some.2 found] at absent
            cases absent
  have written := text?_eq_some.1 (@text?_put_self w.tree parent name text takes.isDirectory)
  constructor
  · rw [has, find?, still]
    dsimp only
    rw [written]
    rfl
  · rw [delete, still]
    dsimp only
    rw [written]
    dsimp only
    rw [remove_put takes.isDirectory nothing]

/-- The texts of a tree in which a file was moved. -/
theorem text?_remove_put {tree : FileTree} {start parent : Place} {name : String}
    (isFile : tree.find? start = some (.file text)) (named : start ≠ [])
    (isDirectory : tree.IsDirectory parent) (free : ¬ tree.IsDirectory (parent ++ [name])) :
    ((tree.remove start).put (parent ++ [name]) (.file text)).text? p =
      if p = parent ++ [name] then some text else if p = start then none else tree.text? p := by
  have noDirectory : ¬ tree.IsDirectory start := by
    rintro ⟨entries, found⟩
    cases found.symm.trans isFile
  by_cases here : p = parent ++ [name]
  · rw [if_pos here, here]
    exact text?_put_self (isDirectory_remove noDirectory isDirectory)
  · rw [if_neg here]
    by_cases below : parent ++ [name] <+: p
    · rw [text?_put_below below here]
      split
      · rfl
      · exact (text?_below free below here).symm
    · rw [text?_put_of_apart below]
      by_cases inside : start <+: p
      · rw [text?_remove_inside named inside]
        split
        · rfl
        · next elsewhere => exact (text?_below noDirectory inside elsewhere).symm
      · have elsewhere : p ≠ start := by
          rintro rfl
          exact inside (List.prefix_refl _)
        rw [text?_remove_of_apart inside, if_neg elsewhere]

/-- A path that leads nowhere is not moved, nor is a file moved there. -/
theorem move_of_unlocated {fault : FileFault}
    (lost : w.locate path = .error fault ∨ w.locate target = .error fault) :
    ∃ e, w.move path target = .error e := by
  unfold move
  rcases lost with fromPath | toTarget
  · rw [fromPath]
    exact ⟨_, rfl⟩
  · rw [toTarget]
    cases w.locate path <;> exact ⟨_, rfl⟩

/-- A move between two places. -/
theorem move_of_located {start goal : Place} (fromPath : w.locate path = .ok start)
    (toTarget : w.locate target = .ok goal) :
    w.move path target =
      match w.tree.find? start with
      | none => .error ⟨.notFound, path, some target⟩
      | some (.directory _) => .error ⟨.isADirectory, path, some target⟩
      | some (.file text) =>
        if Path.lastSegment target = ".." then .error ⟨.busy, path, some target⟩
        else
          match w.tree.find? goal with
          | some (.directory _) => .error ⟨.isADirectory, path, some target⟩
          | _ => .ok { w with tree := (w.tree.remove start).put goal (.file text) } := by
  unfold move
  rw [fromPath, toTarget]
  rfl

/-- A file that is moved is gone where it was, and its text is where it was moved to. -/
theorem text?_move (done : w.move path target = .ok w') :
    ∃ text, w.tree.text? (w.place path) = some text ∧ w'.directory = w.directory ∧
      ∀ p, w'.tree.text? p =
        if p = w.place target then some text
        else if p = w.place path then none else w.tree.text? p := by
  cases fromPath : w.locate path with
  | error fault =>
    obtain ⟨e, refused⟩ := @move_of_unlocated w path target fault (Or.inl fromPath)
    cases refused.symm.trans done
  | ok start =>
    cases toTarget : w.locate target with
    | error fault =>
      obtain ⟨e, refused⟩ := @move_of_unlocated w path target fault (Or.inr toTarget)
      cases refused.symm.trans done
    | ok goal =>
      rw [move_of_located fromPath toTarget] at done
      rw [← place_of_locate fromPath, ← place_of_locate toTarget]
      split at done
      · cases done
      · cases done
      · next text found =>
        split at done
        · cases done
        · have free : ¬ w.tree.IsDirectory goal := by
            rintro ⟨entries, occupied⟩
            simp [occupied] at done
          have named : start ≠ [] := by
            rintro rfl
            rcases reached_of_locate fromPath with ⟨entries, top⟩ | ⟨parent, name, split, _⟩
            · cases found.symm.trans top
            · simp at split
          rcases reached_of_locate toTarget with occupied | ⟨parent, name, rfl, isDirectory⟩
          · exact absurd occupied free
          · refine ⟨text, text?_eq_some.2 found, ?_⟩
            have moved : w' = { w with
                tree := (w.tree.remove start).put (parent ++ [name]) (.file text) } := by
              split at done
              · cases done
              · cases done
                rfl
            subst moved
            exact ⟨rfl, fun p => text?_remove_put found named isDirectory free⟩

/-!
### What commands write
-/

/-- The place where a command writes the file of a path. -/
def writtenPlace (w : Workspace) (path : String) : Place := Path.names (w.absolute path)

theorem tree_provide (w : Workspace) (path text : String) :
    (w.provide path text).tree = w.tree.put (w.writtenPlace path) (.file text) := by
  simp only [provide, writtenPlace]

theorem directory_provide (w : Workspace) (path text : String) :
    (w.provide path text).directory = w.directory := by
  simp only [provide]

/-- What a command writes changes nothing but at its place and below it. -/
theorem text?_provide (apart : ¬ w.writtenPlace path <+: p) :
    (w.provide path text).tree.text? p = w.tree.text? p := by
  rw [tree_provide, text?_put_of_apart apart]

/-- Where there was no file there is none after a command wrote another one. -/
theorem text?_provide_none (absent : w.tree.text? p = none) (apart : p ≠ w.writtenPlace path) :
    (w.provide path text).tree.text? p = none := by
  by_cases inside : w.writtenPlace path <+: p
  · rw [tree_provide, text?_put_below inside apart]
  · rw [text?_provide inside, absent]

end Workspace

end TypedManifests
