/-
Module: TypedManifests.Proofs.Replacement
Purpose: A file is replaced whole or not at all: what the two ways of replacing one come to in a
  world, for the file, for the temporary file beside it, and for all other files.
Main exports: Run.start_putInPlace, Run.putInPlace_done, Workspace.pendingPlace,
  Run.replaceFile_whole, Run.replaceFile_done, Run.addBanner_whole
-/
import TypedManifests.Proofs.FileContents
import TypedManifests.Proofs.RunSteps

/-!
A text is written beside the file that it is for, and then moved there. Either both succeed, and
then the file has the text and nothing else has changed; or one of them fails, and then the text
that was written is taken away again and all is as before. This needs that there was no file where
the text is written first. A generated file gets its banner through a name that nothing has; any
other file is replaced through a name made of its own, and there a file could be.
-/

namespace TypedManifests

/-!
### Names beside a path
-/

namespace Path

theorem unslashed_append {a b : String} (first : '/' ∉ a.toList) (second : '/' ∉ b.toList) :
    '/' ∉ (a ++ b).toList := by
  rw [String.toList_append, List.mem_append, not_or]
  exact ⟨first, second⟩

theorem unslashed_baseName (path : String) : '/' ∉ (baseName path).toList := by
  unfold baseName
  cases last : (names path).getLast? with
  | none => simp
  | some name => exact unslashed_of_mem_names (List.mem_of_getLast? last)

/-- The last name of a path is exchanged for another one. -/
theorem names_beside (path : String) {name : String} (unslashed : '/' ∉ name.toList)
    (named : isPlace name = true) :
    names (ofNames (root path) ((names path).dropLast ++ [name])) =
        (names path).dropLast ++ [name] ∧
      isAbsolute (ofNames (root path) ((names path).dropLast ++ [name])) = isAbsolute path := by
  have parts : ∀ n ∈ (names path).dropLast ++ [name], '/' ∉ n.toList ∧ isPlace n = true := by
    intro n member
    rcases List.mem_append.1 member with above | last
    · have inPath := List.dropLast_subset _ above
      exact ⟨unslashed_of_mem_names inPath, isPlace_of_mem_names inPath⟩
    · rw [List.mem_singleton.1 last]
      exact ⟨unslashed, named⟩
  constructor
  · exact names_rooted path (fun n member => (parts n member).1) fun n member => (parts n member).2
  · exact isAbsolute_rooted path (fun n member => (parts n member).1)
      fun n member => (parts n member).2

end Path

namespace Workspace

variable {w : Workspace}

@[simp] theorem place_tidy (w : Workspace) (path : String) :
    w.place (Path.tidy path) = w.place path := by
  simp [place, origin]

/-- The place of a path beside another one. -/
theorem place_beside (w : Workspace) (path : String) {name : String}
    (unslashed : '/' ∉ name.toList) (named : Path.isPlace name = true) (down : name ≠ "..") :
    w.place (Path.ofNames (Path.root path) ((Path.names path).dropLast ++ [name])) =
      (Path.names path).dropLast.foldl climb (w.origin path) ++ [name] := by
  obtain ⟨names, absolute⟩ := Path.names_beside path unslashed named
  rw [place, names, origin, absolute, List.foldl_append, List.foldl_cons, List.foldl_nil, climb,
    if_neg down]
  rfl

/-- The place of the temporary file that a file is replaced through. -/
def pendingPlace (w : Workspace) (path : String) : Place :=
  w.place (Run.besidePath (Path.tidy path) Run.pendingEnding)

/-- A temporary file has its own ending. -/
theorem pendingPlace_eq (w : Workspace) (path : String) :
    ∃ parent, w.pendingPlace path = parent ++ [Path.baseName path ++ Run.pendingEnding] := by
  have base : Path.baseName (Path.tidy path) = Path.baseName path := by simp [Path.baseName]
  have unslashed := Path.unslashed_append (Path.unslashed_baseName path)
    (by decide : '/' ∉ Run.pendingEnding.toList)
  have long : 14 ≤ (Path.baseName path ++ Run.pendingEnding).length := by
    rw [String.length_append]
    have : Run.pendingEnding.length = 14 := by decide
    omega
  have apart (short : String) (few : short.length < 14) :
      Path.baseName path ++ Run.pendingEnding ≠ short := by
    rintro rfl
    omega
  have named : Path.isPlace (Path.baseName path ++ Run.pendingEnding) = true := by
    simp [Path.isPlace, apart "" (by decide), apart "." (by decide)]
  rw [pendingPlace, Run.besidePath, base,
    place_beside w (Path.tidy path) unslashed named (apart ".." (by decide))]
  exact ⟨_, rfl⟩

end Workspace

/-!
### Writing beside and moving
-/

namespace Run

variable {w : World} {pending path text : String} {refusal : FileError → RunError}

/-- Nothing is taken away if nothing was written. -/
theorem start_abandon_of_refused {cause : FileError}
    (refused : w.files.write pending text = .error cause) (e : RunError) :
    ∃ fault, (abandon pending e : Run Unit).start w = (.error fault, w) := by
  unfold abandon
  rw [start_bind, start_files]
  dsimp only
  rcases Workspace.delete_of_write_error refused with none | ⟨fault, kept⟩
  · rw [none, if_neg Bool.false_ne_true]
    exact ⟨e, rfl⟩
  · split
    · rw [start_bind, start_files]
      dsimp only
      rw [start_bind, kept]
      exact ⟨_, rfl⟩
    · exact ⟨e, rfl⟩

/-- What was written is taken away, and all is as before. -/
theorem start_abandon_of_written {files : Workspace}
    (absent : w.files.tree.text? (w.files.place pending) = none)
    (written : w.files.write pending text = .ok files) (e : RunError) :
    (abandon pending e : Run Unit).start { w with files } = (.error e, w) := by
  obtain ⟨there, taken⟩ := Workspace.delete_write absent written
  unfold abandon
  rw [start_bind, start_files]
  dsimp only
  rw [if_pos there, start_bind, start_files]
  dsimp only
  rw [start_bind, taken]
  rfl

/-- A text that is written and then moved is in its place, and nothing is left where it was written
first. -/
theorem text?_putInPlace {files moved : Workspace}
    (written : w.files.write pending text = .ok files)
    (inPlace : files.move pending path = .ok moved) :
    moved.directory = w.files.directory ∧
      ∀ p, moved.tree.text? p =
        if p = w.files.place path then some text
        else if p = w.files.place pending then none else w.files.tree.text? p := by
  obtain ⟨directory, texts⟩ := Workspace.text?_write written
  obtain ⟨text', taken, directory', texts'⟩ := Workspace.text?_move inPlace
  have same (p : String) : files.place p = w.files.place p := by
    simp [Workspace.place, Workspace.origin, directory]
  rw [same, texts, if_pos rfl] at taken
  cases taken
  constructor
  · exact directory'.trans directory
  · intro p
    rw [texts', same, same, texts]
    split
    · rfl
    · split
      · rfl
      · rfl

/-- A text is put in place, and then nothing is left where it was written first; or the world is as
before. -/
theorem start_putInPlace (absent : w.files.tree.text? (w.files.place pending) = none) :
    (∃ e, (putInPlace pending path text refusal).start w = (.error e, w)) ∨
      ∃ files, (putInPlace pending path text refusal).start w = (.ok (), { w with files }) ∧
        files.directory = w.files.directory ∧
        ∀ p, files.tree.text? p =
          if p = w.files.place path then some text
          else if p = w.files.place pending then none else w.files.tree.text? p := by
  unfold putInPlace
  rw [start_bind, start_files]
  dsimp only
  cases written : w.files.write pending text with
  | error cause =>
      obtain ⟨fault, run⟩ := start_abandon_of_refused written (refusal cause)
      exact Or.inl ⟨fault, run⟩
  | ok files =>
      dsimp only
      rw [start_bind, start_setFiles]
      dsimp only
      rw [start_bind, start_files]
      dsimp only
      cases moved : files.move pending path with
      | error cause =>
          exact Or.inl ⟨_, start_abandon_of_written absent written (refusal cause)⟩
      | ok others => exact Or.inr ⟨others, rfl, text?_putInPlace written moved⟩

theorem abandon_ne_ok {e : RunError} {w' : World} :
    (abandon pending e : Run Unit).start w ≠ (.ok (), w') := by
  unfold abandon
  rw [start_bind, start_files]
  dsimp only
  split
  · rw [start_bind, start_files]
    dsimp only
    rw [start_bind]
    cases w.files.delete pending <;> simp [start_bind]
  · simp

/-- A text that is put in place, even over another one that was at the place where it is written
first. -/
theorem putInPlace_done {w' : World}
    (done : (putInPlace pending path text refusal).start w = (.ok (), w')) :
    ∃ files, w' = { w with files } ∧ files.directory = w.files.directory ∧
      ∀ p, files.tree.text? p =
        if p = w.files.place path then some text
        else if p = w.files.place pending then none else w.files.tree.text? p := by
  unfold putInPlace at done
  rw [start_bind, start_files] at done
  dsimp only at done
  cases written : w.files.write pending text with
  | error cause =>
      rw [written] at done
      exact absurd done abandon_ne_ok
  | ok files =>
      rw [written] at done
      dsimp only at done
      rw [start_bind, start_setFiles] at done
      dsimp only at done
      rw [start_bind, start_files] at done
      dsimp only at done
      cases moved : files.move pending path with
      | error cause =>
          rw [moved] at done
          exact absurd done abandon_ne_ok
      | ok others =>
          rw [moved] at done
          cases done
          exact ⟨others, rfl, text?_putInPlace written moved⟩

/-!
### Replacing
-/

/-- A file is put in place, or the replacing fails before anything is done. -/
theorem start_replaceFile (w : World) (path : Value) (text : String) :
    (∃ e, (replaceFile path text).start w = (.error e, w)) ∨
      ∃ given, path = .text given ∧
        (replaceFile path text).start w =
          (putInPlace (besidePath (Path.tidy given) pendingEnding) (Path.tidy given) text
            .notReplaced).start w := by
  unfold replaceFile
  rw [start_bind]
  cases path with
  | text given =>
      rw [Value.asPath, start_ofExcept_ok]
      dsimp only
      split
      · exact Or.inl ⟨_, rfl⟩
      · rw [start_bind, start_files]
        dsimp only
        split
        · exact Or.inl ⟨_, rfl⟩
        · split
          · exact Or.inl ⟨_, rfl⟩
          · split
            · exact Or.inl ⟨_, rfl⟩
            · exact Or.inr ⟨given, rfl, rfl⟩
  | _ => exact Or.inl ⟨_, rfl⟩

/-- A file is replaced whole, or the world is as before, if there is no file where its text is
written first. -/
theorem replaceFile_whole {path : Value} (text : String)
    (absent : ∀ given, path = .text given →
      w.files.tree.text? (w.files.pendingPlace given) = none) :
    (∃ e, (replaceFile path text).start w = (.error e, w)) ∨
      ∃ given files, path = .text given ∧
        (replaceFile path text).start w = (.ok (), { w with files }) ∧
        files.directory = w.files.directory ∧
        ∀ p, files.tree.text? p =
          if p = w.files.place given then some text else w.files.tree.text? p := by
  rcases start_replaceFile w path text with failed | ⟨given, rfl, run⟩
  · exact Or.inl failed
  · rw [run]
    have free := absent given rfl
    rcases @start_putInPlace w _ (Path.tidy given) text .notReplaced free with
      failed | ⟨files, run, directory, texts⟩
    · exact Or.inl failed
    · refine Or.inr ⟨given, files, rfl, run, directory, fun p => ?_⟩
      rw [texts, Workspace.place_tidy]
      split
      · rfl
      · split
        · next pending =>
          rw [pending]
          exact free.symm
        · rfl

/-- A file that is replaced has its text, and where this was written first there is none. -/
theorem replaceFile_done {path : Value} {w' : World}
    (done : (replaceFile path text).start w = (.ok (), w')) :
    ∃ given files, path = .text given ∧ w' = { w with files } ∧
      files.directory = w.files.directory ∧
      ∀ p, files.tree.text? p =
        if p = w.files.place given then some text
        else if p = w.files.pendingPlace given then none else w.files.tree.text? p := by
  rcases start_replaceFile w path text with ⟨e, failed⟩ | ⟨given, rfl, run⟩
  · cases failed.symm.trans done
  · obtain ⟨files, rfl, directory, texts⟩ := putInPlace_done (run.symm.trans done)
    rw [Workspace.place_tidy] at texts
    exact ⟨given, files, rfl, rfl, directory, texts⟩

end Run

/-!
### The banner
-/

namespace FileTree

theorem mem_namesOf {entries : List (String × FileTree)} {name : String} {tree : FileTree}
    (entry : (name, tree) ∈ entries) : name ∈ namesOf entries ∧ tree.names ⊆ namesOf entries := by
  induction entries with
  | nil => cases entry
  | cons first rest ih =>
      obtain ⟨n, below⟩ := first
      rw [namesOf]
      rcases List.mem_cons.1 entry with same | later
      · cases same
        exact ⟨List.mem_cons_self,
          fun x inside => List.mem_cons_of_mem _ (List.mem_append_left _ inside)⟩
      · obtain ⟨named, others⟩ := ih later
        exact ⟨List.mem_cons_of_mem _ (List.mem_append_right _ named),
          fun x inside => List.mem_cons_of_mem _ (List.mem_append_right _ (others inside))⟩

/-- The names on the way to what is there are names of the tree. -/
theorem mem_names_of_find? {tree below : FileTree} {place : Place} {name : String}
    (found : tree.find? place = some below) (member : name ∈ place) : name ∈ tree.names := by
  induction place generalizing tree with
  | nil => cases member
  | cons n place ih =>
      cases tree with
      | file text => simp [find?] at found
      | directory entries =>
          rw [find?_cons] at found
          obtain ⟨inside, entry, found⟩ := Option.bind_eq_some_iff.1 found
          obtain ⟨_, _, split, _⟩ := List.lookup_eq_some_iff.1 entry
          obtain ⟨named, others⟩ := mem_namesOf (by simp [split] : (n, inside) ∈ entries)
          rcases List.mem_cons.1 member with rfl | deeper
          · exact named
          · exact others (ih found deeper)

end FileTree

namespace Run

theorem length_freshName (taken : List String) :
    (freshName taken).length = 9 + (taken.flatMap String.toList).length := by
  have start : temporaryStart.length = 9 := by decide
  rw [freshName, String.length_append, start, String.length_ofList, List.length_replicate]

/-- The name is longer than each that is taken. -/
theorem freshName_notMem (taken : List String) : freshName taken ∉ taken := by
  intro member
  have within := (List.sublist_flatten_of_mem (List.mem_map_of_mem member :
    (freshName taken).toList ∈ taken.map String.toList)).length_le
  have long := length_freshName taken
  rw [List.flatMap_def, ← String.length_toList] at long
  omega

theorem unslashed_freshName (taken : List String) : '/' ∉ (freshName taken).toList := by
  apply Path.unslashed_append
  · decide
  · simp

/-- There is no file under the name that the banner is written under. -/
theorem text?_freshPath (files : Workspace) (path : String) :
    files.tree.text? (files.place (freshPath files.tree path)) = none := by
  have long := length_freshName files.tree.names
  have apart (short : String) (few : short.length < 9) : freshName files.tree.names ≠ short := by
    rintro rfl
    omega
  have named : Path.isPlace (freshName files.tree.names) = true := by
    simp [Path.isPlace, apart "" (by decide), apart "." (by decide)]
  have spelled := files.place_beside path (unslashed_freshName _) named (apart ".." (by decide))
  rw [freshPath, spelled, FileTree.text?]
  split
  · next text found =>
    have taken := FileTree.mem_names_of_find? found (List.mem_append_right _ List.mem_cons_self)
    exact absurd taken (freshName_notMem _)
  · rfl

theorem start_readFile (path : String) (w : World) :
    (readFile path).start w =
      match w.files.read path with
      | .ok text => (.ok (Text.asRead text), w)
      | .error e => (.error (.file e), w) := by
  unfold readFile
  rw [start_bind, start_files]
  dsimp only
  rw [start_bind]
  cases w.files.read path <;> rfl

theorem text?_of_read {files : Workspace} {path text : String} (read : files.read path = .ok text) :
    files.tree.text? (files.place path) = some text := by
  unfold Workspace.read at read
  cases located : files.locate path with
  | error fault => simp [located] at read
  | ok spot =>
      rw [located] at read
      dsimp only at read
      rw [← Workspace.place_of_locate located]
      split at read
      · next found =>
        cases read
        exact FileTree.text?_eq_some.2 found
      · cases read
      · cases read

/-- A file gets its banner, or the world is as before. -/
theorem addBanner_whole (w : World) (path : Value) (banner : String) :
    (∃ e, (addBanner path banner).start w = (.error e, w)) ∨
      ∃ given old files, path = .text given ∧
        w.files.tree.text? (w.files.place given) = some old ∧
        (addBanner path banner).start w = (.ok (), { w with files }) ∧
        files.directory = w.files.directory ∧
        ∀ p, files.tree.text? p =
          if p = w.files.place given then some (banner ++ Text.asRead old)
          else w.files.tree.text? p := by
  unfold addBanner
  rw [start_bind]
  cases path with
  | text given =>
      rw [Value.asPath, start_ofExcept_ok]
      dsimp only
      split
      · exact Or.inl ⟨_, rfl⟩
      · rw [start_bind, start_readFile]
        cases read : w.files.read (Path.tidy given) with
        | error e => exact Or.inl ⟨_, rfl⟩
        | ok old =>
            dsimp only
            rw [start_bind, start_files]
            dsimp only
            have there := text?_of_read read
            have fresh := text?_freshPath w.files (Path.tidy given)
            rw [Workspace.place_tidy] at there
            rcases @start_putInPlace w _ (Path.tidy given) (banner ++ Text.asRead old) .file
              fresh with failed | ⟨files, run, directory, texts⟩
            · exact Or.inl failed
            · refine Or.inr ⟨given, old, files, rfl, there, run, directory, fun p => ?_⟩
              rw [texts, Workspace.place_tidy]
              split
              · rfl
              · split
                · next same =>
                  rw [same]
                  exact fresh.symm
                · rfl
  | _ => exact Or.inl ⟨_, rfl⟩

end Run

end TypedManifests
