import ArithTokens.Command

/-!
# Files that are read as they were written

Files that are put under names into an empty directory in which a system is used are found there
again, each as it was written last, and nothing is found under any other name
(`IsName.read_write_all`): a name is one step down from the directory, and there is nothing else on
this step. The directory of a run is empty before its files are put there, so this is what a run
finds (`Invocation.read_name`).
-/

namespace ArithTokens

namespace FileSystem

/-- Says that a path is the name of something in the directory where it starts. -/
structure IsName (path : String) : Prop where
  no_slash : '/' ∉ path.toList
  not_empty : path ≠ ""
  not_here : path ≠ "."
  not_up : path ≠ ".."
  bytes_le : path.utf8ByteSize ≤ 255

instance (path : String) : Decidable (IsName path) :=
  decidable_of_iff
    ('/' ∉ path.toList ∧ path ≠ "" ∧ path ≠ "." ∧ path ≠ ".." ∧ path.utf8ByteSize ≤ 255)
    ⟨fun ⟨hslash, hempty, hhere, hup, hbytes⟩ => ⟨hslash, hempty, hhere, hup, hbytes⟩,
      fun h => ⟨h.no_slash, h.not_empty, h.not_here, h.not_up, h.bytes_le⟩⟩

/-- Says that there is a directory at a location, with nothing in it. -/
structure IsEmptyDirectory (system : FileSystem) (location : Location) : Prop where
  lookup_eq : system.entries.lookup location = some .directory
  nothing_below : ∀ entry ∈ system.entries, location <:+ entry.1 → entry.1 = location

/-- The entries of files at the ends of their paths from a location. -/
def fileEntries (location : Location) (files : List (String × ByteArray)) :
    List (Location × Node) :=
  files.map fun file => (location.behind file.1, .file file.2)

variable {path : String} {system : FileSystem} {location : Location}
  {files : List (String × ByteArray)}

/-! ## The way of a name -/

/-- A name is the only part of its path. -/
theorem IsName.path_parts_eq (h : IsName path) : pathParts path = [path.toList] :=
  List.splitOnP_eq_singleton fun _ hc => beq_eq_false_iff_ne.2 fun heq => h.no_slash (heq ▸ hc)

/-- A name leads one step down. -/
theorem IsName.descend_eq (h : IsName path) (location : Location) :
    location.descend path.toList = path.toList :: location := by
  have hempty : path.toList ≠ [] := fun hlist => h.not_empty (String.toList_eq_nil_iff.1 hlist)
  have hhere : path.toList ≠ ['.'] := fun hlist => h.not_here (String.toList_injective hlist)
  have hup : path.toList ≠ ['.', '.'] := fun hlist => h.not_up (String.toList_injective hlist)
  simp [Location.descend, hempty, hhere, hup]

/-- The location behind a name is one step down. -/
theorem IsName.behind_eq (h : IsName path) (location : Location) :
    location.behind path = path.toList :: location := by
  rw [Location.behind, h.path_parts_eq]
  exact h.descend_eq location

/-- A name leads from a directory to what stands there, if that is not a link. -/
theorem IsName.follow_eq (h : IsName path) (links : Nat)
    (hdirectory : system.node? location = some .directory)
    (hlink : ∀ target, system.node? (path.toList :: location) ≠ some (.link target)) :
    system.follow links location [path.toList] =
      system.follow links (path.toList :: location) [] := by
  have hshort : system.isTooLong location path.toList = false := by
    rw [isTooLong, String.ofList_toList, decide_eq_false (Nat.not_lt.2 h.bytes_le), Bool.false_and]
  rw [follow.eq_def]
  simp only [hdirectory, hshort, h.descend_eq, Bool.false_eq_true, ↓reduceIte]
  split
  · next hnode => exact absurd hnode (hlink _)
  · next hnode => exact absurd hnode (hlink _)
  · rfl

/-! ## Reading what has been written -/

/-- Written files stand in front of what was there, the last one first. -/
theorem write_all_eq (system : FileSystem) (files : List (String × ByteArray)) :
    system.writeAll files =
      { system with entries := (fileEntries system.home files).reverse ++ system.entries } := by
  induction files generalizing system with
  | nil => rfl
  | cons file files ih =>
    show (system.write file.1 file.2).writeAll files = _
    rw [ih, fileEntries, fileEntries, List.map_cons, List.reverse_cons, List.append_assoc]
    rfl

/-- Among files under names in a directory, a name leads to the file that has it. -/
theorem IsName.lookup_eq (h : IsName path) (hfiles : ∀ file ∈ files, IsName file.1)
    (location : Location) :
    (fileEntries location files).lookup (location.behind path) =
      (files.lookup path).map .file := by
  induction files with
  | nil => rfl
  | cons file files ih =>
    obtain ⟨hfile, hmore⟩ := List.forall_mem_cons.1 hfiles
    have hkey : (location.behind path == location.behind file.1) = (path == file.1) := by
      rw [h.behind_eq, hfile.behind_eq, Bool.eq_iff_iff, beq_iff_eq, beq_iff_eq, List.cons.injEq,
        String.toList_inj, and_iff_left rfl]
    rw [fileEntries, List.map_cons, List.lookup_cons, List.lookup_cons, hkey, ← fileEntries,
      ih hmore]
    cases path == file.1 with
    | true => rfl
    | false => rfl

/-- Nothing stands at a location that no entry is at or below. -/
theorem node_eq_none (hroot : location ≠ [])
    (h : ∀ entry ∈ system.entries, ¬ location <:+ entry.1) : system.node? location = none := by
  have hlookup : system.entries.lookup location = none := by
    refine List.lookup_eq_none_iff.2 fun entry hentry => bne_iff_ne.2 ?_
    intro heq
    exact h entry hentry (heq ▸ List.suffix_refl location)
  have hbelow : system.entries.any (fun entry => location.isSuffixOf entry.1) = false := by
    refine List.any_eq_false.2 fun entry hentry => ?_
    rw [List.isSuffixOf_iff_suffix]
    exact h entry hentry
  rw [node?, hlookup, hbelow]
  simp [hroot]

/-- The directory into which files are put stays one. -/
theorem node_write_all_home (hfiles : ∀ file ∈ files, IsName file.1)
    (hhome : system.IsEmptyDirectory system.home) :
    (system.writeAll files).node? system.home = some .directory := by
  have hwritten : (fileEntries system.home files).reverse.lookup system.home = none := by
    refine List.lookup_eq_none_iff.2 fun entry hentry => bne_iff_ne.2 ?_
    obtain ⟨file, hfile, rfl⟩ := List.mem_map.1 (List.mem_reverse.1 hentry)
    rw [(hfiles file hfile).behind_eq]
    exact (List.cons_ne_self _ _).symm
  rw [write_all_eq, node?, List.lookup_append, hwritten, hhome.lookup_eq]
  rfl

/-- In an empty directory into which files were put under names, a name leads to the file that was
put there last under it. -/
theorem IsName.node_write_all (h : IsName path) (hfiles : ∀ file ∈ files, IsName file.1)
    (hhome : system.IsEmptyDirectory system.home) :
    (system.writeAll files).node? (path.toList :: system.home) =
      (files.reverse.lookup path).map .file := by
  have hnames : ∀ file ∈ files.reverse, IsName file.1 :=
    fun file hfile => hfiles file (List.mem_reverse.1 hfile)
  have hwritten := h.lookup_eq hnames system.home
  rw [h.behind_eq, fileEntries, List.map_reverse, ← fileEntries] at hwritten
  cases hfile : files.reverse.lookup path with
  | some content =>
    rw [write_all_eq, node?, List.lookup_append, hwritten, hfile]
    rfl
  | none =>
    refine node_eq_none (List.cons_ne_nil _ _) fun entry hentry hbelow => ?_
    rw [write_all_eq, List.mem_append, List.mem_reverse] at hentry
    rcases hentry with hentry | hentry
    · -- The entry is that of a file of the same name.
      obtain ⟨file, hmem, rfl⟩ := List.mem_map.1 hentry
      rw [(hfiles file hmem).behind_eq] at hbelow
      have heq := List.IsSuffix.eq_of_length hbelow rfl
      have hother := List.lookup_eq_none_iff.1 hfile file (List.mem_reverse.2 hmem)
      exact bne_iff_ne.1 hother (String.toList_injective (List.cons.inj heq).1)
    · have hlocation := hhome.nothing_below entry hentry ((List.suffix_cons _ _).trans hbelow)
      rw [hlocation] at hbelow
      exact absurd hbelow.length_le (Nat.not_succ_le_self _)

/-- Files that were put under names into an empty directory where a system is used are read as they
were written last, and no other name can be read. -/
theorem IsName.read_write_all (h : IsName path) (hfiles : ∀ file ∈ files, IsName file.1)
    (hhome : system.IsEmptyDirectory system.home) :
    (system.writeAll files).read path =
      (files.reverse.lookup path).elim (.error .notFound) .ok := by
  have hnode := h.node_write_all hfiles hhome
  have hdirectory := node_write_all_home hfiles hhome
  have hrelative : path.toList.head? ≠ some '/' := fun hslash =>
    h.no_slash (List.mem_of_head? hslash)
  have hshort : ¬ 4096 ≤ path.utf8ByteSize := by
    have hbytes := h.bytes_le
    omega
  have hstart : (system.writeAll files).home = system.home := by rw [write_all_eq]
  have hlink : ∀ target, (system.writeAll files).node? (path.toList :: system.home) ≠
      some (.link target) := by
    intro target
    rw [hnode]
    cases files.reverse.lookup path with
    | none => exact nofun
    | some content => exact nofun
  rw [read, if_neg hshort, if_neg hrelative, hstart, h.path_parts_eq,
    h.follow_eq linkLimit hdirectory hlink, follow, hnode]
  cases files.reverse.lookup path with
  | none => rfl
  | some content => rfl

/-- The directory of a run is empty before its files are put there. -/
theorem standard_home_is_empty (input : ByteArray) :
    (standard input).IsEmptyDirectory (standard input).home where
  lookup_eq := rfl
  nothing_below := by
    -- What the standard input is makes no difference to the locations.
    have hlocations : (standard input).entries.map Prod.fst =
        (standard ByteArray.empty).entries.map Prod.fst := rfl
    have hall : ∀ location ∈ (standard ByteArray.empty).entries.map Prod.fst,
        temporaryHome.reverse <:+ location → location = temporaryHome.reverse := by
      decide +kernel
    intro entry hentry
    exact hall entry.1 (hlocations ▸ List.mem_map_of_mem hentry)

end FileSystem

namespace Invocation

variable {run : Invocation} {options : Options} {path : String}

/-- What a run whose files all have names reads under a name is the last file of this name. -/
theorem read_name (h : FileSystem.IsName path)
    (hfiles : ∀ file ∈ run.files, FileSystem.IsName file.1) :
    run.fileSystem.read path = (run.files.reverse.lookup path).elim (.error .notFound) .ok :=
  h.read_write_all hfiles (FileSystem.standard_home_is_empty run.input)

/-- If the options name a file, its bytes are those of the source. -/
theorem content_of_path (h : options.file? = some path) :
    run.content options = run.fileSystem.read path := by
  rw [content, Options.ofSource, h]

/-- If the options name no file, the bytes on standard input are those of the source. -/
theorem content_of_input (h : options.file? = none) : run.content options = .ok run.input := by
  rw [content, Options.ofSource, h]

/-- A run with one file, put under a name into the directory where it runs, has the bytes of the
file as its source if the options name it. -/
theorem content_of_file {bytes : ByteArray} (h : FileSystem.IsName path)
    (hfiles : run.files = [(path, bytes)]) (hoptions : options.file? = some path) :
    run.content options = .ok bytes := by
  have hnames : ∀ file ∈ run.files, FileSystem.IsName file.1 := by
    rw [hfiles]
    exact List.forall_mem_singleton.2 h
  rw [content_of_path hoptions, read_name h hnames, hfiles]
  simp

end Invocation

end ArithTokens
