import ArithTokens.Options

/-!
# Choices of arguments

An argument of the command is an option or the name of a file. `Choices.Of` says that what is chosen
is what some arguments say, no kind of which is there twice. Arguments have no other choices
(`Choices.Of.eq`), an argument that can be added is one more choice (`Choices.Of.add`), and the
arguments that have choices together can be added in turn (`Choices.Of.exists_add`).
-/

namespace ArithTokens

/-! ## Arguments -/

/-- The name of a form. -/
def Format.name : Format → String
  | .text => "text"
  | .json => "json"

/-- A name denotes a form exactly if it is that form's name. -/
theorem Format.of_name_eq_some_iff {name : String} {format : Format} :
    ofName? name = some format ↔ name = format.name := by
  constructor
  · intro h
    unfold ofName? at h
    split at h
    · next htext =>
      cases h
      exact htext
    · split at h
      · next hjson =>
        cases h
        exact hjson
      · cases h
  · rintro rfl
    cases format <;> rfl

/-- An argument of the command. The form of printing stands in the word of its option or in the next
one. -/
inductive Argument where
  | plain
  | format (attached : Bool) (form : Format)
  | file (name : String)
deriving DecidableEq, Repr

namespace Argument

/-- The words of an argument. -/
def words : Argument → List String
  | .plain => ["--plain"]
  | .format true form => ["--format=" ++ form.name]
  | .format false form => ["--format", form.name]
  | .file name => [name]

/-- The form of printing that an argument chooses. -/
def format? : Argument → Option Format
  | .format _ form => some form
  | _ => none

/-- The file that an argument names. -/
def file? : Argument → Option String
  | .file name => some name
  | _ => none

/-- Says that the name of a file does not look like an option: it is a dash or does not start with
one, and it is not empty. -/
def isWritten : Argument → Bool
  | .file name => name ≠ "" && (name = "-" || name.toList.head? ≠ some '-')
  | _ => true

end Argument

/-! ## What they choose -/

/-- A list of at most one element is its head. -/
theorem head_to_list {α : Type} {list : List α} (h : list.length ≤ 1) :
    list.head?.toList = list := by
  cases list with
  | nil => rfl
  | cons a rest =>
    obtain rfl : rest = [] := List.length_eq_zero_iff.1 (Nat.le_zero.1 (Nat.le_of_succ_le_succ h))
    rfl

namespace Choices

/-- What is chosen after one more argument. -/
def add (choices : Choices) : Argument → Except UsageError Choices
  | .plain => choices.addPlain
  | .format _ form => choices.addFormat form.name
  | .file name => choices.addFile name

/-- Says that these are the choices of some arguments, no kind of which is there twice. -/
structure Of (choices : Choices) (arguments : List Argument) : Prop where
  files_eq : arguments.filterMap Argument.file? = choices.file?.toList
  formats_eq : arguments.filterMap Argument.format? = choices.format?.toList
  plains_eq : arguments.count .plain = choices.plain.toNat

variable {choices next : Choices} {arguments : List Argument} {argument : Argument}

/-- Without arguments nothing is chosen. -/
theorem none_of_nil : none.Of [] := ⟨rfl, rfl, rfl⟩

/-- The choices of some arguments, if no kind of them is there twice. -/
def ofArguments (arguments : List Argument) : Choices where
  file? := (arguments.filterMap Argument.file?).head?
  format? := (arguments.filterMap Argument.format?).head?
  plain := arguments.contains .plain

/-- If no kind of argument is there twice, then the arguments have choices. -/
theorem of_arguments (hfile : (arguments.filterMap Argument.file?).length ≤ 1)
    (hformat : (arguments.filterMap Argument.format?).length ≤ 1)
    (hplain : arguments.count .plain ≤ 1) : (ofArguments arguments).Of arguments where
  files_eq := (head_to_list hfile).symm
  formats_eq := (head_to_list hformat).symm
  plains_eq := by
    show _ = (arguments.contains .plain).toNat
    by_cases hmem : Argument.plain ∈ arguments
    · have hpos := List.count_pos_iff.2 hmem
      rw [List.contains_iff_mem.2 hmem]
      exact Nat.le_antisymm hplain hpos
    · rw [List.count_eq_zero_of_not_mem hmem]
      simp [hmem]

/-- Arguments have no other choices. -/
theorem Of.eq (h : choices.Of arguments) : choices = ofArguments arguments := by
  obtain ⟨file?, format?, plain⟩ := choices
  have hplain : arguments.contains .plain = plain := by
    have hcount := h.plains_eq
    cases plain with
    | false => simpa [List.count_eq_zero] using hcount
    | true =>
      have hpos : 0 < arguments.count .plain := hcount.symm ▸ Nat.one_pos
      exact List.contains_iff_mem.2 (List.count_pos_iff.1 hpos)
  rw [ofArguments, h.files_eq, h.formats_eq, hplain, Option.head?_toList, Option.head?_toList]

/-- Plain reports can be chosen if they are not yet. -/
theorem add_plain_eq_ok_iff :
    choices.add .plain = .ok next ↔
      choices.plain = false ∧ next = { choices with plain := true } := by
  show choices.addPlain = _ ↔ _
  rw [addPlain]
  cases choices.plain with
  | false => simp [eq_comm]
  | true => simp

/-- A form of printing can be chosen if none is yet. -/
theorem add_format_eq_ok_iff {attached : Bool} {form : Format} :
    choices.add (.format attached form) = .ok next ↔
      choices.format? = .none ∧ next = { choices with format? := some form } := by
  have hname := Format.of_name_eq_some_iff.2 (rfl : form.name = form.name)
  show choices.addFormat form.name = _ ↔ _
  rw [addFormat, hname]
  cases choices.format? with
  | none => simp [eq_comm]
  | some other => simp

/-- A file can be chosen if it has a name and none is yet. -/
theorem add_file_eq_ok_iff {name : String} :
    choices.add (.file name) = .ok next ↔
      name ≠ "" ∧ choices.file? = .none ∧ next = { choices with file? := some name } := by
  show choices.addFile name = _ ↔ _
  rw [addFile]
  by_cases hname : name = ""
  · simp [hname]
  · cases choices.file? with
    | none => simp [hname, eq_comm]
    | some other => simp [hname]

/-- The first ones of arguments that have choices have choices. -/
theorem Of.exists_of_append {more : List Argument} (h : choices.Of (arguments ++ more)) :
    ∃ first : Choices, first.Of arguments := by
  have hfirst := List.sublist_append_left arguments more
  refine ⟨_, of_arguments ?_ ?_ ?_⟩
  · refine Nat.le_trans (hfirst.filterMap Argument.file?).length_le ?_
    rw [h.files_eq]
    exact Option.length_toList_le
  · refine Nat.le_trans (hfirst.filterMap Argument.format?).length_le ?_
    rw [h.formats_eq]
    exact Option.length_toList_le
  · refine Nat.le_trans (hfirst.count_le .plain) ?_
    rw [h.plains_eq]
    exact choices.plain.toNat_le

/-- One more argument is one more choice. -/
theorem Of.add (h : choices.Of arguments) (hadd : choices.add argument = .ok next) :
    next.Of (arguments ++ [argument]) := by
  cases argument with
  | plain =>
    obtain ⟨hplain, rfl⟩ := add_plain_eq_ok_iff.1 hadd
    refine ⟨?_, ?_, ?_⟩
    · simp [Argument.file?, h.files_eq]
    · simp [Argument.format?, h.formats_eq]
    · simp [h.plains_eq, hplain]
  | format attached form =>
    obtain ⟨hformat, rfl⟩ := add_format_eq_ok_iff.1 hadd
    refine ⟨?_, ?_, ?_⟩
    · simp [Argument.file?, h.files_eq]
    · simp [Argument.format?, h.formats_eq, hformat]
    · simp [h.plains_eq]
  | file name =>
    obtain ⟨-, hfile, rfl⟩ := add_file_eq_ok_iff.1 hadd
    refine ⟨?_, ?_, ?_⟩
    · simp [Argument.file?, h.files_eq, hfile]
    · simp [Argument.format?, h.formats_eq]
    · simp [h.plains_eq]

/-- The next one of some arguments that have choices can be added to those of the arguments before
it. -/
theorem Of.exists_add {last : Choices} {more : List Argument} (h : choices.Of arguments)
    (hlast : last.Of (arguments ++ argument :: more)) (hname : argument ≠ .file "") :
    ∃ next, choices.add argument = .ok next := by
  cases argument with
  | plain =>
    refine ⟨_, add_plain_eq_ok_iff.2 ⟨?_, rfl⟩⟩
    have hcount := hlast.plains_eq
    have hle := last.plain.toNat_le
    rw [List.count_append, List.count_cons_self, h.plains_eq] at hcount
    rw [← Bool.toNat_eq_zero]
    omega
  | format attached form =>
    refine ⟨_, add_format_eq_ok_iff.2 ⟨?_, rfl⟩⟩
    have hformats := congrArg List.length hlast.formats_eq
    have hle := Option.length_toList_le (o := last.format?)
    rw [List.filterMap_append, h.formats_eq, List.length_append] at hformats
    cases hformat : choices.format? with
    | none => rfl
    | some other =>
      simp [hformat, Argument.format?] at hformats
      omega
  | file name =>
    refine ⟨_, add_file_eq_ok_iff.2 ⟨fun h => hname (h ▸ rfl), ?_, rfl⟩⟩
    have hfiles := congrArg List.length hlast.files_eq
    have hle := Option.length_toList_le (o := last.file?)
    rw [List.filterMap_append, h.files_eq, List.length_append] at hfiles
    cases hfile : choices.file? with
    | none => rfl
    | some other =>
      simp [hfile, Argument.file?] at hfiles
      omega

end Choices

end ArithTokens
