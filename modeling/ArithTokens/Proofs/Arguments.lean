import ArithTokens.Proofs.Choices
import ArithTokens.Proofs.Command

/-!
# Arguments of the command

A command line is a list of arguments: options, and the name of a file. Behind `--` there are only
names. `CommandLine` has what is written, `CommandLine.IsAccepted` says that no kind of argument is
there twice, and then the options are those of the arguments. The words of a command line are read
exactly in this way (`arguments_read_iff`), so that the order in front of `--` does not matter.
-/

namespace ArithTokens

/-! ## What is written -/

/-- What is written on a command line: arguments, and perhaps names of files behind `--`. -/
structure CommandLine where
  arguments : List Argument
  names? : Option (List String)
deriving DecidableEq, Repr

namespace CommandLine

/-- The words of a command line. -/
def words (line : CommandLine) : List String :=
  line.arguments.flatMap Argument.words ++
    match line.names? with
    | none => []
    | some names => "--" :: names

/-- All arguments; a name behind `--` is one of a file, whatever it looks like. -/
def all (line : CommandLine) : List Argument :=
  line.arguments ++ (line.names?.getD []).map .file

/-- The options that are chosen; text is the form of printing unless another one is chosen. -/
def options (line : CommandLine) : Options where
  file? := (line.all.filterMap Argument.file?).head?
  format := (line.all.filterMap Argument.format?).head?.getD .text
  plain := line.all.contains .plain

/-- Says that arguments look like what they are, and that files have names. -/
structure IsWritten (line : CommandLine) : Prop where
  arguments_written : ∀ argument ∈ line.arguments, argument.isWritten = true
  names_ne_empty : ∀ name ∈ line.names?.getD [], name ≠ ""

/-- Says that moreover no kind of argument is there twice. -/
structure IsAccepted (line : CommandLine) : Prop extends IsWritten line where
  one_plain : line.all.count .plain ≤ 1
  one_format : (line.all.filterMap Argument.format?).length ≤ 1
  one_file : (line.all.filterMap Argument.file?).length ≤ 1

end CommandLine

/-! ## Reading -/

/-- What comes of two computations comes of the second one, with a result of the first one. -/
theorem bind_eq_ok_iff {ε α β : Type} {first : Except ε α} {second : α → Except ε β} {b : β} :
    (first >>= second) = .ok b ↔ ∃ a, first = .ok a ∧ second a = .ok b := by
  cases first with
  | error e => exact ⟨nofun, nofun⟩
  | ok a =>
    constructor
    · intro h
      exact ⟨a, rfl, h⟩
    · rintro ⟨a', ha, h⟩
      cases ha
      exact h

namespace Request

/-- The ways in which reading stops: there are no more words, only files follow, or help is asked
for. -/
inductive Stops (choices : Choices) : List String → Request → Prop where
  | finish : Stops choices [] (.scan choices.options)
  | names {names : List String} {request : Request} :
      readFiles choices names = .ok request → Stops choices ("--" :: names) request
  | help {word : String} {rest : List String} :
      asksForHelp word = true → Stops choices (word :: rest) .help

/-- Words are read by choosing one argument after the other. -/
inductive Reads : Choices → List String → Request → Prop where
  | stop {choices : Choices} {words : List String} {request : Request} :
      Stops choices words request → Reads choices words request
  | argument {choices next : Choices} {argument : Argument} {rest : List String}
      {request : Request} :
      argument.isWritten = true → choices.add argument = .ok next → Reads next rest request →
      Reads choices (argument.words ++ rest) request

variable {choices : Choices} {words : List String} {request : Request}

/-- A word that starts with a dash and goes on looks like an option. -/
theorem is_dashed_of_start {word : String} {c : Char} {start : List Char}
    (h : ('-' :: c :: start).isPrefixOf word.toList = true) : isDashed word = true := by
  obtain ⟨rest, hword⟩ := List.isPrefixOf_iff_prefix.1 h
  have hne : word ≠ "-" := by
    rintro rfl
    cases hword
  simp [isDashed, ← hword, hne]

/-- A file can be named by every word that is not empty and does not look like an option. -/
theorem file_is_written_iff {name : String} :
    (Argument.file name).isWritten = true ↔ name ≠ "" ∧ isDashed name = false := by
  have hdash : "-".toList.isPrefixOf name.toList = true ↔ name.toList.head? = some '-' := by
    show ['-'].isPrefixOf name.toList = true ↔ _
    cases name.toList with
    | nil => simp
    | cons c rest =>
      rw [List.isPrefixOf_cons_cons, List.isPrefixOf_nil_left, Bool.and_true, beq_iff_eq,
        List.head?_cons, Option.some.injEq, eq_comm]
  rw [Argument.isWritten, isDashed, Bool.and_eq_true, decide_eq_true_eq]
  refine and_congr_right fun _ => ?_
  rw [← Bool.not_eq_true, Bool.and_eq_true, hdash]
  simp only [Bool.or_eq_true, decide_eq_true_eq]
  tauto

/-- A word that does not look like an option is none. -/
theorem not_option_of_not_dashed {word : String} (h : isDashed word = false) :
    word ≠ "--" ∧ asksForHelp word = false ∧ word ≠ "--plain" ∧ word ≠ "--format" ∧
      ∀ option ∈ ["--format", "--plain", "--help"], attached? option word = none := by
  have hdashed : ∀ {option : String}, isDashed option = true → word ≠ option := by
    rintro option hoption rfl
    rw [h] at hoption
    cases hoption
  have hstart : ∀ {c : Char} {start : List Char},
      ¬ ('-' :: c :: start).isPrefixOf word.toList = true := by
    intro c start hprefix
    rw [is_dashed_of_start hprefix] at h
    cases h
  refine ⟨hdashed (by decide), ?_, hdashed (by decide), hdashed (by decide), ?_⟩
  · rw [asksForHelp, Bool.or_eq_false_iff, decide_eq_false_iff_not]
    exact ⟨hdashed (by decide), Bool.eq_false_of_not_eq_true hstart⟩
  · intro option hoption
    simp only [List.mem_cons, List.not_mem_nil, or_false] at hoption
    rcases hoption with rfl | rfl | rfl <;> exact if_neg hstart

/-- The words of an argument are read as one. -/
theorem read_from_argument {argument : Argument} (h : argument.isWritten = true)
    (choices : Choices) (rest : List String) :
    readFrom choices (argument.words ++ rest) = choices.add argument >>= (readFrom · rest) := by
  cases argument with
  | plain =>
    show readFrom choices ("--plain" :: rest) = _
    rw [readFrom.eq_def]
    dsimp only
    rw [if_neg (by decide), if_neg (by decide), if_pos rfl]
    rfl
  | format attached form =>
    cases attached with
    | true =>
      show readFrom choices (("--format=" ++ form.name) :: rest) = _
      have hattached : attached? "--format" ("--format=" ++ form.name) = some form.name := by
        cases form <;> decide
      have hword : "--format=" ++ form.name ≠ "--" ∧
          asksForHelp ("--format=" ++ form.name) = false ∧
          "--format=" ++ form.name ≠ "--plain" ∧ "--format=" ++ form.name ≠ "--format" := by
        cases form <;> decide
      obtain ⟨hdashes, hhelp, hplain, hformat⟩ := hword
      rw [readFrom.eq_def]
      dsimp only
      rw [if_neg hdashes, hhelp, if_neg Bool.false_ne_true, if_neg hplain, if_neg hformat,
        hattached]
      rfl
    | false =>
      show readFrom choices ("--format" :: form.name :: rest) = _
      have hvalue : isDashed form.name = false := by cases form <;> rfl
      rw [readFrom.eq_def]
      dsimp only
      rw [if_neg (by decide), if_neg (by decide), if_neg (by decide), if_pos rfl, hvalue]
      rfl
  | file name =>
    show readFrom choices (name :: rest) = _
    obtain ⟨-, hdashed⟩ := file_is_written_iff.1 h
    obtain ⟨hdashes, hhelp, hplain, hformat, hattached⟩ := not_option_of_not_dashed hdashed
    rw [readFrom.eq_def]
    dsimp only
    rw [if_neg hdashes, hhelp, if_neg Bool.false_ne_true, if_neg hplain, if_neg hformat,
      hattached _ (by simp)]
    simp [hattached, hdashed, Choices.add]

/-- A form of printing can only be chosen by its name. -/
theorem exists_form {value : String} {next : Choices} (h : choices.addFormat value = .ok next) :
    ∃ form : Format, value = form.name := by
  rw [Choices.addFormat] at h
  split at h
  · cases h
  · next form _ hform => exact ⟨form, Format.of_name_eq_some_iff.1 hform⟩
  · cases h

/-- A word with the value of an option is the option, an equals sign and the value. -/
theorem eq_of_attached {option word value : String} (h : attached? option word = some value) :
    word = option ++ "=" ++ value := by
  rw [attached?] at h
  split at h
  · next hstart =>
    cases h
    obtain ⟨rest, hword⟩ := List.isPrefixOf_iff_prefix.1 hstart
    have hlength : option.length + 1 = (option.toList ++ ['=']).length := by
      rw [List.length_append, String.length_toList]
      rfl
    refine String.toList_injective ?_
    rw [hlength, ← hword, List.drop_left]
    simp
  · cases h

/-- What is read from the words is read in one of the ways. -/
theorem reads_of_read_from (h : readFrom choices words = .ok request) :
    Reads choices words request := by
  fun_induction readFrom choices words with
  | case1 choices =>
    cases h
    exact .stop .finish
  | case2 choices rest => exact .stop (.names h)
  | case3 choices word rest hdashes hhelp =>
    cases h
    exact .stop (.help hhelp)
  | case4 choices rest hdashes hhelp ih =>
    obtain ⟨next, hadd, hrest⟩ := bind_eq_ok_iff.1 h
    have hreads : Reads choices (Argument.plain.words ++ rest) request :=
      .argument rfl hadd (ih next hrest)
    exact hreads
  | case7 choices value rest hvalue hdashes hhelp hplain ih =>
    obtain ⟨next, hadd, hrest⟩ := bind_eq_ok_iff.1 h
    obtain ⟨form, rfl⟩ := exists_form hadd
    have hreads : Reads choices ((Argument.format false form).words ++ rest) request :=
      .argument rfl hadd (ih next hrest)
    exact hreads
  | case8 choices word rest hdashes hhelp hplain hformat value hvalue ih =>
    obtain ⟨next, hadd, hrest⟩ := bind_eq_ok_iff.1 h
    obtain ⟨form, rfl⟩ := exists_form hadd
    obtain rfl := eq_of_attached hvalue
    have hreads : Reads choices ((Argument.format true form).words ++ rest) request :=
      .argument rfl hadd (ih next hrest)
    exact hreads
  | case11 choices word rest hdashes hhelp hplain hformat hnone hvalues hdashed ih =>
    obtain ⟨next, hadd, hrest⟩ := bind_eq_ok_iff.1 h
    have hname := (Choices.add_file_eq_ok_iff.1 hadd).1
    have hwritten := file_is_written_iff.2 ⟨hname, Bool.eq_false_of_not_eq_true hdashed⟩
    have hreads : Reads choices ((Argument.file word).words ++ rest) request :=
      .argument hwritten hadd (ih next hrest)
    exact hreads
  | case5 | case6 | case9 | case10 =>
    -- A word that is no argument is an error.
    cases h

/-- The word that ends the options does not ask for help. -/
theorem ne_dashes_of_asks_for_help {word : String} (h : asksForHelp word = true) : word ≠ "--" := by
  rintro rfl
  exact absurd h (by decide)

/-- No word of an argument ends the options. -/
theorem ne_dashes_of_argument {argument : Argument} (h : argument.isWritten = true) :
    ∀ word ∈ argument.words, word ≠ "--" := by
  cases argument with
  | plain => decide
  | format attached form => cases attached <;> cases form <;> decide
  | file name =>
    intro word hword
    obtain rfl := List.mem_singleton.1 hword
    exact (not_option_of_not_dashed (file_is_written_iff.1 h).2).1

/-- Where reading stops, this is what is read. -/
theorem Stops.read_from (h : Stops choices words request) :
    readFrom choices words = .ok request := by
  cases h with
  | finish => rfl
  | names hnames =>
    rw [readFrom.eq_def]
    exact hnames
  | help hhelp =>
    rw [readFrom.eq_def]
    dsimp only
    rw [if_neg (ne_dashes_of_asks_for_help hhelp), if_pos hhelp]

/-- What the ways of reading lead to is read. -/
theorem read_from_eq_ok_iff :
    readFrom choices words = .ok request ↔ Reads choices words request := by
  refine ⟨reads_of_read_from, fun h => ?_⟩
  induction h with
  | stop hstop => exact hstop.read_from
  | argument hwritten hadd _ ih =>
    rw [read_from_argument hwritten, hadd]
    exact ih

/-- When the choices of some arguments have been made, words are read exactly if they are those of
more arguments, all of which have choices together, and then reading stops. -/
theorem reads_iff {arguments : List Argument} (h : choices.Of arguments) :
    Reads choices words request ↔
      ∃ more : List Argument, ∃ last : Choices, ∃ rest : List String,
        (∀ argument ∈ more, argument.isWritten = true) ∧
        words = more.flatMap Argument.words ++ rest ∧ last.Of (arguments ++ more) ∧
        Stops last rest request := by
  constructor
  · intro hreads
    induction hreads generalizing arguments with
    | @stop choices words request hstop =>
      rw [← List.append_nil arguments] at h
      exact ⟨[], choices, words, nofun, rfl, h, hstop⟩
    | @argument choices next argument rest request hwritten hadd _ ih =>
      obtain ⟨more, last, behind, hmore, hrest, hlast, hstop⟩ := ih (h.add hadd)
      refine ⟨argument :: more, last, behind, List.forall_mem_cons.2 ⟨hwritten, hmore⟩, ?_, ?_,
        hstop⟩
      · rw [List.flatMap_cons, List.append_assoc, hrest]
      · rw [List.append_assoc] at hlast
        exact hlast
  · rintro ⟨more, last, rest, hmore, rfl, hlast, hstop⟩
    induction more generalizing choices arguments with
    | nil =>
      rw [List.append_nil] at hlast
      rw [h.eq, ← hlast.eq]
      exact .stop hstop
    | cons argument more ih =>
      obtain ⟨hwritten, hmore⟩ := List.forall_mem_cons.1 hmore
      have hname : argument ≠ .file "" := by
        rintro rfl
        exact absurd hwritten (by decide)
      obtain ⟨next, hadd⟩ := h.exists_add hlast hname
      rw [List.append_cons] at hlast
      rw [List.flatMap_cons, List.append_assoc]
      exact .argument hwritten hadd (ih (h.add hadd) hmore hlast)

/-- Names behind `--` are read as files, which all have a name. -/
theorem read_files_eq_ok_iff {arguments : List Argument} {names : List String}
    (h : choices.Of arguments) :
    readFiles choices names = .ok request ↔
      (∀ name ∈ names, name ≠ "") ∧
        ∃ last : Choices,
          last.Of (arguments ++ names.map .file) ∧ request = .scan last.options := by
  induction names generalizing choices arguments with
  | nil =>
    rw [List.map_nil, List.append_nil]
    constructor
    · intro hread
      cases hread
      exact ⟨nofun, choices, h, rfl⟩
    · rintro ⟨-, last, hlast, rfl⟩
      rw [hlast.eq, ← h.eq]
      rfl
  | cons name names ih =>
    have hmore : arguments ++ (name :: names).map Argument.file =
        arguments ++ [.file name] ++ names.map .file := by
      rw [List.append_assoc]
      rfl
    constructor
    · intro hread
      obtain ⟨next, hadd, hrest⟩ := bind_eq_ok_iff.1 hread
      have hadded : choices.add (.file name) = .ok next := hadd
      obtain ⟨hnames, last, hlast, hrequest⟩ := (ih (h.add hadded)).1 hrest
      have hname := (Choices.add_file_eq_ok_iff.1 hadded).1
      exact ⟨List.forall_mem_cons.2 ⟨hname, hnames⟩, last, hmore ▸ hlast, hrequest⟩
    · rintro ⟨hnames, last, hlast, hrequest⟩
      obtain ⟨hname, hrest⟩ := List.forall_mem_cons.1 hnames
      obtain ⟨next, hadd⟩ := h.exists_add hlast fun heq => hname (Argument.file.inj heq)
      refine bind_eq_ok_iff.2 ⟨next, hadd, (ih (h.add hadd)).2 ⟨hrest, last, ?_, hrequest⟩⟩
      rw [← hmore]
      exact hlast

/-- Says that a word asks for help at the head of a longer group of one-letter options. -/
def isHelpGroup (word : String) : Bool := "-h".toList.isPrefixOf word.toList && word ≠ "-h"

/-- Apart from such groups two words ask for help. -/
theorem eq_of_asks_for_help {word : String} (h : asksForHelp word = true)
    (hgroup : isHelpGroup word = false) : word = "-h" ∨ word = "--help" := by
  rw [asksForHelp, Bool.or_eq_true, decide_eq_true_eq] at h
  rcases h with h | h
  · exact .inr h
  · rw [isHelpGroup, h, Bool.true_and, decide_eq_false_iff_not, not_not] at hgroup
    exact .inl hgroup

end Request

/-- A list of at most one element is in no other order. -/
theorem eq_of_perm {α : Type} {list other : List α} (h : other.Perm list) (hle : list.length ≤ 1) :
    other = list := by
  rw [← head_to_list hle] at h ⊢
  generalize list.head? = head at h ⊢
  cases head with
  | none => exact List.perm_nil.1 h
  | some a => exact List.perm_singleton.1 h

namespace CommandLine

variable {line : CommandLine} {words : List String}

/-- A command line is accepted if the choices of its arguments can be made. -/
theorem is_accepted_iff :
    line.IsAccepted ↔ line.IsWritten ∧ ∃ last : Choices, last.Of line.all := by
  constructor
  · intro h
    exact ⟨h.toIsWritten, _, Choices.of_arguments h.one_file h.one_format h.one_plain⟩
  · rintro ⟨hwritten, last, hlast⟩
    refine { hwritten with one_plain := ?_, one_format := ?_, one_file := ?_ }
    · rw [hlast.plains_eq]
      exact last.plain.toNat_le
    · rw [hlast.formats_eq]
      exact Option.length_toList_le
    · rw [hlast.files_eq]
      exact Option.length_toList_le

/-- The options of a command line are those of its choices. -/
theorem options_eq {last : Choices} (h : last.Of line.all) : line.options = last.options := by
  rw [h.eq]
  rfl

/-- The words of a command line are read as its options. -/
theorem read_words (h : line.IsAccepted) : Request.read line.words = .ok (.scan line.options) := by
  obtain ⟨hwritten, last, hlast⟩ := is_accepted_iff.1 h
  rw [options_eq hlast]
  refine Request.read_from_eq_ok_iff.2 ((Request.reads_iff Choices.none_of_nil).2 ?_)
  obtain ⟨arguments, names?⟩ := line
  cases names? with
  | none =>
    have hall : last.Of (arguments ++ []) := hlast
    rw [List.append_nil] at hall
    exact ⟨arguments, last, [], hwritten.arguments_written, rfl, hall, .finish⟩
  | some names =>
    -- The arguments in front of `--` are chosen first, and then the files behind it.
    obtain ⟨first, hfirst⟩ := hlast.exists_of_append
    have hnames : Request.readFiles first names = .ok (.scan last.options) :=
      (Request.read_files_eq_ok_iff hfirst).2 ⟨hwritten.names_ne_empty, last, hlast, rfl⟩
    exact ⟨arguments, first, _, hwritten.arguments_written, rfl, hfirst, .names hnames⟩

/-- Words that are read as options are those of a command line. -/
theorem exists_of_read {options : Options} (h : Request.read words = .ok (.scan options)) :
    ∃ line : CommandLine, line.IsAccepted ∧ line.words = words ∧ line.options = options := by
  obtain ⟨arguments, last, rest, hwritten, rfl, hlast, hstop⟩ :=
    (Request.reads_iff Choices.none_of_nil).1 (Request.read_from_eq_ok_iff.1 h)
  rw [List.nil_append] at hlast
  cases hstop with
  | finish =>
    let line : CommandLine := ⟨arguments, none⟩
    have hall : last.Of line.all := by
      show last.Of (arguments ++ [])
      rw [List.append_nil]
      exact hlast
    exact ⟨line, is_accepted_iff.2 ⟨⟨hwritten, nofun⟩, last, hall⟩, rfl, options_eq hall⟩
  | @names names _ hnames =>
    obtain ⟨hnamed, final, hfinal, hrequest⟩ := (Request.read_files_eq_ok_iff hlast).1 hnames
    let line : CommandLine := ⟨arguments, some names⟩
    have hall : final.Of line.all := hfinal
    have hoptions := options_eq hall
    rw [← Request.scan.inj hrequest] at hoptions
    exact ⟨line, is_accepted_iff.2 ⟨⟨hwritten, hnamed⟩, final, hall⟩, rfl, hoptions⟩

/-- Says that words ask for help: behind arguments that are accepted there is one of the two words
for it. What follows does not matter. -/
def AsksForHelp (words : List String) : Prop :=
  ∃ (arguments : List Argument) (word : String) (rest : List String),
    IsAccepted ⟨arguments, none⟩ ∧ (word = "-h" ∨ word = "--help") ∧
      words = arguments.flatMap Argument.words ++ word :: rest

/-- Words that ask for help are read as this. -/
theorem AsksForHelp.read (h : AsksForHelp words) : Request.read words = .ok .help := by
  obtain ⟨arguments, word, rest, haccepted, hword, rfl⟩ := h
  obtain ⟨hwritten, last, hlast⟩ := is_accepted_iff.1 haccepted
  have hhelp : Request.asksForHelp word = true := by
    rcases hword with rfl | rfl <;> rfl
  have hall : last.Of (arguments ++ []) := hlast
  rw [List.append_nil] at hall
  exact Request.read_from_eq_ok_iff.2 ((Request.reads_iff Choices.none_of_nil).2
    ⟨arguments, last, _, hwritten.arguments_written, rfl, hall, .help hhelp⟩)

/-- Words that are read as a request for help ask for it, unless they do so at the head of a longer
group of one-letter options. -/
theorem asks_for_help_of_read
    (hgroup : ∀ word ∈ words.takeWhile (· ≠ "--"), Request.isHelpGroup word = false)
    (h : Request.read words = .ok .help) : AsksForHelp words := by
  obtain ⟨arguments, last, rest, hwritten, rfl, hlast, hstop⟩ :=
    (Request.reads_iff Choices.none_of_nil).1 (Request.read_from_eq_ok_iff.1 h)
  rw [List.nil_append] at hlast
  cases hstop with
  | @names names _ hnames =>
    obtain ⟨-, final, -, hrequest⟩ := (Request.read_files_eq_ok_iff hlast).1 hnames
    cases hrequest
  | @help word rest hhelp =>
    have hbefore : ∀ word ∈ arguments.flatMap Argument.words, decide (word ≠ "--") = true := by
      intro word hword
      obtain ⟨argument, hargument, hword⟩ := List.mem_flatMap.1 hword
      exact decide_eq_true
        (Request.ne_dashes_of_argument (hwritten argument hargument) word hword)
    have hmem : word ∈ (arguments.flatMap Argument.words ++ word :: rest).takeWhile (· ≠ "--") := by
      have hdashes := Request.ne_dashes_of_asks_for_help hhelp
      rw [List.takeWhile_append_of_pos hbefore, List.takeWhile_cons,
        if_pos (decide_eq_true hdashes)]
      exact List.mem_append_right _ List.mem_cons_self
    refine ⟨arguments, word, rest, is_accepted_iff.2 ⟨⟨hwritten, nofun⟩, last, ?_⟩,
      Request.eq_of_asks_for_help hhelp (hgroup word hmem), rfl⟩
    show last.Of (arguments ++ [])
    rw [List.append_nil]
    exact hlast

/-- The arguments in front of `--` may stand in any order. -/
theorem IsAccepted.reorder {others : List Argument} (h : line.IsAccepted)
    (hperm : others.Perm line.arguments) :
    IsAccepted ⟨others, line.names?⟩ ∧ options ⟨others, line.names?⟩ = line.options := by
  have hall : (all ⟨others, line.names?⟩).Perm line.all := hperm.append_right _
  have hfiles := eq_of_perm (hall.filterMap Argument.file?) h.one_file
  have hformats := eq_of_perm (hall.filterMap Argument.format?) h.one_format
  constructor
  · exact {
      arguments_written := fun argument hargument =>
        h.arguments_written argument (hperm.mem_iff.1 hargument)
      names_ne_empty := h.names_ne_empty
      one_plain := by
        rw [hall.count_eq]
        exact h.one_plain
      one_format := by
        rw [hformats]
        exact h.one_format
      one_file := by
        rw [hfiles]
        exact h.one_file }
  · rw [options, options, hfiles, hformats, hall.contains_eq]

end CommandLine

/-- A run ends with the code of a usage error exactly if its arguments are not accepted. -/
theorem Invocation.exit_code_eq_two_iff (run : Invocation) :
    run.outcome.exitCode = 2 ↔ ∀ request, Request.read run.arguments ≠ .ok request := by
  obtain ⟨ending, hends⟩ := run.exists_ends
  generalize run.outcome = seen at hends
  cases hends with
  | rejected hread =>
    rw [hread]
    exact iff_of_true rfl nofun
  | help hread => exact iff_of_false nofun fun hnone => hnone _ hread
  | unreadable hread _ => exact iff_of_false nofun fun hnone => hnone _ hread
  | failed hscans _ => exact iff_of_false nofun fun hnone => hnone _ hscans.1
  | succeeded hscans _ => exact iff_of_false nofun fun hnone => hnone _ hscans.1

/-- Words are read as options exactly if they are those of an accepted command line, which has
these options, and they are read as a request for help exactly if they ask for help behind accepted
arguments. The order of the arguments in front of `--` does not matter. All other words are a usage
error. Words in front of `--` that ask for help at the head of a longer group of one-letter options
are left out here. -/
theorem arguments_read_iff (words : List String)
    (hgroup : ∀ word ∈ words.takeWhile (· ≠ "--"), Request.isHelpGroup word = false) :
    (∀ options, Request.read words = .ok (.scan options) ↔
      ∃ line : CommandLine, line.IsAccepted ∧ line.words = words ∧ line.options = options) ∧
    (∀ line : CommandLine, line.IsAccepted → line.words = words →
      ∀ others : List Argument, others.Perm line.arguments →
        Request.read (CommandLine.words ⟨others, line.names?⟩) = Request.read words) ∧
    (Request.read words = .ok .help ↔ CommandLine.AsksForHelp words) ∧
    ∀ run : Invocation, run.arguments = words →
      (run.outcome.exitCode = 2 ↔
        ¬ (∃ line : CommandLine, line.IsAccepted ∧ line.words = words) ∧
          ¬ CommandLine.AsksForHelp words) := by
  have hscan : ∀ options, Request.read words = .ok (.scan options) ↔
      ∃ line : CommandLine, line.IsAccepted ∧ line.words = words ∧ line.options = options := by
    intro options
    refine ⟨CommandLine.exists_of_read, ?_⟩
    rintro ⟨line, haccepted, rfl, rfl⟩
    exact CommandLine.read_words haccepted
  have hhelp : Request.read words = .ok .help ↔ CommandLine.AsksForHelp words :=
    ⟨CommandLine.asks_for_help_of_read hgroup, CommandLine.AsksForHelp.read⟩
  refine ⟨hscan, ?_, hhelp, ?_⟩
  · rintro line haccepted rfl others hperm
    obtain ⟨hothers, hoptions⟩ := haccepted.reorder hperm
    rw [CommandLine.read_words hothers, CommandLine.read_words haccepted, hoptions]
  · rintro run rfl
    rw [run.exit_code_eq_two_iff]
    constructor
    · intro hnone
      refine ⟨?_, fun hasks => hnone _ (hhelp.2 hasks)⟩
      rintro ⟨line, haccepted, hwords⟩
      exact hnone _ ((hscan line.options).2 ⟨line, haccepted, hwords, rfl⟩)
    · rintro ⟨hnone, hasks⟩ request hread
      cases request with
      | help => exact hasks (hhelp.1 hread)
      | scan options =>
        obtain ⟨line, haccepted, hwords, -⟩ := (hscan options).1 hread
        exact hnone ⟨line, haccepted, hwords⟩

/-- Behind `--` the word for help names a file, and the options in front of it may be exchanged. An
option that is there twice is a usage error. -/
theorem arguments_read_behind_dashes :
    let words := ["--format", "json", "--plain", "--", "--help"]
    let twice : Invocation := ⟨["--plain", "-", "--plain"], ByteArray.empty, [], none⟩
    Request.read words = .ok (.scan ⟨some "--help", .json, true⟩) ∧
      Request.read ["--plain", "--format", "json", "--", "--help"] = Request.read words ∧
      ¬ (∃ line : CommandLine, line.IsAccepted ∧ line.words = twice.arguments) := by
  intro words twice
  let arguments : List Argument := [.format false .json, .plain]
  let line : CommandLine := ⟨arguments, some ["--help"]⟩
  have hgroup : ∀ word ∈ words.takeWhile (· ≠ "--"), Request.isHelpGroup word = false := by decide
  have htwice : ∀ word ∈ twice.arguments.takeWhile (· ≠ "--"),
      Request.isHelpGroup word = false := by decide
  have haccepted : line.IsAccepted :=
    ⟨⟨by decide, by decide⟩, by decide, by decide, by decide⟩
  obtain ⟨hscan, horder, -⟩ := arguments_read_iff words hgroup
  obtain ⟨-, -, -, herror⟩ := arguments_read_iff twice.arguments htwice
  have hcode : twice.outcome.exitCode = 2 := by decide +kernel
  exact ⟨(hscan _).2 ⟨line, haccepted, rfl, rfl⟩,
    horder line haccepted rfl [.plain, .format false .json] (List.Perm.swap _ _ _),
    ((herror twice rfl).1 hcode).1⟩

end ArithTokens
