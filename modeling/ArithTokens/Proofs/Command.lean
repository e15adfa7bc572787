import ArithTokens.Proofs.Files
import ArithTokens.Proofs.Scanning

/-!
# How runs end

`Invocation.Ends` lists the ways in which a run ends, each with what leads to it and with what is
seen of it. A run ends in exactly one of them. It succeeds exactly if its source, the file that is
named or else the standard input, is a text of legal characters apart from the line endings at its
end, and unless it succeeds or gives help it prints nothing (`outcome_all_or_nothing`).
-/

namespace ArithTokens

namespace Source

/-! ## The line endings at the end of a text -/

/-- Says that a text is `kept` followed by line endings, and that no longer end of it consists of
line endings. -/
def IsTrimmed (text kept : String) : Prop :=
  ∃ ending : List Char, text.toList = kept.toList ++ ending ∧
    (∀ c ∈ ending, isLineEnding c = true) ∧
    ∀ suffix, suffix <:+ text.toList → (∀ c ∈ suffix, isLineEnding c = true) →
      suffix.length ≤ ending.length

/-- The longest end of line endings is what is left out. -/
theorem is_trimmed_without_final_line_endings (text : String) :
    IsTrimmed text (withoutFinalLineEndings text) := by
  refine ⟨(text.toList.reverse.takeWhile isLineEnding).reverse, ?_, ?_, ?_⟩
  · rw [withoutFinalLineEndings, String.toList_ofList, ← List.reverse_append,
      List.takeWhile_append_dropWhile, List.reverse_reverse]
  · intro c hc
    exact List.all_eq_true.1 List.all_takeWhile c (List.mem_reverse.1 hc)
  · rintro suffix ⟨before, htext⟩ hsuffix
    have htaken : (suffix.reverse ++ before.reverse).takeWhile isLineEnding =
        suffix.reverse ++ before.reverse.takeWhile isLineEnding :=
      List.takeWhile_append_of_pos fun c hc => hsuffix c (List.mem_reverse.1 hc)
    rw [← htext, List.reverse_append, htaken, List.length_reverse, List.length_append,
      List.length_reverse]
    exact Nat.le_add_right _ _

/-- There is one way to leave out the longest end of line endings. -/
theorem IsTrimmed.eq {text kept : String} (h : IsTrimmed text kept) :
    kept = withoutFinalLineEndings text := by
  obtain ⟨ending, htext, hending, hlongest⟩ := h
  obtain ⟨other, hother, hotherEnding, hotherLongest⟩ :=
    is_trimmed_without_final_line_endings text
  -- Each of the two ends is at least as long as the other one.
  have hle := hlongest other ⟨_, hother.symm⟩ hotherEnding
  have hge := hotherLongest ending ⟨_, htext.symm⟩ hending
  rw [htext] at hother
  exact String.toList_injective (List.append_inj_left' hother (Nat.le_antisymm hge hle))

end Source

/-! ## Bytes of texts -/

/-- Bytes are read as the text that they encode. -/
theorem from_utf8_eq_some_iff {bytes : ByteArray} {text : String} :
    String.fromUTF8? bytes = some text ↔ bytes = text.toUTF8 := by
  unfold String.fromUTF8?
  constructor
  · intro h
    split at h
    · rw [← Option.some.inj h]
      rfl
    · cases h
  · rintro rfl
    exact dif_pos text.isValidUTF8

/-- Says why there is no text: its bytes cannot be had, or they are the encoding of none. -/
def IsFailure (content : Except ReadFailure ByteArray) (failure : ReadFailure) : Prop :=
  content = .error failure ∨
    failure = .notText ∧ ∃ bytes, content = .ok bytes ∧ ∀ text : String, bytes ≠ text.toUTF8

/-- Unless there is a text, something has failed. -/
theorem exists_text_or_failure (content : Except ReadFailure ByteArray) :
    (∃ text : String, content = .ok text.toUTF8) ∨ ∃ failure, IsFailure content failure := by
  cases content with
  | error failure => exact .inr ⟨failure, .inl rfl⟩
  | ok bytes =>
    cases htext : String.fromUTF8? bytes with
    | some text =>
      obtain rfl := from_utf8_eq_some_iff.1 htext
      exact .inl ⟨text, rfl⟩
    | none =>
      refine .inr ⟨.notText, .inr ⟨rfl, bytes, rfl, ?_⟩⟩
      intro text hbytes
      rw [from_utf8_eq_some_iff.2 hbytes] at htext
      cases htext

namespace Options

variable (options : Options)

/-- Bytes that are a text are scanned without the line endings at their end. -/
theorem verdict_of_text {text kept : String} (h : Source.IsTrimmed text kept) :
    options.verdict (.ok text.toUTF8) =
      .scanned options (Source.scan ⟨options.sourceName, kept⟩) := by
  have htext : String.fromUTF8? text.toUTF8 = some text := from_utf8_eq_some_iff.2 rfl
  simp only [verdict, htext, h.eq]

/-- Without a text nothing is scanned. -/
theorem verdict_of_failure {content : Except ReadFailure ByteArray} {failure : ReadFailure}
    (h : IsFailure content failure) : options.verdict content = .unreadable options failure := by
  rcases h with rfl | ⟨rfl, bytes, rfl, hbytes⟩
  · rfl
  · have hnone : String.fromUTF8? bytes = none :=
      Option.eq_none_iff_forall_ne_some.2 fun text htext =>
        hbytes text (from_utf8_eq_some_iff.1 htext)
    simp only [verdict, hnone]

end Options

/-! ## The ways in which runs end -/

/-- The ways in which a run ends. -/
inductive Ending where
  | rejected
  | help
  | unreadable
  | failed
  | succeeded
deriving DecidableEq, Repr

/-- The way of ending with a verdict. -/
def Verdict.ending : Verdict → Ending
  | .rejected _ => .rejected
  | .help => .help
  | .unreadable _ _ => .unreadable
  | .scanned _ scan =>
    match scan.result with
    | .ok _ => .succeeded
    | .error _ => .failed

namespace Invocation

/-- Says that a run is to scan this text: its source is the text, but for the line endings at the
end. -/
def Scans (run : Invocation) (options : Options) (kept : String) : Prop :=
  Request.read run.arguments = .ok (.scan options) ∧
    ∃ text : String, run.content options = .ok text.toUTF8 ∧ Source.IsTrimmed text kept

/-- What leads a run to each of the endings, and what is seen of it then. -/
inductive Ends (run : Invocation) : Ending → Outcome → Prop where
  /-- The arguments are not accepted. -/
  | rejected {error : UsageError} {stderr : String} :
      Request.read run.arguments = .error error → Ends run .rejected ⟨2, "", stderr⟩
  /-- Help is asked for. -/
  | help {stderr : String} :
      Request.read run.arguments = .ok .help →
      Ends run .help ⟨0, printLines Request.helpLines, stderr⟩
  /-- There is no text to scan. The report of that is all that is written, so nothing is logged. -/
  | unreadable {options : Options} {failure : ReadFailure} :
      Request.read run.arguments = .ok (.scan options) →
      IsFailure (run.content options) failure →
      Ends run .unreadable ⟨1, "",
        "Error: " ++ options.readingStep ++ "\n\nCaused by:\n    " ++ failure.cause ++ "\n"⟩
  /-- The text has an error. -/
  | failed {options : Options} {kept : String} {error : ScanError} {stderr : String} :
      run.Scans options kept → tokenize options.sourceName kept = .error error →
      Ends run .failed ⟨1, "", stderr⟩
  /-- All of the text is scanned. -/
  | succeeded {options : Options} {kept : String} {tokens : List Token} {stderr : String} :
      run.Scans options kept → tokenize options.sourceName kept = .ok tokens →
      Ends run .succeeded ⟨0, options.format.print tokens, stderr⟩

variable {run : Invocation} {options : Options} {kept : String}

/-- A run whose arguments are not accepted is rejected. -/
theorem verdict_of_rejected {error : UsageError}
    (hread : Request.read run.arguments = .error error) : run.verdict = .rejected error := by
  rw [verdict, Verdict.ofArguments, hread]
  rfl

/-- A run that is asked for help gives it. -/
theorem verdict_of_help (hread : Request.read run.arguments = .ok .help) :
    run.verdict = .help := by
  rw [verdict, Verdict.ofArguments, hread]
  rfl

/-- How any other run ends depends on its options and on its source. -/
theorem verdict_of_accepted (hread : Request.read run.arguments = .ok (.scan options)) :
    run.verdict = options.verdict (run.content options) := by
  rw [verdict, Verdict.ofArguments, hread]
  rfl

/-- The text to scan is scanned. -/
theorem Scans.verdict_eq (h : run.Scans options kept) :
    run.verdict = .scanned options (Source.scan ⟨options.sourceName, kept⟩) := by
  obtain ⟨hread, text, hcontent, hkept⟩ := h
  rw [verdict_of_accepted hread, hcontent]
  exact options.verdict_of_text hkept

/-- Without a text to scan the run has failed before. -/
theorem verdict_of_failure {failure : ReadFailure}
    (hread : Request.read run.arguments = .ok (.scan options))
    (hfailure : IsFailure (run.content options) failure) :
    run.verdict = .unreadable options failure := by
  rw [verdict_of_accepted hread]
  exact options.verdict_of_failure hfailure

/-- What is seen of a run without a text to scan is the report of why there is none. -/
theorem outcome_of_failure {failure : ReadFailure}
    (hread : Request.read run.arguments = .ok (.scan options))
    (hfailure : IsFailure (run.content options) failure) :
    run.outcome = ⟨1, "",
      "Error: " ++ options.readingStep ++ "\n\nCaused by:\n    " ++ failure.cause ++ "\n"⟩ := by
  rw [outcome, verdict_of_failure hread hfailure]
  rfl

/-- Accepted arguments lead to a text to scan, unless something fails before. -/
theorem exists_scans_or_failure (hread : Request.read run.arguments = .ok (.scan options)) :
    (∃ kept, run.Scans options kept) ∨ ∃ failure, IsFailure (run.content options) failure := by
  refine (exists_text_or_failure (run.content options)).imp_left ?_
  rintro ⟨text, htext⟩
  exact ⟨Source.withoutFinalLineEndings text, hread, text, htext,
    Source.is_trimmed_without_final_line_endings text⟩

/-- A run ends in one of the ways. -/
theorem exists_ends (run : Invocation) : ∃ ending, run.Ends ending run.outcome := by
  cases hread : Request.read run.arguments with
  | error error =>
    refine ⟨.rejected, ?_⟩
    rw [outcome, verdict_of_rejected hread]
    exact .rejected hread
  | ok request =>
    cases request with
    | help =>
      refine ⟨.help, ?_⟩
      rw [outcome, verdict_of_help hread]
      exact .help hread
    | scan options =>
      obtain ⟨kept, hscans⟩ | ⟨failure, hfailure⟩ := exists_scans_or_failure hread
      · rw [outcome, hscans.verdict_eq, Verdict.outcome, result_scan]
        cases hresult : tokenize options.sourceName kept with
        | ok tokens => exact ⟨.succeeded, .succeeded hscans hresult⟩
        | error error => exact ⟨.failed, .failed hscans hresult⟩
      · refine ⟨.unreadable, ?_⟩
        rw [outcome_of_failure hread hfailure]
        exact .unreadable hread hfailure

/-- What leads to an ending decides the verdict, so that it leads to no other one. -/
theorem Ends.eq_ending {ending : Ending} {seen : Outcome} (h : run.Ends ending seen) :
    ending = run.verdict.ending := by
  cases h with
  | rejected hread =>
    rw [verdict_of_rejected hread]
    rfl
  | help hread =>
    rw [verdict_of_help hread]
    rfl
  | unreadable hread hfailure =>
    rw [verdict_of_failure hread hfailure]
    rfl
  | failed hscans herror => rw [hscans.verdict_eq, Verdict.ending, result_scan, herror]
  | succeeded hscans htokens => rw [hscans.verdict_eq, Verdict.ending, result_scan, htokens]

/-- A run that is to scan a text succeeds exactly if this text is legal. -/
theorem Scans.exit_code_eq_zero_iff (h : run.Scans options kept) :
    run.outcome.exitCode = 0 ↔ ∀ c ∈ kept.toList, isLegal c = true := by
  rw [← tokenize_ok_iff_legal options.sourceName, outcome, h.verdict_eq, Verdict.outcome,
    result_scan]
  cases tokenize options.sourceName kept with
  | ok tokens => exact ⟨fun _ => ⟨tokens, rfl⟩, fun _ => rfl⟩
  | error error =>
    constructor
    · intro hzero
      cases hzero
    · rintro ⟨tokens, htokens⟩
      cases htokens

end Invocation

/-- Every run ends in exactly one of the ways. The source of accepted arguments that do not ask for
help is the file at the path that they give, and the standard input if they give none. If all files
were put under names into the directory of the run, a name leads to the bytes that were put there
last under it, and without any there is no such file. These arguments lead to success exactly if the
source can be read, is a text and has only legal characters apart from the line endings at its end,
and what is printed then are the tokens of this text. Other runs print nothing, unless they give
help. -/
theorem outcome_all_or_nothing (run : Invocation) :
    (∃! ending, run.Ends ending run.outcome) ∧
    (∀ options, Request.read run.arguments = .ok (.scan options) →
      (options.file? = none → run.content options = .ok run.input) ∧
      (∀ path, options.file? = some path →
        run.content options = run.fileSystem.read path ∧
        (FileSystem.IsName path → (∀ file ∈ run.files, FileSystem.IsName file.1) →
          run.content options =
            (run.files.reverse.lookup path).elim (.error .notFound) .ok)) ∧
      (run.outcome.exitCode = 0 ↔
        ∃ kept, run.Scans options kept ∧ ∀ c ∈ kept.toList, isLegal c = true) ∧
      ∀ kept, run.Scans options kept → (∀ c ∈ kept.toList, isLegal c = true) →
        ∃ tokens, tokenize options.sourceName kept = .ok tokens ∧
          run.outcome.stdout = options.format.print tokens) ∧
    (run.outcome.exitCode ≠ 0 → run.outcome.stdout = "") := by
  obtain ⟨ending, hends⟩ := run.exists_ends
  refine ⟨⟨ending, hends, ?_⟩, ?_, ?_⟩
  · intro other hother
    rw [hother.eq_ending, hends.eq_ending]
  · intro options hread
    refine ⟨Invocation.content_of_input, ?_, ⟨?_, ?_⟩, ?_⟩
    · intro path hpath
      have hcontent : run.content options = run.fileSystem.read path :=
        Invocation.content_of_path hpath
      refine ⟨hcontent, fun hname hfiles => ?_⟩
      rw [hcontent, Invocation.read_name hname hfiles]
    · intro hzero
      obtain ⟨kept, hscans⟩ | ⟨failure, hfailure⟩ := Invocation.exists_scans_or_failure hread
      · exact ⟨kept, hscans, hscans.exit_code_eq_zero_iff.1 hzero⟩
      · rw [Invocation.outcome_of_failure hread hfailure] at hzero
        cases hzero
    · rintro ⟨kept, hscans, hlegal⟩
      exact hscans.exit_code_eq_zero_iff.2 hlegal
    · intro kept hscans hlegal
      obtain ⟨tokens, htokens⟩ := (tokenize_ok_iff_legal options.sourceName kept).2 hlegal
      refine ⟨tokens, htokens, ?_⟩
      rw [Invocation.outcome, hscans.verdict_eq, Verdict.outcome, result_scan, htokens]
  · generalize run.outcome = seen at hends
    cases hends with
    | help _ | succeeded _ _ => exact fun hcode => absurd rfl hcode
    | rejected _ | unreadable _ _ | failed _ _ => exact fun _ => rfl

/-- A line ending between two numbers on the standard input is a failure, and nothing is printed
although a number comes before it. A file that is named is read in place of the standard input, and
the line ending behind its only number is left out. Without a file of this name, and with one that
ends inside a character, nothing is read, although the standard input is a number. -/
theorem outcome_of_sources :
    let run (arguments : List String) (input : String) : Invocation :=
      ⟨arguments, input.toUTF8, [("sum", "1\r\n".toUTF8), ("cut", ⟨#[0x31, 0xC3]⟩)], some "trace"⟩
    let stdin := (run ["--plain"] "1\n2\r\n").outcome
    let file := (run ["sum"] "@").outcome
    (stdin.exitCode ≠ 0 ∧ stdin.stdout = "") ∧
      (file.exitCode = 0 ∧ file.stdout = "INT:1\n") ∧
      (run ["none"] "1").outcome = ⟨1, "",
        "Error: read source file 'none'\n\n" ++
          "Caused by:\n    No such file or directory (os error 2)\n"⟩ ∧
      (run ["cut"] "1").outcome = ⟨1, "",
        "Error: read source file 'cut'\n\n" ++
          "Caused by:\n    stream did not contain valid UTF-8\n"⟩ := by
  intro run stdin file
  have hnames : ∀ input, ∀ written ∈ (run [] input).files, FileSystem.IsName written.1 :=
    fun _ => List.forall_mem_cons.2 ⟨by decide +kernel, List.forall_mem_singleton.2
      (by decide +kernel)⟩
  -- What a name leads to in the directory of these runs.
  have hcontent : ∀ name input, FileSystem.IsName name →
      Request.read [name] = .ok (.scan ⟨some name, .text, false⟩) →
        (run [name] input).content ⟨some name, .text, false⟩ =
          ((run [] input).files.reverse.lookup name).elim (.error .notFound) .ok := by
    intro name input hname hread
    obtain ⟨-, haccepted, -⟩ := outcome_all_or_nothing (run [name] input)
    obtain ⟨-, hfile, -⟩ := haccepted _ hread
    exact (hfile name rfl).2 hname (hnames input)
  refine ⟨?_, ?_, ?_, ?_⟩
  · have hread : Request.read ["--plain"] = .ok (.scan ⟨none, .text, true⟩) := by decide +kernel
    obtain ⟨-, haccepted, hnothing⟩ := outcome_all_or_nothing (run ["--plain"] "1\n2\r\n")
    obtain ⟨hinput, -, -, -⟩ := haccepted _ hread
    have hscans : (run ["--plain"] "1\n2\r\n").Scans ⟨none, .text, true⟩ _ :=
      ⟨hread, _, hinput rfl, Source.is_trimmed_without_final_line_endings "1\n2\r\n"⟩
    have hfails : stdin.exitCode ≠ 0 := by
      intro hzero
      have hlegal := List.all_eq_true.2 (hscans.exit_code_eq_zero_iff.1 hzero)
      exact absurd hlegal (by decide +kernel)
    exact ⟨hfails, hnothing hfails⟩
  · have hread : Request.read ["sum"] = .ok (.scan ⟨some "sum", .text, false⟩) := by
      decide +kernel
    obtain ⟨-, haccepted, -⟩ := outcome_all_or_nothing (run ["sum"] "@")
    obtain ⟨-, -, hzero, hprinted⟩ := haccepted _ hread
    have hbytes := hcontent "sum" "@" (by decide +kernel) hread
    have hscans : (run ["sum"] "@").Scans ⟨some "sum", .text, false⟩ _ :=
      ⟨hread, _, hbytes, Source.is_trimmed_without_final_line_endings "1\r\n"⟩
    have hlegal : ∀ c ∈ (Source.withoutFinalLineEndings "1\r\n").toList, isLegal c = true :=
      List.all_eq_true.1 (by decide +kernel)
    obtain ⟨tokens, htokens, hstdout⟩ := hprinted _ hscans hlegal
    have hint : tokenize "sum" (Source.withoutFinalLineEndings "1\r\n") = .ok [.int 1] := by
      decide +kernel
    obtain rfl : [.int 1] = tokens := Except.ok.inj (hint.symm.trans htokens)
    refine ⟨hzero.2 ⟨_, hscans, hlegal⟩, hstdout.trans ?_⟩
    decide +kernel
  · have hread : Request.read ["none"] = .ok (.scan ⟨some "none", .text, false⟩) := by
      decide +kernel
    have hfailure : IsFailure ((run ["none"] "1").content ⟨some "none", .text, false⟩) .notFound :=
      .inl (hcontent "none" "1" (by decide +kernel) hread)
    exact Invocation.outcome_of_failure hread hfailure
  · have hread : Request.read ["cut"] = .ok (.scan ⟨some "cut", .text, false⟩) := by
      decide +kernel
    have hbytes := hcontent "cut" "1" (by decide +kernel) hread
    have hnone : String.fromUTF8? ⟨#[0x31, 0xC3]⟩ = none := by decide +kernel
    have hfailure : IsFailure ((run ["cut"] "1").content ⟨some "cut", .text, false⟩) .notText := by
      refine .inr ⟨rfl, _, hbytes, ?_⟩
      intro text htext
      rw [from_utf8_eq_some_iff.2 htext] at hnone
      cases hnone
    exact Invocation.outcome_of_failure hread hfailure

end ArithTokens
