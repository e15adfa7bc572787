import ArithTokens.Proofs.Command
import ArithTokens.Proofs.Files
import ArithTokens.Proofs.Log

/-!
# What the result of a run depends on

The exit code and the standard output of a run depend on the bytes of its source and on the form of
printing alone: the setting of the log, the kind of report and the place where the bytes come from
are seen on the standard error only. What a setting shows of the log is an extract from all that is
told, and stands in front of what is written without a log (`result_independent_of_reporting`).
-/

namespace ArithTokens

/-! ## The name of a source -/

/-- The tokens of a text do not depend on its name. -/
theorem tokenize_of_other_name {name text : String} {tokens : List Token}
    (h : tokenize name text = .ok tokens) (other : String) :
    tokenize other text = .ok tokens := by
  obtain ⟨layout, hmaximal, htext, rfl⟩ := layout_of_tokenize h
  exact tokenize_of_layout other hmaximal htext

/-- A text that fails under one name fails under every other one. -/
theorem error_of_other_name {name text : String} {error : ScanError}
    (h : tokenize name text = .error error) (other : String) :
    ∃ otherError, tokenize other text = .error otherError := by
  cases hother : tokenize other text with
  | error otherError => exact ⟨otherError, rfl⟩
  | ok tokens =>
    rw [tokenize_of_other_name hother name] at h
    cases h

/-! ## The exit code and the standard output -/

/-- The same outcome, apart from what is written to the standard error. -/
def Outcome.SameResult (outcome other : Outcome) : Prop :=
  outcome.exitCode = other.exitCode ∧ outcome.stdout = other.stdout

/-- With one form of printing, the same bytes have the same result, whatever the source is called,
however errors are reported and whatever is shown of the log. -/
theorem Options.same_result {options otherOptions : Options}
    (hformat : options.format = otherOptions.format) (content : Except ReadFailure ByteArray)
    (filter otherFilter : Filter) :
    ((options.verdict content).outcome filter).SameResult
      ((otherOptions.verdict content).outcome otherFilter) := by
  obtain ⟨text, rfl⟩ | ⟨failure, hfailure⟩ := exists_text_or_failure content
  · have hkept := Source.is_trimmed_without_final_line_endings text
    rw [options.verdict_of_text hkept, otherOptions.verdict_of_text hkept, Verdict.outcome,
      Verdict.outcome, result_scan, result_scan]
    cases hresult : tokenize options.sourceName (Source.withoutFinalLineEndings text) with
    | ok tokens =>
      rw [tokenize_of_other_name hresult otherOptions.sourceName, hformat]
      exact ⟨rfl, rfl⟩
    | error error =>
      obtain ⟨otherError, hother⟩ := error_of_other_name hresult otherOptions.sourceName
      rw [hother]
      exact ⟨rfl, rfl⟩
  · rw [options.verdict_of_failure hfailure, otherOptions.verdict_of_failure hfailure]
    exact ⟨rfl, rfl⟩

/-! ## The standard error -/

namespace Verdict

/-- The entries of the log that a filter shows. Without a scan there are none. -/
def log (filter : Filter) : Verdict → List String
  | .scanned _ scan => scan.log filter
  | _ => []

/-- What a filter shows is an extract from what a filter shows that shows everything. -/
theorem log_sublist (verdict : Verdict) (filter : Filter) {full : Filter}
    (hfull : ∀ event : Event, full.shows event.heading = true) :
    (verdict.log filter).Sublist (verdict.log full) := by
  cases verdict with
  | rejected error => exact List.Sublist.refl _
  | help => exact List.Sublist.refl _
  | unreadable options failure => exact List.Sublist.refl _
  | scanned options scan =>
    show (scan.log filter).Sublist (scan.log full)
    rw [log_of_shown hfull]
    exact List.filter_sublist.map Event.entry

/-- What is written to the standard error is the log that a filter shows, and behind it what is
written when nothing of the log is shown. -/
theorem stderr_eq (verdict : Verdict) (filter : Filter) {silent : Filter}
    (hsilent : ∀ event : Event, silent.shows event.heading = false) :
    (verdict.outcome filter).stderr =
      printLines (verdict.log filter) ++ (verdict.outcome silent).stderr := by
  cases verdict with
  | rejected error => exact String.empty_append.symm
  | help => exact String.empty_append.symm
  | unreadable options failure => exact String.empty_append.symm
  | scanned options scan =>
    have hlog : scan.log silent = [] := by
      rw [Scan.log, List.filter_eq_nil_iff.2 fun event _ => by simp [hsilent event]]
      rfl
    have hempty : printLines [] = "" := rfl
    cases hresult : scan.result with
    | ok tokens =>
      simp only [outcome, hresult, hlog, hempty, String.append_empty]
      rfl
    | error error =>
      simp only [outcome, hresult, hlog, hempty, String.empty_append, String.append_assoc]
      rfl

end Verdict

/-- The most restrictive setting shows no event. -/
theorem not_shown_of_off (event : Event) :
    (Filter.ofSetting (some "off")).shows event.heading = false := by
  have hfilter : Filter.ofSetting (some "off") = ⟨[⟨[], .everything, .off⟩]⟩ := by decide +kernel
  rw [hfilter, Filter.shows, Filter.limit_of_level]
  cases event <;> rfl

/-- Runs with accepted arguments that read the same bytes and print in one form have the same exit
code and the same standard output. For every run and every setting of the log, the standard error is
the log that is shown and then the standard error without a log, and the log that is shown is an
extract from the one of which everything is shown. -/
theorem result_independent_of_reporting :
    (∀ (run other : Invocation) (options otherOptions : Options),
      Request.read run.arguments = .ok (.scan options) →
      Request.read other.arguments = .ok (.scan otherOptions) →
      run.content options = other.content otherOptions →
      options.format = otherOptions.format →
      run.outcome.exitCode = other.outcome.exitCode ∧ run.outcome.stdout = other.outcome.stdout) ∧
    ∀ (run : Invocation) (setting : Option String),
      let stderr (setting : Option String) := { run with logSetting := setting }.outcome.stderr
      let log (setting : Option String) := run.verdict.log (.ofSetting setting)
      stderr setting = printLines (log setting) ++ stderr (some "off") ∧
        (log setting).Sublist (log (some "trace")) := by
  constructor
  · intro run other options otherOptions haccepted hother hbytes hformat
    have hsame := Options.same_result hformat (run.content options)
      (.ofSetting run.logSetting) (.ofSetting other.logSetting)
    rw [Invocation.outcome, Invocation.outcome, Invocation.verdict_of_accepted haccepted,
      Invocation.verdict_of_accepted hother, ← hbytes]
    exact hsame
  · intro run setting stderr log
    exact ⟨run.verdict.stderr_eq (.ofSetting setting) not_shown_of_off,
      run.verdict.log_sublist (.ofSetting setting) shows_of_trace⟩

/-- A sum on standard input has the result of the same sum in a file, and a setting that leaves out
the tokens shows the first and the last entry of its log. -/
theorem result_of_sum_in_file :
    let sum := "1 +\n"
    let run : Invocation := ⟨["--plain"], sum.toUTF8, [], some "arith_lex=debug"⟩
    let other : Invocation := ⟨["sum"], .empty, [("sum", sum.toUTF8)], none⟩
    run.outcome.exitCode = other.outcome.exitCode ∧ run.outcome.stdout = other.outcome.stdout ∧
      run.outcome.stderr = printLines
          ["DEBUG arith_lex::scanner::lexer: scan started source=\"<stdin>\"",
            "DEBUG arith_lex::scanner::lexer: scan finished source=\"<stdin>\" tokens=2"] ++
        { run with logSetting := some "off" }.outcome.stderr := by
  intro sum run other
  let options : Options := ⟨none, .text, true⟩
  have haccepted : Request.read ["--plain"] = .ok (.scan options) := by decide +kernel
  have hother : Request.read ["sum"] = .ok (.scan ⟨some "sum", .text, false⟩) := by
    decide +kernel
  have hname : FileSystem.IsName "sum" := by decide +kernel
  have hbytes : run.content options = other.content ⟨some "sum", .text, false⟩ :=
    (Invocation.content_of_file hname rfl rfl).symm
  obtain ⟨hresult, hstderr⟩ := result_independent_of_reporting
  obtain ⟨hcode, hstdout⟩ := hresult run other _ _ haccepted hother hbytes rfl
  refine ⟨hcode, hstdout, (hstderr run (some "arith_lex=debug")).1.trans ?_⟩
  have hverdict : run.verdict = .scanned options (Source.scan ⟨"<stdin>", "1 +"⟩) := by
    have hkept : Source.IsTrimmed sum "1 +" := by
      have htrimmed : Source.withoutFinalLineEndings sum = "1 +" := by decide +kernel
      exact htrimmed ▸ Source.is_trimmed_without_final_line_endings sum
    exact (Invocation.verdict_of_accepted haccepted).trans (options.verdict_of_text hkept)
  rw [hverdict]
  have hlog : (Source.scan ⟨"<stdin>", "1 +"⟩).log (.ofSetting (some "arith_lex=debug")) =
      ["DEBUG arith_lex::scanner::lexer: scan started source=\"<stdin>\"",
        "DEBUG arith_lex::scanner::lexer: scan finished source=\"<stdin>\" tokens=2"] := by
    decide +kernel
  exact congrArg (printLines · ++ _) hlog

end ArithTokens
