import ArithTokens.Proofs.Command
import ArithTokens.Proofs.Lines

/-!
# Where drawn reports point

`Report.Drawn` says what a line looks like when its tabs are drawn as spaces. The report of an error
draws the first line of the source, and the marks stand in the column in which the text before the
illegal character ends, which is where this character is drawn (`report_points_at_illegal`).
-/

namespace ArithTokens

namespace Report

/-- Says how a text is drawn from a column on: a tab as the spaces that lead to the next multiple of
four, and every other character as itself. -/
inductive Drawn : Nat → List Char → List Char → Prop where
  | nil {column : Nat} : Drawn column [] []
  | tab {column width : Nat} {rest drawn : List Char} :
      0 < width → width ≤ 4 → (column + width) % 4 = 0 → Drawn (column + width) rest drawn →
      Drawn column ('\t' :: rest) (List.replicate width ' ' ++ drawn)
  | char {column : Nat} {c : Char} {rest drawn : List Char} :
      c ≠ '\t' → Drawn (column + 1) rest drawn → Drawn column (c :: rest) (c :: drawn)

/-! ## Drawing texts -/

/-- A text is drawn with its tabs expanded. -/
theorem expand_tabs_drawn (column : Nat) (text : List Char) :
    Drawn column text (expandTabs column text) := by
  induction text generalizing column with
  | nil => exact .nil
  | cons c rest ih =>
    rw [expandTabs]
    split
    · next htab =>
      subst htab
      have hwidth := Nat.mod_lt column (y := tabStop) (by decide)
      have hsplit := Nat.div_add_mod column tabStop
      rw [tabStop] at *
      exact .tab (by omega) (by omega) (by omega) (ih _)
    · next htab => exact .char htab (ih _)

/-- There is one way to draw a text. -/
theorem Drawn.eq {column : Nat} {text drawn : List Char} (h : Drawn column text drawn) :
    drawn = expandTabs column text := by
  induction h with
  | nil => rfl
  | @tab column width rest drawn hpos hle hstop _ ih =>
    have hwidth : width = tabStop - column % tabStop := by
      rw [tabStop]
      omega
    rw [expandTabs, if_pos rfl, ← hwidth, ih]
  | char htab _ ih => rw [expandTabs, if_neg htab, ih]

/-- What is behind a text is drawn from the column on in which the text ends. -/
theorem expand_tabs_append (column : Nat) (before behind : List Char) :
    expandTabs column (before ++ behind) = expandTabs column before ++
      expandTabs (column + (expandTabs column before).length) behind := by
  induction before generalizing column with
  | nil => rfl
  | cons c before ih =>
    simp only [List.cons_append, expandTabs]
    split
    · rw [ih, List.append_assoc, List.length_append, List.length_replicate, Nat.add_assoc]
    · rw [ih, List.cons_append, List.length_cons, Nat.add_assoc, Nat.add_comm 1]

/-- A character that is no tab is drawn where the text before it ends. -/
theorem expand_tabs_append_cons {c : Char} (htab : c ≠ '\t') (before behind : List Char) :
    ∃ rest, expandTabs 0 (before ++ c :: behind) = expandTabs 0 before ++ c :: rest := by
  rw [expand_tabs_append, expandTabs, if_neg htab]
  exact ⟨_, rfl⟩

/-- The printable characters of ASCII are those from the blank to the tilde. Each of them takes one
column. -/
def IsPrintable (c : Char) : Prop := 32 ≤ c.toNat ∧ c.toNat ≤ 126

instance (c : Char) : Decidable (IsPrintable c) :=
  inferInstanceAs (Decidable (32 ≤ c.toNat ∧ c.toNat ≤ 126))

/-- A text of tabs and printable characters is drawn with printable characters. -/
theorem Drawn.is_printable {column : Nat} {text drawn : List Char} (h : Drawn column text drawn)
    (htext : ∀ c ∈ text, c = '\t' ∨ IsPrintable c) : ∀ c ∈ drawn, IsPrintable c := by
  induction h with
  | nil => simp
  | tab _ _ _ _ ih =>
    intro c hc
    rcases List.mem_append.1 hc with hc | hc
    · rw [List.eq_of_mem_replicate hc]
      exact ⟨by decide, by decide⟩
    · exact ih (fun d hd => htext d (List.mem_cons_of_mem _ hd)) c hc
  | char htab _ ih =>
    intro c hc
    rcases List.mem_cons.1 hc with rfl | hc
    · exact (htext c List.mem_cons_self).resolve_left htab
    · exact ih (fun d hd => htext d (List.mem_cons_of_mem _ hd)) c hc

/-- Lines of the source are numbered one after the other. -/
theorem source_rows_eq (number : Nat) (lines : List (List Char)) :
    sourceRows number lines = lines.mapIdx fun index line =>
      " " ++ (number + index).repr ++ " │ " ++ String.ofList line := by
  induction lines generalizing number with
  | nil => rfl
  | cons line lines ih =>
    simp only [sourceRows, sourceRow, ih, List.mapIdx_cons, Nat.add_zero, Nat.add_assoc,
      Nat.add_comm 1]

/-- The rows of a report, from its header on each with the characters that stand in front of the
source. -/
theorem rows_eq (report : Report) :
    report.rows = [report.code, ""] ++ messageRows report.message ++
      ["   ╭─[" ++ report.place ++ "]",
        " " ++ report.number.repr ++ " │ " ++ String.ofList report.line,
        "   · " ++ String.ofList (List.replicate report.mark ' ') ++ "┬",
        "   · " ++ String.ofList (List.replicate report.mark ' ') ++ ("╰── " ++ report.label)] ++
      (report.following.mapIdx fun index line =>
        " " ++ (report.number + 1 + index).repr ++ " │ " ++ String.ofList line) ++
      ["   ╰────", ""] := by
  rw [rows, source_rows_eq]
  rfl

end Report

/-! ## The first line of a text -/

/-- The characters up to the first newline. -/
def firstLine (text : List Char) : List Char := text.takeWhile (· ≠ '\n')

/-- They are the first line. -/
theorem exists_split_eq (text : List Char) :
    ∃ lines, text.splitOn '\n' = firstLine text :: lines := by
  induction text with
  | nil => exact ⟨[], rfl⟩
  | cons c rest ih =>
    obtain ⟨lines, hlines⟩ := ih
    rw [List.splitOn_cons_eq_if_modifyHead, hlines]
    by_cases hc : c = '\n'
    · exact ⟨firstLine rest :: lines, by simp [firstLine, hc]⟩
    · exact ⟨lines, by simp [firstLine, hc]⟩

/-- The first line has characters of the text and no newline. -/
theorem mem_first_line {text : List Char} {c : Char} (h : c ∈ firstLine text) :
    c ∈ text ∧ c ≠ '\n' :=
  ⟨List.takeWhile_subset _ h, of_decide_eq_true (List.all_eq_true.1 List.all_takeWhile c h)⟩

/-- Behind characters without a newline, the first line of a text ends if a newline follows, and
goes on with any other character. -/
theorem first_line_of_get {text : List Char} {index : Nat} {c : Char}
    (hcurrent : text[index]? = some c) (hbefore : '\n' ∉ text.take index) :
    (firstLine text).take index = text.take index ∧
      (c = '\n' → firstLine text = text.take index) ∧
      (c ≠ '\n' → ∃ behind, firstLine text = text.take index ++ c :: behind) := by
  obtain ⟨hindex, hget⟩ := List.getElem?_eq_some_iff.1 hcurrent
  have hline : firstLine text =
      text.take index ++ (c :: text.drop (index + 1)).takeWhile (· ≠ '\n') := by
    have hrun : ∀ d ∈ text.take index, decide (d ≠ '\n') = true := by
      intro d hd
      refine decide_eq_true ?_
      rintro rfl
      exact hbefore hd
    rw [firstLine, ← List.takeWhile_append_of_pos hrun, ← hget, List.getElem_cons_drop,
      List.take_append_drop]
  have hlength : (text.take index).length = index := List.length_take_of_le (Nat.le_of_lt hindex)
  refine ⟨?_, ?_, ?_⟩
  · rw [hline, List.take_left' hlength]
  · rintro rfl
    simp [hline]
  · intro hc
    exact ⟨(text.drop (index + 1)).takeWhile (· ≠ '\n'), by simp [hline, hc]⟩

/-! ## Reports of illegal characters -/

/-- A run that draws its report of an error writes the rows of it behind the log. -/
theorem Invocation.Scans.stderr_eq {run : Invocation} {options : Options} {kept : String}
    {error : ScanError} (h : run.Scans options kept) (hplain : options.plain = false)
    (herror : tokenize options.sourceName kept = .error error) :
    run.outcome.stderr =
      printLines ((Source.scan ⟨options.sourceName, kept⟩).log (.ofSetting run.logSetting)) ++
        printLines (Report.ofError error).rows ++ "Error: scan failed\n" := by
  rw [outcome, h.verdict_eq, Verdict.outcome, result_scan, herror]
  simp only [Options.report, hplain, Bool.false_eq_true, ↓reduceIte]

/-- The report of the first illegal character of a text. -/
theorem Report.of_illegal (source : Source) {index : Nat} {c : Char}
    (hcurrent : source.text.toList[index]? = some c)
    (hbefore : ∀ d ∈ source.text.toList.take index, isLegal d = true) :
    let report := ofError ((Scanner.ofIndex source index).illegal c)
    report.code = "arith::lex" ∧ report.label = "here" ∧ report.number = 1 ∧
      report.place = source.name ++ ":1:" ++ (index + 1).repr ∧
      report.line = expandTabs 0 (source.lines.getD 0 []) ∧
      report.mark = (expandTabs 0 ((source.lines.getD 0 []).take index)).length ∧
      report.following = ((source.lines.drop 1).take (if c = '\n' then 2 else 1)).map
        (expandTabs 0) := by
  rw [Scanner.illegal_of_index source hcurrent hbefore]
  refine ⟨rfl, rfl, rfl, ?_, rfl, rfl, ?_⟩
  · have hline : (0 + 1).repr = "1" := rfl
    simp only [ofError, Place.text, Place.next, hline, String.append_assoc]
    rfl
  · by_cases hc : c = '\n'
    · simp [ofError, ScanError.source, hc]
    · simp [ofError, ScanError.source, hc]

/-- The report of the first illegal character of a text whose characters all take one column. Its
header has the character's line and column for a reader. The first line of the text is drawn with
its tabs expanded, and the marks stand in the column in which the text before the character ends
when it is drawn: where the character itself is drawn, or behind the line if it is the newline at
its end. Below them the next line of the text is drawn if there is one, or the next two if the
character is a newline. -/
theorem report_points_at_illegal (name : String) {text : String} {index : Nat} {c : Char}
    (hprintable : ∀ d ∈ text.toList, d = '\n' ∨ d = '\t' ∨ Report.IsPrintable d)
    (hcurrent : text.toList[index]? = some c) (hillegal : isLegal c = false)
    (hbefore : ∀ d ∈ text.toList.take index, isLegal d = true) :
    ∃ (error : ScanError) (line row before : List Char) (following : List (List Char)),
      tokenize name text = .error error ∧
      (∀ (run : Invocation) (options : Options), run.Scans options text →
        options.sourceName = name → options.plain = false → run.outcome.stderr =
          printLines ((Source.scan ⟨name, text⟩).log (.ofSetting run.logSetting)) ++
            printLines (Report.ofError error).rows ++ "Error: scan failed\n") ∧
      (Report.ofError error).rows =
        ["arith::lex", ""] ++ Report.messageRows (Report.ofError error).message ++
          ["   ╭─[" ++ (name ++ ":1:" ++ (index + 1).repr) ++ "]",
            " 1 │ " ++ String.ofList row,
            "   · " ++ String.ofList (List.replicate before.length ' ') ++ "┬",
            "   · " ++ String.ofList (List.replicate before.length ' ') ++ "╰── here"] ++
          (following.mapIdx fun number next =>
            " " ++ (2 + number).repr ++ " │ " ++ String.ofList next) ++
          ["   ╰────", ""] ∧
      (Source.mk name text).lines[0]? = some line ∧
      Report.Drawn 0 line row ∧
      (∀ d ∈ row, Report.IsPrintable d) ∧
      Report.Drawn 0 (text.toList.take index) before ∧
      (c ≠ '\n' → ∃ behind, row = before ++ c :: behind) ∧
      (c = '\n' → row = before) ∧
      List.Forall₂ (Report.Drawn 0)
        (((Source.mk name text).lines.drop 1).take (if c = '\n' then 2 else 1)) following := by
  have herror := tokenize_of_illegal name hcurrent hillegal hbefore
  have hnewline : '\n' ∉ text.toList.take index :=
    fun hmem => ne_newline_of_legal (hbefore _ hmem) rfl
  obtain ⟨hbeginning, hends, hgoes⟩ := first_line_of_get hcurrent hnewline
  obtain ⟨lines, hlines⟩ := exists_split_eq text.toList
  obtain ⟨hcode, hlabel, hnumber, hplace, hline, hmark, hfollowing⟩ :=
    Report.of_illegal ⟨name, text⟩ hcurrent hbefore
  have hsource : (Source.mk name text).lines = firstLine text.toList :: lines := hlines
  rw [hsource, List.getD_cons_zero] at hline hmark
  rw [hbeginning] at hmark
  have hrow := Report.expand_tabs_drawn 0 (firstLine text.toList)
  refine ⟨_, firstLine text.toList, Report.expandTabs 0 (firstLine text.toList),
    Report.expandTabs 0 (text.toList.take index),
    (Report.ofError ((Scanner.ofIndex ⟨name, text⟩ index).illegal c)).following, herror, ?_, ?_, ?_,
    hrow, ?_, Report.expand_tabs_drawn 0 _, ?_, ?_, ?_⟩
  · rintro run options hscans rfl hplain
    exact hscans.stderr_eq hplain herror
  · rw [Report.rows_eq, hcode, hlabel, hnumber, hplace, hline, hmark]
    rfl
  · rw [hsource]
    rfl
  · refine hrow.is_printable fun d hd => ?_
    obtain ⟨hmem, hne⟩ := mem_first_line hd
    exact (hprintable d hmem).resolve_left hne
  · intro hc
    obtain ⟨behind, hbehind⟩ := hgoes hc
    have htab : c ≠ '\t' := by
      rintro rfl
      exact absurd hillegal (by decide)
    rw [hbehind]
    exact Report.expand_tabs_append_cons htab _ behind
  · intro hc
    rw [hends hc]
  · rw [hfollowing, List.forall₂_map_right_iff, List.forall₂_same]
    exact fun next _ => Report.expand_tabs_drawn 0 next

/-- Behind a tab the marks stand under the illegal character and not at its index, and of the lines
that follow only the first one is drawn. -/
theorem report_behind_tab :
    ∃ error, tokenize "<stdin>" "1\t@ 2\n\t3\n4" = .error error ∧
      (Report.ofError error).rows =
        ["arith::lex", ""] ++ Report.messageRows (Report.ofError error).message ++
        ["   ╭─[<stdin>:1:3]", " 1 │ 1   @ 2", "   ·     ┬", "   ·     ╰── here", " 2 │     3",
          "   ╰────", ""] := by
  let text := "1\t@ 2\n\t3\n4"
  have hall : (text.toList.all fun d =>
      decide (d = '\n' ∨ d = '\t' ∨ Report.IsPrintable d)) = true := by decide +kernel
  have hprintable : ∀ d ∈ text.toList, d = '\n' ∨ d = '\t' ∨ Report.IsPrintable d :=
    fun d hd => of_decide_eq_true (List.all_eq_true.1 hall d hd)
  have hbefore : ∀ d ∈ text.toList.take 2, isLegal d = true :=
    List.all_eq_true.1 (by decide +kernel)
  obtain ⟨error, line, row, before, following, herror, -, hrows, hline, hrow, -, hdrawn, -, -,
    hfollowing⟩ := report_points_at_illegal "<stdin>" hprintable (by decide +kernel : _ = some '@')
    rfl hbefore
  have hfirst : (Source.mk "<stdin>" text).lines[0]? = some ['1', '\t', '@', ' ', '2'] := by
    decide +kernel
  obtain rfl : ['1', '\t', '@', ' ', '2'] = line := Option.some.inj (hfirst.symm.trans hline)
  have hnext : ((Source.mk "<stdin>" text).lines.drop 1).take 1 = [['\t', '3']] := by
    decide +kernel
  change List.Forall₂ (Report.Drawn 0) (((Source.mk "<stdin>" text).lines.drop 1).take 1)
    following at hfollowing
  rw [hnext] at hfollowing
  obtain ⟨next, rest, hdrawnNext, hrest, rfl⟩ := List.forall₂_cons_left_iff.1 hfollowing
  obtain rfl := List.forall₂_nil_left_iff.1 hrest
  refine ⟨error, herror, ?_⟩
  rw [hrows, hrow.eq, hdrawn.eq, hdrawnNext.eq, List.append_assoc _ _ ["   ╰────", ""],
    List.append_assoc]
  congr 1
  decide +kernel

end ArithTokens
