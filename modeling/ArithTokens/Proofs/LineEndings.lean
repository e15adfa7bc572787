import ArithTokens.Proofs.Command
import ArithTokens.Proofs.Files

/-!
# Line endings at the end of a source

Line endings behind a source are not seen in anything that a run writes. They do not turn bytes that
are no text into one or the other way round (`from_utf8_append`), and they are left out of the text
that is scanned (`without_final_line_endings_append`), so that the run ends with the same verdict
(`outcome_append_line_endings`).
-/

namespace ArithTokens

/-! ## Bytes in front of a text -/

/-- Bytes in front of a text are a text if all of them together are one: where a text starts within
another one, a character ends. -/
theorem exists_text_of_append {bytes : ByteArray} {ending text : String}
    (h : bytes ++ ending.toUTF8 = text.toUTF8) : ∃ before : String, bytes = before.toUTF8 := by
  have hbytes : text.toByteArray = bytes ++ ending.toByteArray := h.symm
  have hsize : text.utf8ByteSize = bytes.size + ending.utf8ByteSize := by
    rw [← String.size_toByteArray, hbytes, ByteArray.size_append, String.size_toByteArray]
  have hvalid : String.Pos.Raw.IsValid text ⟨bytes.size⟩ := by
    rw [String.Pos.Raw.isValid_iff_isValidUTF8_extract_utf8ByteSize]
    refine ⟨Nat.le.intro hsize.symm, ?_⟩
    rw [hbytes, ByteArray.extract_append_eq_right rfl hsize]
    exact ending.isValidUTF8
  obtain ⟨-, hbefore⟩ := String.Pos.Raw.isValid_iff_isValidUTF8_extract_zero.1 hvalid
  rw [hbytes, ByteArray.extract_append_eq_left rfl] at hbefore
  exact ⟨.ofByteArray bytes hbefore, rfl⟩

/-- Bytes and a text behind them are read as the text of the bytes and the text behind it. -/
theorem from_utf8_append (bytes : ByteArray) (ending : String) :
    String.fromUTF8? (bytes ++ ending.toUTF8) = (String.fromUTF8? bytes).map (· ++ ending) := by
  cases htext : String.fromUTF8? bytes with
  | some text =>
    rw [from_utf8_eq_some_iff.1 htext, Option.map_some]
    exact from_utf8_eq_some_iff.2 String.toByteArray_append.symm
  | none =>
    refine Option.eq_none_iff_forall_ne_some.2 fun text hboth => ?_
    obtain ⟨before, hbefore⟩ := exists_text_of_append (from_utf8_eq_some_iff.1 hboth)
    rw [from_utf8_eq_some_iff.2 hbefore] at htext
    cases htext

/-- Line endings behind a text are left out with those at its end. -/
theorem Source.without_final_line_endings_append (text : String) {ending : String}
    (h : ∀ c ∈ ending.toList, isLineEnding c = true) :
    withoutFinalLineEndings (text ++ ending) = withoutFinalLineEndings text := by
  rw [withoutFinalLineEndings, String.toList_append, List.reverse_append,
    List.dropWhile_append_of_pos fun c hc => h c (List.mem_reverse.1 hc), withoutFinalLineEndings]

/-! ## Runs -/

/-- Line endings behind the bytes of a source do not change how a run ends, be it that they can be
read or not. -/
theorem Options.verdict_append (options : Options) (content : Except ReadFailure ByteArray)
    {ending : String} (h : ∀ c ∈ ending.toList, Source.isLineEnding c = true) :
    options.verdict (content.map (· ++ ending.toUTF8)) = options.verdict content := by
  cases content with
  | error failure => rfl
  | ok bytes =>
    simp only [verdict, Except.map, from_utf8_append]
    cases String.fromUTF8? bytes with
    | none => rfl
    | some text => simp only [Option.map_some, Source.without_final_line_endings_append text h]

/-- Of two runs with the same arguments and the same setting for the log nothing different is seen
if the one has the source of the other with line endings behind it, whichever source the arguments
ask for. -/
theorem outcome_append_line_endings {run other : Invocation} {ending : String}
    (harguments : other.arguments = run.arguments) (hsetting : other.logSetting = run.logSetting)
    (hending : ∀ c ∈ ending.toList, Source.isLineEnding c = true)
    (hsource : ∀ options, Request.read run.arguments = .ok (.scan options) →
      other.content options = (run.content options).map (· ++ ending.toUTF8)) :
    other.outcome = run.outcome := by
  have hverdict : other.verdict = run.verdict := by
    cases hread : Request.read run.arguments with
    | error error =>
      rw [Invocation.verdict_of_rejected hread,
        Invocation.verdict_of_rejected (harguments ▸ hread)]
    | ok request =>
      cases request with
      | help =>
        rw [Invocation.verdict_of_help hread, Invocation.verdict_of_help (harguments ▸ hread)]
      | scan options =>
        rw [Invocation.verdict_of_accepted hread,
          Invocation.verdict_of_accepted (harguments ▸ hread), hsource options hread]
        exact options.verdict_append _ hending
  rw [Invocation.outcome, Invocation.outcome, hverdict, hsetting]

/-- A drawn report shows no line endings behind its text, and a file that ends inside a character is
no text with line endings behind it either. -/
theorem outcome_of_framed_file :
    let run : ByteArray → Invocation := fun bytes =>
      ⟨["--format=json", "sum"], .empty, [("sum", bytes)], some "trace"⟩
    let cut : ByteArray := ⟨#[0x31, 0xC3]⟩
    (run ("(1\n$".toUTF8 ++ "\r\n\n".toUTF8)).outcome = (run "(1\n$".toUTF8).outcome ∧
      String.fromUTF8? cut = none ∧ (run (cut ++ "\n".toUTF8)).outcome = (run cut).outcome := by
  intro run cut
  have haccepted : Request.read ["--format=json", "sum"] =
      .ok (.scan ⟨some "sum", .json, false⟩) := by decide +kernel
  have hname : FileSystem.IsName "sum" := by decide +kernel
  have hsource : ∀ (bytes ending : ByteArray) (options : Options),
      Request.read ["--format=json", "sum"] = .ok (.scan options) →
        (run (bytes ++ ending)).content options =
          ((run bytes).content options).map (· ++ ending) := by
    intro bytes ending options hoptions
    obtain rfl : ⟨some "sum", .json, false⟩ = options :=
      Request.scan.inj (Except.ok.inj (haccepted.symm.trans hoptions))
    have hcontent : ∀ content, (run content).content ⟨some "sum", .json, false⟩ = .ok content :=
      fun content => Invocation.content_of_file hname rfl rfl
    rw [hcontent, hcontent]
    rfl
  have hlines : ∀ c ∈ "\r\n\n".toList, Source.isLineEnding c = true :=
    List.all_eq_true.1 (by decide +kernel)
  have hline : ∀ c ∈ "\n".toList, Source.isLineEnding c = true :=
    List.all_eq_true.1 (by decide +kernel)
  refine ⟨?_, by decide +kernel, ?_⟩
  · exact outcome_append_line_endings rfl rfl hlines (hsource _ _)
  · exact outcome_append_line_endings rfl rfl hline (hsource _ _)

end ArithTokens
