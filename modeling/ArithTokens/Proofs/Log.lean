import ArithTokens.Proofs.Output

/-!
# What the log tells

The log is written while a scan goes on, one entry at a step. It tells the same as what the scan
leaves behind when it has ended (`Source.told_eq_events`). Hence a log of which everything is shown
agrees with the result: it has the start, every token and the end, and if the text has an error, the
tokens are those of the text before the first illegal character (`log_agrees_with_result`).
-/

namespace ArithTokens

/-! ## Telling step by step -/

/-- How the end of a scan is told when some number of tokens have been told. -/
def Scan.ending (scan : Scan) (count : Nat) : Event :=
  match scan.error? with
  | none => .finished scan.source count
  | some error => .aborted error

namespace Scanner

/-- What a scan tells from here on, step by step, when it has told some number of tokens. -/
def told (s : Scanner) (count : Nat) : List Event :=
  match _h : s.step with
  | .finish => [.finished s.place.source count]
  | .reject c => [.aborted (s.illegal c)]
  | .pass token? passed =>
    token?.toList.map .token ++ (s.advanceBy passed).told (count + token?.toList.length)
termination_by s.remaining
decreasing_by exact pass_remaining_lt _h

variable {s : Scanner}

/-- A finished scan tells the number of its tokens. -/
theorem told_of_finish (h : s.step = .finish) (count : Nat) :
    s.told count = [.finished s.place.source count] := by
  rw [told]
  split <;> simp_all

/-- A rejected character is told as the error. -/
theorem told_of_reject {c : Char} (h : s.step = .reject c) (count : Nat) :
    s.told count = [.aborted (s.illegal c)] := by
  rw [told]
  split <;> simp_all

/-- The token of the characters that are passed, if they make one, is told before anything else. -/
theorem told_of_pass {token? : Option Token} {passed : Nat} (h : s.step = .pass token? passed)
    (count : Nat) :
    s.told count =
      token?.toList.map .token ++ (s.advanceBy passed).told (count + token?.toList.length) := by
  rw [told]
  split <;> simp_all

/-- What is told step by step are the tokens that the scan finds, and then how it ends. -/
theorem told_eq (s : Scanner) (count : Nat) :
    s.told count = s.scan.tokens.map .token ++ [s.scan.ending (count + s.scan.tokens.length)] := by
  induction hremaining : s.remaining using Nat.strongRecOn generalizing s count with
  | ind remaining ih =>
    subst hremaining
    cases hstep : s.step with
    | finish =>
      rw [told_of_finish hstep, scan_of_finish hstep]
      rfl
    | reject c =>
      rw [told_of_reject hstep, scan_of_reject hstep]
      rfl
    | pass token? passed =>
      rw [told_of_pass hstep, ih _ (pass_remaining_lt hstep) _ _ rfl, scan_of_pass hstep,
        List.map_append, List.append_assoc, List.length_append, Nat.add_assoc]
      rfl

end Scanner

namespace Source

/-- What the scan of a source tells. -/
def told (source : Source) : List Event := .started source :: (Scanner.start source).told 0

/-- The source that is scanned is the one that a scan names. -/
theorem scan_source (source : Source) : source.scan.source = source := by
  by_cases hlegal : ∀ c ∈ source.text.toList, isLegal c = true
  · obtain ⟨layout, -, -, hscan⟩ := source.scan_of_legal hlegal
    rw [hscan]
  · push Not at hlegal
    obtain ⟨index, c, hcurrent, hillegal, hbefore⟩ :=
      exists_first_illegal (by simpa using hlegal : ∃ c ∈ source.text.toList, isLegal c = false)
    obtain ⟨layout, -, -, hscan⟩ := source.scan_of_illegal hcurrent hillegal hbefore
    rw [hscan]

/-- The events of a scan are those that it tells step by step. -/
theorem told_eq_events (source : Source) : source.told = source.scan.events := by
  have hscan : (Scanner.start source).scan = source.scan := rfl
  calc source.told
      = .started source ::
          (source.scan.tokens.map .token ++ [source.scan.ending source.scan.tokens.length]) := by
        rw [told, Scanner.told_eq, hscan, Nat.zero_add]
    _ = .started source.scan.source ::
          (source.scan.tokens.map .token ++ [source.scan.ending source.scan.tokens.length]) := by
        rw [scan_source]
    _ = source.scan.events := rfl

end Source

/-! ## Filters -/

/-- A level alone is the limit for everything. -/
theorem Filter.limit_of_level (level : Level) (heading : Heading) :
    Filter.limit ⟨[⟨[], .everything, level⟩]⟩ heading = level := rfl

/-- The most permissive setting shows every event. -/
theorem shows_of_trace (event : Event) :
    (Filter.ofSetting (some "trace")).shows event.heading = true := by
  have hfilter : Filter.ofSetting (some "trace") = ⟨[⟨[], .everything, .trace⟩]⟩ := by
    decide +kernel
  rw [hfilter, Filter.shows, Filter.limit_of_level]
  cases event <;> rfl

/-- A log of which everything is shown is an entry for each event. -/
theorem log_of_shown {filter : Filter} (h : ∀ event : Event, filter.shows event.heading = true)
    (scan : Scan) : scan.log filter = scan.events.map Event.entry := by
  rw [Scan.log, List.filter_eq_self.2 fun event _ => h event]

/-! ## Entries -/

namespace Event

/-- What stands in front of the start and the end of a scan. -/
theorem entry_of_debug {event : Event} (h : event.level = .debug) :
    event.entry = "DEBUG arith_lex::scanner::lexer: " ++ event.message := by
  have hheading : Level.name .debug ++ " " ++ target ++ ": " =
      "DEBUG arith_lex::scanner::lexer: " := by decide +kernel
  rw [entry, h, hheading]

/-- What stands in front of a token. -/
theorem entry_of_trace {event : Event} (h : event.level = .trace) :
    event.entry = "TRACE arith_lex::scanner::lexer: " ++ event.message := by
  have hheading : Level.name .trace ++ " " ++ target ++ ": " =
      "TRACE arith_lex::scanner::lexer: " := by decide +kernel
  rw [entry, h, hheading]

end Event

/-! ## The events of a scan and its result -/

/-- The events of a scan that succeeds. -/
theorem events_of_tokenize {name text : String} {tokens : List Token}
    (h : tokenize name text = .ok tokens) :
    (Source.scan ⟨name, text⟩).events =
      .started ⟨name, text⟩ :: tokens.map .token ++ [.finished ⟨name, text⟩ tokens.length] := by
  rw [tokenize, Scan.result] at h
  split at h
  · next herror =>
    cases h
    rw [Scan.events, Source.scan_source, herror]
  · cases h

/-- The events of a scan that fails at a character: the tokens are those of the text before it. -/
theorem events_of_illegal {name text : String} {index : Nat} {c : Char}
    (hcurrent : text.toList[index]? = some c) (hillegal : isLegal c = false)
    (hbefore : ∀ d ∈ text.toList.take index, isLegal d = true) :
    ∃ tokens, (∀ other, tokenize other (String.ofList (text.toList.take index)) = .ok tokens) ∧
      (Source.scan ⟨name, text⟩).events = .started ⟨name, text⟩ :: tokens.map .token ++
        [.aborted ((Scanner.ofIndex ⟨name, text⟩ index).illegal c)] := by
  obtain ⟨layout, hmaximal, htext, hscan⟩ :=
    Source.scan_of_illegal ⟨name, text⟩ hcurrent hillegal hbefore
  refine ⟨layout.tokens, ?_, ?_⟩
  · intro other
    exact tokenize_of_layout other hmaximal (htext.trans String.toList_ofList.symm)
  · rw [hscan]
    rfl

/-- The end of a scan at its first illegal character tells the first line, on which it stands behind
as many characters as come before it. -/
theorem message_of_illegal (name : String) {text : String} {index : Nat} {c : Char}
    (hcurrent : text.toList[index]? = some c)
    (hbefore : ∀ d ∈ text.toList.take index, isLegal d = true) :
    (Event.aborted ((Scanner.ofIndex ⟨name, text⟩ index).illegal c)).message =
      "scan aborted position=" ++ name ++ ":1:" ++ (index + 1).repr ++ " error=" ++
        ((Scanner.ofIndex ⟨name, text⟩ index).illegal c).detail := by
  have hline : ":" ++ (0 + 1).repr ++ ":" = ":1:" := by decide +kernel
  have hplace : ((Scanner.ofIndex ⟨name, text⟩ index).illegal c).start.text =
      name ++ ":1:" ++ (index + 1).repr := by
    rw [Scanner.illegal_of_index ⟨name, text⟩ hcurrent hbefore, Place.text, ← hline]
    simp only [Place.next, String.append_assoc]
  show "scan aborted position=" ++ _ ++ " error=" ++ _ = _
  rw [hplace]
  simp only [String.append_assoc]

/-- A log of which everything is shown has an entry for the start of the scan, one for each token in
order, and one for the end. After a success the tokens are those of the result, each with the line
that is printed for it, and they are counted. After a failure they are those of the text before the
first illegal character, and the end names the place of this character and the detail of the
error. -/
theorem log_agrees_with_result (name text : String) {filter : Filter}
    (hshown : ∀ event : Event, filter.shows event.heading = true) :
    let source : Source := ⟨name, text⟩
    let debug (words : String) := "DEBUG arith_lex::scanner::lexer: " ++ words
    let trace (words : String) := "TRACE arith_lex::scanner::lexer: " ++ words
    let entries (tokens : List Token) (last : String) :=
      debug ("scan started source=\"" ++ name ++ "\"") ::
        tokens.map (fun token => trace ("token token=" ++ token.text)) ++ [debug last]
    source.scan.events = source.told ∧
    (∀ tokens, tokenize name text = .ok tokens →
      source.scan.log filter =
        entries tokens ("scan finished source=\"" ++ name ++ "\" tokens=" ++ tokens.length.repr) ∧
      (Format.text.print tokens).toList.splitOn '\n' =
        tokens.map (fun token => token.text.toList) ++ [[]]) ∧
    ∀ error, tokenize name text = .error error →
      ∃ index c tokens, text.toList[index]? = some c ∧ isLegal c = false ∧
        (∀ d ∈ text.toList.take index, isLegal d = true) ∧ error.start.offset = some index ∧
        (∀ other, tokenize other (String.ofList (text.toList.take index)) = .ok tokens) ∧
        source.scan.log filter =
          entries tokens ("scan aborted position=" ++ name ++ ":1:" ++ (index + 1).repr ++
            " error=" ++ error.detail) := by
  intro source debug trace entries
  -- Both ends of a scan are told in one way after the same start and the tokens found.
  have hentries : ∀ tokens event, event.level = .debug →
      (Event.started source :: tokens.map .token ++ [event]).map Event.entry =
        entries tokens event.message := by
    intro tokens event hlevel
    rw [List.map_append, List.map_cons, List.map_map, List.map_singleton,
      Event.entry_of_debug rfl, Event.entry_of_debug hlevel]
    have htoken : Event.entry ∘ Event.token = fun t => trace ("token token=" ++ t.text) :=
      funext fun t => Event.entry_of_trace rfl
    rw [htoken]
    rfl
  refine ⟨source.told_eq_events.symm, ?_, ?_⟩
  · intro tokens htokens
    refine ⟨?_, split_print_text tokens⟩
    rw [log_of_shown hshown, events_of_tokenize htokens, hentries _ _ rfl]
    rfl
  · intro error herror
    have hfails : ∃ c ∈ text.toList, isLegal c = false := by
      by_contra hlegal
      push Not at hlegal
      obtain ⟨tokens, htokens⟩ := (tokenize_ok_iff_legal name text).2 (by simpa using hlegal)
      rw [htokens] at herror
      cases herror
    obtain ⟨index, c, hcurrent, hillegal, hbefore⟩ := exists_first_illegal hfails
    obtain ⟨tokens, htokens, hevents⟩ := events_of_illegal hcurrent hillegal hbefore
    obtain rfl : (Scanner.ofIndex source index).illegal c = error :=
      Except.error.inj ((tokenize_of_illegal name hcurrent hillegal hbefore).symm.trans herror)
    refine ⟨index, c, tokens, hcurrent, hillegal, hbefore, rfl, htokens, ?_⟩
    rw [log_of_shown hshown, hevents, hentries _ _ rfl, message_of_illegal name hcurrent hbefore]

/-- The token in front of a newline is told although the scan of the text has no tokens, and the
newline that is the error does not end the entry. -/
theorem log_up_to_newline :
    ∃ error, tokenize "sum" "1.\n2" = .error error ∧
      (Source.scan ⟨"sum", "1.\n2"⟩).log (.ofSetting (some "trace")) =
        ["DEBUG arith_lex::scanner::lexer: scan started source=\"sum\"",
          "TRACE arith_lex::scanner::lexer: token token=FLOAT:1.0",
          "DEBUG arith_lex::scanner::lexer: scan aborted position=sum:1:3 error='\n'"] := by
  have hcurrent : "1.\n2".toList[2]? = some '\n' := by decide +kernel
  have hlegal : ∀ d ∈ "1.\n2".toList.take 2, isLegal d = true :=
    List.all_eq_true.1 (by decide +kernel)
  have herror := tokenize_of_illegal "sum" hcurrent rfl hlegal
  obtain ⟨-, -, hfailed⟩ := log_agrees_with_result "sum" "1.\n2" shows_of_trace
  obtain ⟨index, c, tokens, -, -, -, hoffset, htokens, hlog⟩ := hfailed _ herror
  obtain rfl : 2 = index := Option.some.inj hoffset
  have hbefore : tokenize "sum" (String.ofList ("1.\n2".toList.take 2)) =
      .ok [.float (.ofBits 0x3FF0000000000000)] := by decide +kernel
  obtain rfl : [.float (.ofBits 0x3FF0000000000000)] = tokens :=
    Except.ok.inj (hbefore.symm.trans (htokens "sum"))
  refine ⟨_, herror, hlog.trans ?_⟩
  decide +kernel

end ArithTokens
