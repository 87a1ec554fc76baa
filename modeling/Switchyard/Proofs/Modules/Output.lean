import Switchyard.Modules.Diagnostics
import Switchyard.Proofs.Pattern.Line
import Switchyard.Proofs.Supervisor.Reading

/-!
# Switchyard.Proofs.Modules.Output

**`run` and `check` see the same output** (`run_records_lines_of_check`): the lines that a
supervised command has recorded when it has ended are the lines of the text that `check` answers for
the same bytes, in whatever reads they came.

`run` cuts the bytes and then decodes each line, `check` decodes them all at once; that decoding
goes line by line makes the two agree. The handler of `run` takes the whole of each line
(`reaction_lineRecorder`), so it adds one entry for each.

Both requests are given the same bytes, as what the child writes to its output up to its end. `run`
gets them in reads of any size, and the hypothesis on the reads is only that together they are these
bytes. The part of the statement about reads is in two halves: there is a run of the parties of the
command that takes them all, and every run that has taken them all and finished the record has the
same lines.
-/

namespace Switchyard.Modules.Diagnostics

open Route Supervisor

/-- The entry of a record for a line. -/
def lineEntry (text : String) : Json :=
  .object [("line", .string text)]

/-- The lines of a text; nothing after the last line feed is no line. So a text that ends with a
line feed has no empty line at its end. -/
def textLines (text : String) : List String :=
  (linesAt '\n' text.toList).map String.ofList

/-! ### What is recorded -/

/-- Records every line. -/
def lineRecorder : LineHandler :=
  ⟨Pattern.restOfLine, fun groups _ => .append (lineEntry ((groups.headD none).getD ""))⟩

theorem lineHandler_eq : lineHandler = .ok lineRecorder := by
  have hpattern : "^(?:" ++ ".*" ++ ")" = "^(?:.*)" := rfl
  unfold lineHandler LineHandler.of
  rw [hpattern, Pattern.ofText?_restOfLine]
  rfl

theorem lineRecorder_calm : lineRecorder.Calm :=
  fun _ _ => rfl

/-- The whole line is taken: the pattern matches all of it, whatever characters are in it. -/
theorem reaction_lineRecorder {line : String} (h : '\n' ∉ line.toList) (r : Record) :
    lineRecorder.reaction line r = .append (lineEntry line) := by
  unfold LineHandler.reaction lineRecorder
  dsimp only
  rw [Pattern.captures?_restOfLine h, String.ofList_toList]
  rfl

/-- The lines of decoded bytes are the decoded lines. A line feed is never a part of a longer
character, whether those around it are sound or not. -/
theorem textLines_decodeLossy (b : Octets) :
    textLines (Utf8.decodeLossy b) = (linesOf b).map Utf8.decodeLossy := by
  unfold textLines
  rw [Utf8.decodeLossy_eq, String.toList_ofList, Utf8.linesAt_lossyChars, linesOf_eq_linesAt,
    List.map_map]
  rfl

theorem records_recordOf (id : String) (b : Octets) :
    (Watch.recordOf id [lineRecorder] (linesOf b)).records =
      (textLines (Utf8.decodeLossy b)).map lineEntry := by
  have hlines : ∀ line ∈ linesOf b, ∀ r, lineRecorder.reaction (Utf8.decodeLossy line) r =
      .append (lineEntry (Utf8.decodeLossy line)) := by
    intro line hline r
    rw [linesOf_eq_linesAt] at hline
    refine reaction_lineRecorder ?_ r
    rw [Utf8.decodeLossy_eq, String.toList_ofList]
    exact Utf8.newline_notMem_lossyChars (notMem_of_mem_linesAt hline)
  rw [Watch.recordOf, workOff_showing hlines, textLines_decodeLossy, List.map_map]
  rfl

theorem length_textLines (b : Octets) :
    (textLines (Utf8.decodeLossy b)).length =
      b.count lineFeed + if b = [] ∨ b.getLast? = some lineFeed then 0 else 1 := by
  rw [textLines_decodeLossy, List.length_map, linesOf_eq_linesAt, length_linesAt]

/-! ### Both requests -/

/-- A command of `run` that was started and stored. -/
def beginning (id : String) : Watch :=
  (Watch.start id [lineRecorder]).steps [.spawn (.ok ()), .store]

theorem beginning_awaits (id : String) : (beginning id).Awaits where
  stage := rfl
  reading := rfl
  tasks := rfl
  calm _ hh := List.mem_singleton.mp hh ▸ lineRecorder_calm

/-- A record that is finished after some reads is that of the lines in what was read. How the reads
were cut is not in the result. -/
theorem records_of_hears {id : String} {reads : List Octets} {v : Watch}
    (h : (beginning id).Hears reads v) (hexited : v.record.exited = true) :
    v.record.records = (textLines (Utf8.decodeLossy reads.flatten)).map lineEntry := by
  obtain ⟨events, hrun, hreads, hlost⟩ := h
  have hbegun : Run Watch.step (.start id [lineRecorder]) [.spawn (.ok ()), .store]
      (beginning id) := .of_foldlM rfl
  have hcalm : ∀ h ∈ [lineRecorder], h.Calm := fun h hh =>
    List.mem_singleton.mp hh ▸ lineRecorder_calm
  obtain ⟨retval, -, -, -, hrecord⟩ :=
    Watch.complete_of_exited hcalm (hbegun.trans hrun) (by simp [hlost]) hexited
  have houtput : outputOf ([.spawn (.ok ()), .store] ++ events) = reads.flatten := by
    rw [← hreads, flatten_readsOf]
    rfl
  rw [hrecord, houtput]
  exact records_recordOf id reads.flatten

/-- What `check` answers for an exit code and the text of the output. -/
def checked (retval : Int) (stdout : String) : Json :=
  .ofMembers [("retval", .int retval), ("stdout", .string stdout)]

section Requests

variable {setup : Setup} {data : Json} {args : List String} {c : Conduct}

theorem check_returned (hnamed : requested setup.table data = .ok args)
    (hspawned : (prepare setup.root args).bind (spawn setup.host 0) = .ok c) (s : State) :
    (check setup data s).outcome = .returned (checked (waitFor (some checkLimit) c).exit.code
      (Utf8.decodeLossy ((waitFor (some checkLimit) c).conduct.written .output))) := by
  simp only [check, hnamed, Supervisor.run, hspawned, checked]

theorem beginCommand_started {host : Host} {root : Option String}
    (hspawned : (prepare root args).bind (spawn host 0) = .ok c) (hthread : host.thread = .ok ())
    (hpipe : host.pipe = .ok ()) : (beginCommand host root args).result = .ok c := by
  unfold beginCommand
  cases hprepared : prepare root args with
  | error e => simp [hprepared, Except.bind] at hspawned
  | ok prepared =>
      have hchild : spawn host 0 prepared = .ok c := by
        simpa [hprepared, Except.bind] using hspawned
      simp [inWorker, hthread, spawnPiped, hpipe, hchild, Work.result]

theorem runCommand_started (hnamed : requested setup.table data = .ok args)
    (hspawned : (prepare setup.root args).bind (spawn setup.host 0) = .ok c)
    (hthread : setup.host.thread = .ok ()) (hpipe : setup.host.pipe = .ok ()) (t : State) :
    ∃ due, (runCommand setup data t).state.commands = t.commands.add ⟨beginning t.nextId, due⟩ := by
  have hresult := beginCommand_started hspawned hthread hpipe
  refine ⟨later t.now (watched setup.host (some runLimit) c), ?_⟩
  simp only [runCommand, startSingle, hnamed, lineHandler_eq, answerAsked, startCommand,
    Attempt.stored, hresult, answerStart, beginning]

end Requests

/-- **`run` and `check` see the same output.** A command that is found and can be started writes
some bytes to its output. `check` answers with a text of them, and `run` adds a command that can
take these bytes in any reads up to its end. Whenever it has taken them and its record is finished,
the record has one entry for each line of the text, in order: as many as there are line feeds, and
one more for what comes after the last one. -/
theorem run_records_lines_of_check (setup : Setup) (data : Json) (s t : State) {args : List String}
    {c : Conduct} (hnamed : requested setup.table data = .ok args)
    (hspawned : (prepare setup.root args).bind (spawn setup.host 0) = .ok c)
    (hthread : setup.host.thread = .ok ()) (hpipe : setup.host.pipe = .ok ()) :
    let b := (waitFor (some checkLimit) c).conduct.written .output
    ∃ retval stdout watch due,
      (check setup data s).outcome = .returned (checked retval stdout) ∧
        (runCommand setup data t).state.commands = t.commands.add ⟨watch, due⟩ ∧
        (∀ reads, reads.flatten = b → ∃ v, watch.Hears reads v ∧ v.record.exited = true) ∧
        (∀ reads v, watch.Hears reads v → reads.flatten = b → v.record.exited = true →
          v.record.records = (textLines stdout).map lineEntry) ∧
        (textLines stdout).length =
          b.count lineFeed + if b = [] ∨ b.getLast? = some lineFeed then 0 else 1 := by
  intro b
  obtain ⟨due, hadded⟩ := runCommand_started hnamed hspawned hthread hpipe t
  refine ⟨_, Utf8.decodeLossy b, _, due, check_returned hnamed hspawned s, hadded, ?_, ?_,
    length_textLines b⟩
  · intro reads _
    obtain ⟨v, hears, hexited, -⟩ := (beginning_awaits t.nextId).hears_to_end reads 0
    exact ⟨v, hears, hexited⟩
  · intro reads v hears hreads hexited
    rw [← hreads]
    exact records_of_hears hears hexited

/-- A command whose output ends within a line and within a character, and has a byte of no character
before its line feed. -/
def torn : Conduct :=
  ⟨[⟨0, .output, [0x61, 0xFF]⟩, ⟨1, .output, [10, 0xC3]⟩], 0, .code 0, 1⟩

/-- A module that has this command alone. -/
def tornSetup : Setup :=
  ⟨.of fun _ => .ok torn, none, [("torn", ["torn"])], 1⟩

/-- Its output in two reads gives two lines, with a replacement character in each. -/
theorem run_records_lines_of_check_torn :
    let data : Json := .object [("command", .string "torn")]
    let s : State := .initial processId 1
    requested tornSetup.table data = .ok ["torn"] ∧
      (prepare tornSetup.root ["torn"]).bind (spawn tornSetup.host 0) = .ok torn ∧
      tornSetup.host.thread = .ok () ∧ tornSetup.host.pipe = .ok () ∧
      (check tornSetup data s).outcome = .returned (checked 0 "a\ufffd\n\ufffd") ∧
      ∃ watch due v,
        (runCommand tornSetup data s).state.commands = s.commands.add ⟨watch, due⟩ ∧
          watch.Hears [[0x61], [0xFF, 10, 0xC3]] v ∧ v.record.exited = true ∧
          v.record.records = [lineEntry "a\ufffd", lineEntry "\ufffd"] := by
  intro data s
  have hnamed : requested tornSetup.table data = .ok ["torn"] := rfl
  have hspawned : (prepare tornSetup.root ["torn"]).bind (spawn tornSetup.host 0) = .ok torn := rfl
  have hchecked : (check tornSetup data s).outcome = .returned (checked 0 "a\ufffd\n\ufffd") := rfl
  obtain ⟨retval, stdout, watch, due, hanswer, hadded, hreached, hrecords, -⟩ :=
    run_records_lines_of_check tornSetup data s s hnamed hspawned rfl rfl
  obtain ⟨v, hears, hexited⟩ := hreached [[0x61], [0xFF, 10, 0xC3]] rfl
  have hstdout : stdout = "a\ufffd\n\ufffd" := by
    have hsame := Outcome.returned.inj (hanswer.symm.trans hchecked)
    have htext := congrArg (fun j : Json => (j.get? "stdout").bind Json.string?) hsame
    exact Option.some.inj htext
  have hlines := hrecords _ v hears rfl hexited
  rw [hstdout] at hlines
  exact ⟨hnamed, hspawned, rfl, rfl, hchecked, watch, due, v, hadded, hears, hexited, hlines⟩

end Switchyard.Modules.Diagnostics
