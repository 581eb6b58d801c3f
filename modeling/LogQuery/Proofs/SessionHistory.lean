import LogQuery.CommandLine.Console
import LogQuery.Proofs.BufferedLines
import LogQuery.Proofs.HistoryFile
import LogQuery.Proofs.WrittenFiles

/-!
# The history of a session

The lines of a session are commands and parts of queries, and which of them submit queries depends
on nothing but the lines (`submissions`). A session adds the submitted queries to its history and
nothing else (`history_run`): one lemma says what a command does to the history, one what a line of
a query does to it, and the run is an induction on the lines.

A program that holds a session reads the history from a file before it and writes it to the file
after it. So the file then holds the latest of the entries it held before and of the queries that
were submitted (`historyFile_of_converse`).
-/

namespace LogQuery

open Text

/-! ## Lines without erasers -/

namespace Text

theorem flatten_modifyHead_cons {parts : List (List Char)} (h : parts ≠ []) (c : Char) :
    (parts.modifyHead (c :: ·)).flatten = c :: parts.flatten := by
  cases parts with
  | nil => exact absurd rfl h
  | cons part rest => rfl

theorem clustersFrom_ne_nil (state : ClusterState) (s : List Char) :
    clustersFrom state s ≠ [] := by
  induction s generalizing state with
  | nil => exact List.cons_ne_nil _ _
  | cons c rest ih =>
    rw [clustersFrom]
    split
    · exact mt List.modifyHead_eq_nil_iff.mp (ih _)
    · exact List.cons_ne_nil _ _

theorem flatten_clustersFrom (state : ClusterState) (s : List Char) :
    (clustersFrom state s).flatten = s := by
  induction s generalizing state with
  | nil => rfl
  | cons c rest ih =>
    rw [clustersFrom]
    split
    · rw [flatten_modifyHead_cons (clustersFrom_ne_nil _ _), ih]
    · rw [List.flatten_cons, flatten_modifyHead_cons (clustersFrom_ne_nil _ _), ih,
        List.nil_append]

/-- The clusters of a text make it up. -/
theorem flatten_clusters (s : List Char) : (clusters s).flatten = s := by
  cases s with
  | nil => rfl
  | cons c rest =>
    rw [clusters, flatten_modifyHead_cons (clustersFrom_ne_nil _ _), flatten_clustersFrom]

end Text

namespace Shell

/-- Typing without erasers adds what is typed. -/
theorem foldlM_type? {parts : List (List Char)} (h : ∀ part ∈ parts, part ≠ eraser)
    (typed : Typed) :
    ∃ steps, parts.foldlM Typed.type? typed =
      some ⟨parts.flatten.reverse ++ typed.text, steps⟩ := by
  induction parts generalizing typed with
  | nil => exact ⟨typed.steps, rfl⟩
  | cons part rest ih =>
    rw [List.forall_mem_cons] at h
    obtain ⟨steps, hrest⟩ := ih h.2
      ⟨part.reverse ++ typed.text, Typed.byteCount part % 256 :: typed.steps⟩
    refine ⟨steps, ?_⟩
    rw [List.foldlM_cons, Typed.type?, if_neg h.1, List.flatten_cons, List.reverse_append,
      List.append_assoc]
    exact hrest

/-- A line without erasers is left as it is. -/
theorem withoutErased?_eq_self {line : List Char} (h : '\x08' ∉ line) :
    withoutErased? line = some line := by
  have hparts : ∀ part ∈ clusters line, part ≠ eraser := by
    rintro part hpart rfl
    refine h ?_
    rw [← flatten_clusters line]
    exact List.mem_flatten.mpr ⟨eraser, hpart, List.mem_singleton.mpr rfl⟩
  obtain ⟨steps, htyped⟩ := foldlM_type? hparts {}
  rw [withoutErased?, htyped, flatten_clusters]
  simp

/-! ## Submitted queries -/

/-- The command that a line is, which it is only where no query is being typed. -/
def commandAt? (buffer : Buffer) (line : List Char) : Option Command :=
  if buffer.isEmpty then Command.parse? line else none

/-- The queries that lines submit, up to the command that ends the session. -/
def submissions : Buffer → List (List Char) → List String
  | _, [] => []
  | buffer, line :: rest =>
    match commandAt? buffer line with
    | some command => if command = .exit then [] else submissions buffer rest
    | none => (buffer.push line).2.toList ++ submissions (buffer.push line).1 rest

section

variable {buffer : Buffer} {line : List Char}

/-- A command submits nothing, and the one to end ends the session. -/
theorem submissions_of_command {command : Command} (h : commandAt? buffer line = some command)
    (rest : List (List Char)) :
    submissions buffer (line :: rest) =
      if command = .exit then [] else submissions buffer rest := by
  rw [submissions, h]

/-- A line of a query submits it when the query ends there. -/
theorem submissions_of_query (h : commandAt? buffer line = none) (rest : List (List Char)) :
    submissions buffer (line :: rest) =
      (buffer.push line).2.toList ++ submissions (buffer.push line).1 rest := by
  rw [submissions, h]

end

/-- No blank query is submitted. -/
theorem trim_ne_nil_of_mem_submissions {buffer : Buffer} (h : buffer.IsShown)
    {lines : List (List Char)} {query : String} (hquery : query ∈ submissions buffer lines) :
    trim query.toList ≠ [] := by
  induction lines generalizing buffer with
  | nil => exact absurd hquery List.not_mem_nil
  | cons line rest ih =>
    cases hcommand : commandAt? buffer line with
    | some command =>
      rw [submissions_of_command hcommand] at hquery
      split at hquery
      · exact absurd hquery List.not_mem_nil
      · exact ih h hquery
    | none =>
      rw [submissions_of_query hcommand] at hquery
      rcases List.mem_append.mp hquery with hnow | hlater
      · exact Buffer.trim_ne_nil_of_push h (Option.mem_toList.mp hnow)
      · exact ih (h.push line) hlater

namespace Session

variable {session : Session} {input : Input} {elapsed : Nat → Float}

/-! ## What a line does -/

/-- A command leaves the history and the query that is being typed. -/
theorem obey_keeps {command : Command} {session' : Session} {output : String}
    (h : session.obey command = .ok (session', output)) :
    session'.history = session.history ∧ session'.buffer = session.buffer := by
  cases command with
  | help | exit | tables =>
    obtain ⟨rfl, -⟩ := Prod.mk.inj (Except.ok.inj h)
    exact ⟨rfl, rfl⟩
  | format name =>
    cases name with
    | none => exact absurd h (by simp [obey])
    | some name =>
      rw [obey, choose] at h
      cases hformat : Command.chosenFormat name with
      | error error =>
        rw [hformat] at h
        exact absurd h (by simp [bind, Except.bind])
      | ok format =>
        rw [hformat] at h
        obtain ⟨rfl, -⟩ := Prod.mk.inj (Except.ok.inj h)
        exact ⟨rfl, rfl⟩
  | history part =>
    cases part with
    | none | some =>
      obtain ⟨rfl, -⟩ := Prod.mk.inj (Except.ok.inj h)
      exact ⟨rfl, rfl⟩
  | unknown name => exact absurd h (by simp [obey])

/-- So does every command, as one that fails does nothing else. -/
theorem command_keeps (session : Session) (command : Command) :
    (session.command command).session.history = session.history ∧
      (session.command command).session.buffer = session.buffer := by
  unfold Session.command
  split
  · rename_i session' output hobeyed
    exact obey_keeps hobeyed
  · exact ⟨rfl, rfl⟩

theorem progress_command (session : Session) (command : Command) :
    (session.command command).progress = if command = .exit then .over else .goesOn := by
  unfold Session.command
  split
  · rfl
  · rename_i error hfailed
    rw [if_neg]
    rintro rfl
    exact absurd hfailed (by simp [obey])

/-- A line of a query adds the query that it submits. -/
theorem typed_adds (session : Session) (line : List Char) :
    (session.typed line).session.history =
        (session.buffer.push line).2.toList.foldl History.add session.history ∧
      (session.typed line).session.buffer = (session.buffer.push line).1 ∧
      (session.typed line).progress = .goesOn := by
  unfold typed
  split
  · rename_i buffer hpush
    rw [hpush]
    exact ⟨rfl, rfl, rfl⟩
  · rename_i buffer query hpush
    rw [hpush]
    exact ⟨rfl, rfl, rfl⟩

/-- A line is a command, which keeps the history and the query that is being typed, or a line of
the query. -/
theorem respond_line (session : Session) {text line : List Char}
    (h : withoutErased? text = some line) :
    (∃ command, commandAt? session.buffer line = some command ∧
      (session.respond (.line text)).session.history = session.history ∧
      (session.respond (.line text)).session.buffer = session.buffer ∧
      (session.respond (.line text)).progress = if command = .exit then .over else .goesOn) ∨
    (commandAt? session.buffer line = none ∧
      (session.respond (.line text)).session.history =
        (session.buffer.push line).2.toList.foldl History.add session.history ∧
      (session.respond (.line text)).session.buffer = (session.buffer.push line).1 ∧
      (session.respond (.line text)).progress = .goesOn) := by
  rw [respond, h, commandAt?]
  dsimp only
  cases hempty : session.buffer.isEmpty with
  | false =>
    right
    refine ⟨rfl, ?_⟩
    cases Command.parse? line with
    | none => exact typed_adds session line
    | some command => exact typed_adds session line
  | true =>
    cases Command.parse? line with
    | none => exact .inr ⟨rfl, typed_adds session line⟩
    | some command =>
      obtain ⟨hhistory, hbuffer⟩ := command_keeps session command
      exact .inl ⟨command, rfl, hhistory, hbuffer, progress_command session command⟩

/-! ## What all lines do -/

theorem run_of_goesOn (h : (session.respond input).progress = .goesOn) (rest : List Input) :
    ∃ elapsed', (session.run elapsed (input :: rest)).session =
        ((session.respond input).session.run elapsed' rest).session ∧
      (session.run elapsed (input :: rest)).progress =
        ((session.respond input).session.run elapsed' rest).progress := by
  rw [run]
  dsimp only
  rw [h]
  exact ⟨_, rfl, rfl⟩

theorem run_of_not_goesOn (h : (session.respond input).progress ≠ .goesOn) (rest : List Input) :
    (session.run elapsed (input :: rest)).session = (session.respond input).session ∧
      (session.run elapsed (input :: rest)).progress = (session.respond input).progress := by
  rw [run]
  dsimp only
  split
  · rename_i hgoes
    exact absurd hgoes h
  · exact ⟨rfl, rfl⟩

/-- What stands behind the lines of an input. -/
def IsEnd (input : Input) : Prop := input = .ended ∨ input = .illFormed

/-- Behind the lines of an input stands its end. -/
theorem exists_inputs_eq (bytes : ByteArray) :
    ∃ last, IsEnd last ∧ inputs bytes = (decodedLines bytes).1.map .line ++ [last] := by
  unfold inputs
  split
  · rename_i lines hlines
    exact ⟨.ended, .inl rfl, by rw [hlines]⟩
  · rename_i lines hlines
    exact ⟨.illFormed, .inr rfl, by rw [hlines]⟩

theorem run_end (session : Session) (h : IsEnd input) :
    (session.run elapsed [input]).session = session ∧
      (session.run elapsed [input]).progress = .over := by
  rcases h with rfl | rfl
  · exact ⟨rfl, rfl⟩
  · exact ⟨rfl, rfl⟩

/-- A session that does not break off adds the submitted queries to its history. -/
theorem history_run {texts : List (List Char)} (hend : IsEnd input)
    (h : (session.run elapsed (texts.map .line ++ [input])).progress ≠ .brokenOff) :
    (session.run elapsed (texts.map .line ++ [input])).session.history =
      (submissions session.buffer (texts.filterMap withoutErased?)).foldl History.add
        session.history := by
  -- of the session before a line only its buffer decides what the line is, so the lines are enough
  induction texts generalizing session elapsed with
  | nil =>
    rw [List.map_nil, List.nil_append, (run_end session hend).1]
    rfl
  | cons text texts ih =>
    rw [List.map_cons, List.cons_append] at h ⊢
    cases hline : withoutErased? text with
    | none =>
      have hbroken : (session.respond (.line text)).progress = .brokenOff := by
        rw [respond, hline]
      have hstops : (session.respond (.line text)).progress ≠ .goesOn := by
        rw [hbroken]
        decide
      exact absurd ((run_of_not_goesOn hstops _).2.trans hbroken) h
    | some line =>
      rw [List.filterMap_cons_some hline]
      rcases respond_line session hline with
        ⟨command, hcommand, hhistory, hbuffer, hprogress⟩ | ⟨hquery, hhistory, hbuffer, hgoes⟩
      · rw [submissions_of_command hcommand]
        by_cases hexit : command = .exit
        · rw [if_pos hexit] at hprogress
          rw [(run_of_not_goesOn (by rw [hprogress]; decide) _).1, hhistory, if_pos hexit]
          rfl
        · rw [if_neg hexit] at hprogress
          obtain ⟨_, hsession, hprogress'⟩ := run_of_goesOn hprogress (texts.map .line ++ [input])
          rw [hprogress'] at h
          rw [hsession, ih h, hhistory, hbuffer, if_neg hexit]
      · obtain ⟨_, hsession, hprogress'⟩ := run_of_goesOn hgoes (texts.map .line ++ [input])
        rw [hprogress'] at h
        rw [hsession, ih h, hhistory, hbuffer, submissions_of_query hquery, List.foldl_append]

/-- A session on lines that can all be edited does not break off. -/
theorem progress_run {texts : List (List Char)} (hend : IsEnd input)
    (h : ∀ text ∈ texts, (withoutErased? text).isSome) :
    (session.run elapsed (texts.map .line ++ [input])).progress = .over := by
  induction texts generalizing session elapsed with
  | nil => exact (run_end session hend).2
  | cons text texts ih =>
    rw [List.forall_mem_cons] at h
    obtain ⟨line, hline⟩ := Option.isSome_iff_exists.mp h.1
    have hprogress : (session.respond (.line text)).progress = .goesOn ∨
        (session.respond (.line text)).progress = .over := by
      rcases respond_line session hline with
        ⟨command, -, -, -, hprogress⟩ | ⟨-, -, -, hgoes⟩
      · rw [hprogress]
        split
        · exact .inr rfl
        · exact .inl rfl
      · exact .inl hgoes
    rw [List.map_cons, List.cons_append]
    rcases hprogress with hgoes | hover
    · obtain ⟨_, -, hprogress⟩ := run_of_goesOn hgoes (texts.map .line ++ [input])
      rw [hprogress]
      exact ih h.2
    · rw [(run_of_not_goesOn (by rw [hover]; decide) _).2, hover]

end Session

end Shell

namespace CommandLine

open Shell

variable {machine : Machine} {desk : Desk} {path : String} {entries : List String}

/-! ## The program on a machine -/

section

variable (machine : Machine) (path text : String)

theorem run_print :
    StateT.run (Host.print text : StateM Machine Unit) machine = pure ((), machine.wrote text) :=
  rfl

theorem run_converse (session : Session) :
    StateT.run (Host.converse session : StateM Machine (Option Session)) machine =
      pure (if (session.run machine.elapsed (inputs machine.input)).progress = .brokenOff then none
          else some (session.run machine.elapsed (inputs machine.input)).session,
        machine.wrote (session.run machine.elapsed (inputs machine.input)).output) :=
  rfl

theorem run_readFile :
    StateT.run (Host.readFile path : StateM Machine FileState) machine =
      pure (machine.fileState path, machine) :=
  rfl

theorem run_writeFile :
    StateT.run (Host.writeFile path text : StateM Machine Bool) machine =
      pure (machine.change (machine.disk.write? path text.toUTF8)) :=
  rfl

end

/-- How the program ends that holds a session on a machine, and what it leaves. -/
def converseOn (machine : Machine) (desk : Desk) (path : String) : ExitStatus × Machine :=
  StateT.run (Console.converse (m := StateM Machine) desk path) machine

/-- The history that a session starts with. -/
def startHistory : FileState → History
  | .readable content => (History.read historyLimit content).1
  | _ => { limit := historyLimit }

/-- The program keeps the history of the session that it held, unless the session broke off. -/
theorem converseOn_eq {session : Session} {course : Course}
    (hsession : { desk with history := startHistory (machine.fileState path) } = session)
    (hcourse : session.run machine.elapsed (inputs machine.input) = course) :
    converseOn machine desk path =
      if course.progress = .brokenOff then
        (.breakdown, (machine.wrote session.greeting).wrote course.output)
      else
        match machine.disk.write? path course.session.history.fileText.toUTF8 with
        | some disk =>
          (.success, { (machine.wrote session.greeting).wrote course.output with disk })
        | none => (.failure, (machine.wrote session.greeting).wrote course.output) := by
  have hinput : (machine.wrote session.greeting).input = machine.input := rfl
  have helapsed : (machine.wrote session.greeting).elapsed = machine.elapsed := rfl
  have hdisk : ((machine.wrote session.greeting).wrote course.output).disk = machine.disk := rfl
  unfold converseOn Console.converse
  unfold startHistory at hsession
  cases hstate : machine.fileState path with
  | missing | unreadable | readable content =>
    rw [hstate] at hsession
    simp only [StateT.run_bind, run_readFile, run_print, run_converse, pure_bind, hstate, hsession,
      hinput, helapsed, hcourse]
    by_cases hbroken : course.progress = .brokenOff
    · simp only [if_pos hbroken]
      rfl
    · simp only [if_neg hbroken, StateT.run_bind, run_writeFile, pure_bind, hdisk]
      cases machine.disk.write? path course.session.history.fileText.toUTF8 with
      | some disk => rfl
      | none => rfl

/-! ## The history file -/

/-- The entries that a session starts with when its history is kept at a path. There are none
without a file; of a well-formed file these are the latest ones. -/
inductive Recorded (machine : Machine) (path : String) : List String → Prop where
  | missing (h : machine.fileState path = .missing) : Recorded machine path []
  | readable {text : String} (h : machine.fileState path = .readable text.toUTF8) :
    Recorded machine path (latest 1000 (History.entriesOfLines (lines text.toList)))

/-- The lines of an input as the line editor hands them over, without what was erased in them. -/
def editedLines (input : ByteArray) : List (List Char) :=
  (decodedLines input).1.filterMap withoutErased?

/-- A session starts with the history that was recorded. -/
theorem Recorded.startHistory_eq (h : Recorded machine path entries) :
    startHistory (machine.fileState path) = .ofLog 1000 entries := by
  cases h with
  | missing h =>
    rw [h, History.ofLog, latest_eq_self (Nat.zero_le _)]
    rfl
  | readable h =>
    rw [h, startHistory, History.read, decodedLines_toUTF8, History.ofLog, latest_latest]
    rfl

/-- The history of a session is the end of what was recorded and submitted. -/
theorem history_run_ofLog {session : Session} (hhistory : session.history = .ofLog 1000 entries)
    (hbuffer : session.buffer = {}) {input : ByteArray}
    {elapsed : Nat → Float} (hrun : (session.run elapsed (inputs input)).progress ≠ .brokenOff) :
    (session.run elapsed (inputs input)).session.history =
      .ofLog 1000 ((submissions {} (editedLines input)).foldl History.enter entries) := by
  obtain ⟨last, hend, hinputs⟩ := Session.exists_inputs_eq input
  rw [hinputs] at hrun ⊢
  rw [Session.history_run hend hrun, hbuffer, hhistory]
  apply History.foldl_add_ofLog
  intro query hquery
  exact trim_ne_nil_of_mem_submissions (List.forall_mem_nil _) hquery

/-- A program that ends well leaves the history in its file. -/
theorem readable_of_success (h : Recorded machine path entries)
    (hsuccess : (converseOn machine desk path).1 = .success) :
    ∃ content, (converseOn machine desk path).2.fileState path = .readable content ∧
      History.read 1000 content =
        (.ofLog 1000 ((submissions {} (editedLines machine.input)).foldl History.enter entries),
          true) := by
  obtain ⟨session, hsession⟩ : ∃ session : Session,
    { desk with history := startHistory (machine.fileState path) } = session := ⟨_, rfl⟩
  obtain ⟨course, hcourse⟩ :
    ∃ course, session.run machine.elapsed (inputs machine.input) = course := ⟨_, rfl⟩
  rw [converseOn_eq hsession hcourse] at hsuccess ⊢
  by_cases hbroken : course.progress = .brokenOff
  · rw [if_pos hbroken] at hsuccess
    exact absurd hsuccess (by simp)
  · rw [if_neg hbroken] at hsuccess ⊢
    have hhistory : session.history = .ofLog 1000 entries := by
      rw [← hsession]
      exact h.startHistory_eq
    have hbuffer : session.buffer = {} := by rw [← hsession]
    have hkept := history_run_ofLog hhistory hbuffer (hcourse ▸ hbroken)
    rw [hcourse] at hkept
    cases hwrite : machine.disk.write? path course.session.history.fileText.toUTF8 with
    | none =>
      rw [hwrite] at hsuccess
      exact absurd hsuccess (by simp)
    | some disk =>
      refine ⟨course.session.history.fileText.toUTF8, ?_, ?_⟩
      · unfold Machine.fileState
        dsimp only
        rw [Folder.at?_of_write? hwrite]
      · rw [hkept, History.read_fileText_ofLog]

/-- A program ends well when all lines can be edited and the file can be written. -/
theorem success_of_edited (hedited : ∀ line ∈ (decodedLines machine.input).1,
    (withoutErased? line).isSome) (hplace : (machine.disk.write? path .empty).isSome) :
    (converseOn machine desk path).1 = .success := by
  obtain ⟨last, hend, hinputs⟩ := Session.exists_inputs_eq machine.input
  have hover : (Session.run { desk with history := startHistory (machine.fileState path) }
      machine.elapsed (inputs machine.input)).progress = .over := by
    rw [hinputs]
    exact Session.progress_run hend hedited
  obtain ⟨disk, hwrite⟩ := Folder.exists_write? hplace _
  rw [converseOn_eq rfl rfl, hover, if_neg (by decide), hwrite]

/-- When a session is over, the file of its history holds the latest of the entries that it held
before and of the queries that the session submitted. Queries are submitted by the lines as the line
editor hands them over. Every session comes to its end unless the editor breaks off on a line, which
it never does on lines without erasers: it hands them over as they are. -/
theorem historyFile_of_converse (h : Recorded machine path entries) :
    ((converseOn machine desk path).1 = .success →
      ∃ content, (converseOn machine desk path).2.fileState path = .readable content ∧
        History.read 1000 content =
          (.ofLog 1000 ((submissions {} (editedLines machine.input)).foldl History.enter entries),
            true)) ∧
    ((∀ line ∈ (decodedLines machine.input).1, (withoutErased? line).isSome) →
      (machine.disk.write? path .empty).isSome →
      (converseOn machine desk path).1 = .success) ∧
    ((∀ line ∈ (decodedLines machine.input).1, '\x08' ∉ line) →
      (∀ line ∈ (decodedLines machine.input).1, (withoutErased? line).isSome) ∧
        editedLines machine.input = (decodedLines machine.input).1) := by
  refine ⟨readable_of_success h, success_of_edited, fun hlines => ?_⟩
  have hedited : ∀ line ∈ (decodedLines machine.input).1, withoutErased? line = some line :=
    fun line hline => withoutErased?_eq_self (hlines line hline)
  constructor
  · intro line hline
    rw [hedited line hline, Option.isSome_some]
  · rw [editedLines, List.filterMap_congr hedited, List.filterMap_some]

/-- What is typed in a session: queries, of which one fails and is repeated, and commands, of which
some fail. What follows the last command does not count. -/
def sampleText : String :=
  "T\n | count ;\n.tables\r\nT\n .history;\n | take 1\n\n.bogus\nNope;\n.format\n; \n\tNope\n \n" ++
    ".quit\nx;"

/-- A machine with a history file on which it is typed. -/
def sampleMachine : Machine where
  disk := .ofPairs [("logs", .folder .empty),
    ("history", .file "\"a\\nb\"\n\nT | count\n".toUTF8)]
  input := sampleText.toUTF8

theorem historyFile_sampleMachine :
    Recorded sampleMachine "logs/../history" ["a\nb", "T | count"] ∧
      ∃ content, (converseOn sampleMachine { store := .empty } "logs/../history").2.fileState
          "logs/../history" = .readable content ∧
        History.read 1000 content =
          ({ limit := 1000
             entries := ["a\nb", "T | count", "T\n | count", "T\n .history", "| take 1", "Nope"] },
            true) := by
  have hentries : latest 1000
      (History.entriesOfLines (lines "\"a\\nb\"\n\nT | count\n".toList)) =
        ["a\nb", "T | count"] := by decide +kernel
  have hstart : Recorded sampleMachine "logs/../history" ["a\nb", "T | count"] := by
    rw [← hentries]
    exact .readable rfl
  obtain ⟨hread, hends, hkept⟩ := historyFile_of_converse hstart
  have hinput : (decodedLines sampleMachine.input).1 = lines sampleText.toList := by
    rw [sampleMachine, decodedLines_toUTF8]
  have hlines : ∀ line ∈ lines sampleText.toList, '\x08' ∉ line := by decide +kernel
  rw [hinput] at hends hkept
  obtain ⟨hsome, hedited⟩ := hkept hlines
  obtain ⟨content, hcontent, hhistory⟩ := hread (hends hsome rfl)
  have hlog : (submissions {} (lines sampleText.toList)).foldl History.enter
      ["a\nb", "T | count"] =
        ["a\nb", "T | count", "T\n | count", "T\n .history", "| take 1", "Nope"] := by
    decide +kernel
  rw [hedited, hlog, History.ofLog, latest_eq_self (by decide)] at hhistory
  exact ⟨hstart, content, hcontent, hhistory⟩

end CommandLine

end LogQuery
