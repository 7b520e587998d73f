import VectorCalc.Proofs.Reset
import VectorCalc.Proofs.Session

/-!
Sessions that show trees. Every tree that was read can be printed, and printing it changes nothing
that a session does later. So a session that shows trees sends to the output what it would send
without them, with one more line after the prompt of every line that is evaluated and can be read.
The two sessions are followed prompt by prompt, in shells that differ in that one mode.
-/
namespace VectorCalc

set_option autoImplicit false

namespace Node

theorem binary_operator_prints (operator : BinaryOperator) :
    ∃ title, operatorTitle (.text operator.kind.code) = .ok title := by
  rcases operator with operation | relation | _ | _
  · cases operation <;> exact ⟨_, rfl⟩
  · cases relation <;> exact ⟨_, rfl⟩
  · exact ⟨_, rfl⟩
  · exact ⟨_, rfl⟩

theorem items_print {items : List Node}
    (each : ∀ item ∈ items, ∃ shown, item.text = .ok shown) :
    ∃ texts, listTexts items = .ok texts := by
  induction items with
  | nil => exact ⟨[], by rw [listTexts]⟩
  | cons item items induction =>
      obtain ⟨⟨first, printed⟩, others⟩ := List.forall_mem_cons.mp each
      obtain ⟨rest, printedRest⟩ := induction others
      exact ⟨first :: rest, by rw [listTexts, printed, printedRest]; rfl⟩

theorem well_formed_prints {node : Node} (formed : node.WellFormed) :
    ∃ shown, node.text = .ok shown := by
  induction formed with
  | int _ => exact ⟨_, by rw [text]⟩
  | float => exact ⟨_, by rw [text]⟩
  | infinity => exact ⟨_, by rw [text]⟩
  | pi => exact ⟨_, by rw [text]⟩
  | name _ => exact ⟨_, by rw [text]⟩
  | vector _ induction =>
      obtain ⟨texts, printed⟩ := items_print induction
      exact ⟨_, by rw [text, printed]; rfl⟩
  | @binary operator left right span _ _ _ first second =>
      obtain ⟨leftText, leftPrinted⟩ := first
      obtain ⟨rightText, rightPrinted⟩ := second
      obtain ⟨title, named⟩ := binary_operator_prints operator
      exact ⟨_, by rw [text, leftPrinted, named, rightPrinted]; rfl⟩
  | unary _ operand =>
      obtain ⟨operandText, printed⟩ := operand
      have named : operatorTitle (.text TokenKind.subtract.code) = .ok "'-'" := rfl
      exact ⟨_, by rw [text, named, printed]; rfl⟩
  | assign _ _ _ first second =>
      obtain ⟨targetText, targetPrinted⟩ := first
      obtain ⟨valueText, valuePrinted⟩ := second
      exact ⟨_, by rw [text, targetPrinted, valuePrinted]; rfl⟩
  | call _ _ first second =>
      obtain ⟨calleeText, calleePrinted⟩ := first
      obtain ⟨argumentText, argumentPrinted⟩ := second
      exact ⟨_, by rw [text, calleePrinted, argumentPrinted]; rfl⟩

def shown (node : Node) : String :=
  node.text.toOption.getD ""

theorem text_of_read {source : String} {tree : Node} (read : parseText source = .ok tree) :
    tree.text = .ok tree.shown := by
  obtain ⟨shown, printed⟩ := well_formed_prints (parse_text_well_formed read)
  rw [Node.shown, printed]
  rfl

end Node

namespace Entry

/-- The lines that are not evaluated: nothing, the two that leave, and the commands. -/
def unevaluated : List String :=
  ["", "exit", "quit", "vars", "reset", "verbose-mode", "ast-mode"]

/-- The tree of a line that is evaluated and can be read. -/
def tree? : Entry → Option Node
  | .typed text =>
      let line := String.ofList (Text.trim text.toList)
      if line ∈ unevaluated then none else (parseText line).toOption
  | .interrupt => none

theorem tree_prints {entry : Entry} {tree : Node} (found : entry.tree? = some tree) :
    tree.text = .ok tree.shown := by
  cases entry with
  | interrupt => cases found
  | typed text =>
      simp only [tree?] at found
      split_ifs at found
      cases read : parseText (String.ofList (Text.trim text.toList)) with
      | error stop =>
          rw [read] at found
          cases found
      | ok other =>
          rw [read] at found
          cases found
          exact Node.text_of_read read

def treeLines (entry : Entry) : List Emission :=
  match entry.tree? with
  | some tree => [.line ("[ast] >>> " ++ tree.shown)]
  | none => []

end Entry

/-- Puts the tree of every entry right behind the prompt at which it was entered. -/
def annotated : List Entry → List Emission → List Emission
  | _, [] => []
  | entries, emission :: emissions =>
      if emission = Shell.prompt then
        emission :: (entries.head?.toList.flatMap Entry.treeLines ++
          annotated entries.tail emissions)
      else emission :: annotated entries emissions

namespace Emission

def isOut : Emission → Bool
  | .out _ => true
  | .log _ => false

def outs (emissions : List Emission) : List Emission :=
  emissions.filter isOut

theorem outs_append (first second : List Emission) :
    outs (first ++ second) = outs first ++ outs second :=
  List.filter_append ..

theorem outs_cons_out (text : String) (emissions : List Emission) :
    outs (.out text :: emissions) = .out text :: outs emissions := rfl

theorem output_outs (emissions : List Emission) : output (outs emissions) = output emissions := by
  unfold output
  induction emissions with
  | nil => rfl
  | cons emission emissions induction =>
      cases emission with
      | out text => simp [outs_cons_out, induction]
      | log text => simpa [outs, isOut, outText] using induction

end Emission

theorem outs_events (modes : Modes) (label : String) (events : List Event) :
    Emission.outs (eventEmissions modes label events) = [] := by
  have logged {event : Event} {emission : Emission}
      (sent : event.emission? label = some emission) : emission.isOut = false := by
    cases event with
    | lexed count =>
        cases sent
        rfl
    | parsed tree =>
        obtain ⟨_, _, same⟩ := Option.map_eq_some_iff.mp sent
        rw [← same]
        rfl
    | called call =>
        simp only [Event.emission?] at sent
        split at sent
        · cases sent
          rfl
        · cases sent
  unfold eventEmissions
  split_ifs
  · refine List.filter_eq_nil_iff.mpr ?_
    intro emission member
    obtain ⟨event, _, sent⟩ := List.mem_filterMap.mp member
    simp [logged sent]
  · rfl

theorem run_tree (depth : Nat) (bindings : Bindings) (text : String) :
    (runText depth bindings text).tree = (parseText text).toOption := by
  rcases run_text_cases depth bindings text with ⟨_, failed, _, _, none⟩ | ⟨_, read, found, _⟩
  · rw [none, failed]
    rfl
  · rw [found, read]
    rfl

theorem report_outs (run : Run) (modes : Modes) (label : String) :
    Emission.outs (run.report modes label).emissions =
      Emission.outs (treeEmissions modes run.tree) ++
        Emission.outs (resultReport modes label run.result).emissions := by
  simp only [Run.report, Emission.outs_append, outs_events, List.nil_append, List.append_nil]

namespace Shell

def withTree (shell : Shell) (state : Bool) : Shell :=
  { shell with modes := { shell.modes with tree := state } }

@[simp] theorem prompt_ne_line (text : String) : prompt ≠ .line text := by
  intro same
  have texts : "> " = text ++ "\n" := Emission.out.inj same
  have ends := congrArg (fun line => line.toList.getLast?) texts
  simp [String.toList_append] at ends

@[simp] theorem prompt_ne_log (component message : String) :
    prompt ≠ .logLine component message := by
  simp [prompt, Emission.logLine]

/-- What is sent after a prompt when trees are shown and when they are not: the same result, and
the same output but for some lines in front of it, in which no other prompt is asked. -/
structure Reports (lines : List Emission) (shown plain : Report Unit) : Prop where
  result : shown.result = plain.result
  outs : Emission.outs shown.emissions = lines ++ Emission.outs plain.emissions
  unprompted : prompt ∉ plain.emissions

theorem result_unprompted (modes : Modes) (label : String) (result : Except Stop Value) :
    prompt ∉ (resultReport modes label result).emissions := by
  unfold resultReport
  split
  · simp
  · simp
  · dsimp only
    split
    · unfold failureEmissions
      split_ifs <;> simp
    · simp
    · simp

theorem entries_unprompted (entries : List (Name × Value)) :
    prompt ∉ (listEntries entries).emissions := by
  induction entries with
  | nil => simp [listEntries]
  | cons entry entries induction =>
      simp only [listEntries]
      cases shown : bindingLine entry.1 entry.2 with
      | error breakdown => simp
      | ok line =>
          have isLine : ∃ text, line = .line text := by
            simp only [bindingLine, bind, Except.bind] at shown
            split at shown
            · cases shown
            · split at shown
              · cases shown
              · cases shown
                exact ⟨_, rfl⟩
          obtain ⟨text, rfl⟩ := isLine
          simpa using induction

theorem listing_unprompted (bindings : Bindings) : prompt ∉ (listing bindings).emissions := by
  unfold listing
  split_ifs
  · simp
  · exact entries_unprompted bindings.entries

def printed (result : Except Breakdown (Option Value)) : Report Unit :=
  match result with
  | .error breakdown => ⟨.error breakdown, []⟩
  | .ok none => ⟨.ok (), []⟩
  | .ok (some value) =>
      match value.text with
      | .error breakdown => ⟨.error breakdown, []⟩
      | .ok shown => ⟨.ok (), [.line shown]⟩

theorem evaluate_eq_printed (depth : Nat) (shell : Shell) (text : String) :
    shell.evaluate depth text =
      let run := runText depth shell.bindings text
      let report := run.report shell.modes label
      ({ shell with bindings := run.bindings },
        ⟨(printed report.result).result,
          report.emissions ++ (printed report.result).emissions⟩) := by
  unfold evaluate printed
  dsimp only
  cases ((runText depth shell.bindings text).report shell.modes label).result with
  | error breakdown => simp
  | ok value =>
      cases value with
      | none => simp
      | some value =>
          dsimp only
          cases value.text <;> simp

theorem printed_unprompted (result : Except Breakdown (Option Value)) :
    prompt ∉ (printed result).emissions := by
  unfold printed
  split
  · simp
  · simp
  · split <;> simp

theorem unprompted_of_outs {emissions : List Emission}
    (unprompted : prompt ∉ Emission.outs emissions) : prompt ∉ emissions := by
  intro asked
  exact unprompted (List.mem_filter.mpr ⟨asked, rfl⟩)

/-- The output of a line that is evaluated: its tree, then its diagnostic or its value. -/
theorem evaluate_outs (depth : Nat) (shell : Shell) (text : String) :
    Emission.outs (shell.evaluate depth text).2.emissions =
      let final := resultReport shell.modes label (runText depth shell.bindings text).result
      Emission.outs (treeEmissions shell.modes (parseText text).toOption) ++
        Emission.outs (final.emissions ++ (printed final.result).emissions) := by
  rw [evaluate_eq_printed]
  dsimp only
  rw [Emission.outs_append, report_outs, run_tree, List.append_assoc, Emission.outs_append]
  rfl

theorem result_report_with_tree (modes : Modes) (state : Bool) (label : String)
    (result : Except Stop Value) :
    resultReport { modes with tree := state } label result = resultReport modes label result := rfl

theorem tree_line_of_read (verbose : Bool) (line : String) :
    Emission.outs (treeEmissions ⟨verbose, true⟩ (parseText line).toOption) =
      match (parseText line).toOption with
      | some tree => [.line ("[ast] >>> " ++ tree.shown)]
      | none => [] := by
  cases read : parseText line with
  | error stop => rfl
  | ok tree =>
      simp only [treeEmissions, Except.toOption, Option.bind_some, Node.text_of_read read]
      rfl

theorem evaluate_with_tree (depth : Nat) (shell : Shell) (text : String) :
    ∃ after, ((shell.withTree true).evaluate depth text).1 = withTree after true ∧
      ((shell.withTree false).evaluate depth text).1 = withTree after false ∧
      Reports
        (match (parseText text).toOption with
        | some tree => [.line ("[ast] >>> " ++ tree.shown)]
        | none => [])
        ((shell.withTree true).evaluate depth text).2
        ((shell.withTree false).evaluate depth text).2 := by
  refine ⟨{ shell with bindings := (runText depth shell.bindings text).bindings }, ?_, ?_, ?_, ?_,
    ?_⟩
  · rw [evaluate_eq_printed]
    rfl
  · rw [evaluate_eq_printed]
    rfl
  · rw [evaluate_eq_printed, evaluate_eq_printed]
    rfl
  · rw [evaluate_outs, evaluate_outs]
    dsimp only [withTree]
    rw [result_report_with_tree, result_report_with_tree, tree_line_of_read]
    rfl
  · apply unprompted_of_outs
    rw [evaluate_outs]
    simp [withTree, treeEmissions, Emission.outs, result_unprompted, printed_unprompted]

theorem unread_tree_lines {text : String}
    (command : String.ofList (Text.trim text.toList) ∈ Entry.unevaluated) :
    (Entry.typed text).treeLines = [] := by
  simp only [Entry.treeLines, Entry.tree?, if_pos command]

/-- What a line does in two shells that differ in the mode for trees: both leave, or both go on in
such shells again. -/
inductive ReactsAlike (lines : List Emission) : Reaction → Reaction → Prop where
  | leave (untold : lines = []) : ReactsAlike lines .leave .leave
  | goOn {after : Shell} {shown plain : Report Unit} (reports : Reports lines shown plain) :
      ReactsAlike lines (.goOn (after.withTree true) shown) (.goOn (after.withTree false) plain)

theorem react_with_tree (depth : Nat) (shell : Shell) {text : String}
    (steady : (Entry.typed text).isLine "ast-mode" = false) :
    ReactsAlike (Entry.typed text).treeLines
      ((shell.withTree true).react depth (String.ofList (Text.trim text.toList)))
      ((shell.withTree false).react depth (String.ofList (Text.trim text.toList))) := by
  have noSwitch : String.ofList (Text.trim text.toList) ≠ "ast-mode" := by
    simpa [Entry.isLine] using steady
  have commands := @unread_tree_lines text
  have evaluated : String.ofList (Text.trim text.toList) ∉ Entry.unevaluated →
      (Entry.typed text).treeLines =
        match (parseText (String.ofList (Text.trim text.toList))).toOption with
        | some tree => [.line ("[ast] >>> " ++ tree.shown)]
        | none => [] := by
    intro other
    simp only [Entry.treeLines, Entry.tree?, if_neg other]
  generalize String.ofList (Text.trim text.toList) = line at noSwitch commands evaluated ⊢
  -- A report that no mode enters into.
  have same (after : Shell) {report : Report Unit} (unprompted : prompt ∉ report.emissions)
      (command : line ∈ Entry.unevaluated) : ReactsAlike (Entry.typed text).treeLines
        (.goOn (after.withTree true) report) (.goOn (after.withTree false) report) := by
    rw [commands command]
    exact .goOn ⟨rfl, rfl, unprompted⟩
  unfold react
  by_cases blank : line = ""
  · rw [if_pos blank, if_pos blank]
    exact same shell (by simp) (by simp [blank, Entry.unevaluated])
  · rw [if_neg blank, if_neg blank]
    by_cases leaves : line = "exit" ∨ line = "quit"
    · rw [if_pos leaves, if_pos leaves]
      exact .leave (commands (by rcases leaves with rfl | rfl <;> simp [Entry.unevaluated]))
    · rw [if_neg leaves, if_neg leaves]
      unfold command?
      split_ifs with vars reset verbose
      · exact same shell (listing_unprompted shell.bindings) (by simp [vars, Entry.unevaluated])
      · exact same { shell with bindings := .empty } (by simp [said])
          (by simp [reset, Entry.unevaluated])
      · exact same { shell with modes := { shell.modes with verbose := !shell.modes.verbose } }
          (by simp [said]) (by simp [verbose, Entry.unevaluated])
      · rw [evaluated (by simp_all [Entry.unevaluated])]
        obtain ⟨after, shownAfter, plainAfter, reports⟩ := evaluate_with_tree depth shell line
        dsimp only
        rw [shownAfter, plainAfter]
        exact .goOn reports

end Shell

theorem annotated_reply (entries : List Entry) {reply : List Emission} (rest : List Emission)
    (unprompted : Shell.prompt ∉ reply) :
    annotated entries (reply ++ rest) = reply ++ annotated entries rest := by
  induction reply with
  | nil => rfl
  | cons emission reply induction =>
      rw [List.mem_cons, not_or] at unprompted
      rw [List.cons_append, annotated, if_neg (Ne.symm unprompted.1), induction unprompted.2,
        List.cons_append]

theorem outs_tree_lines (entry : Entry) : Emission.outs entry.treeLines = entry.treeLines := by
  unfold Entry.treeLines
  split <;> rfl

namespace Shell

theorem annotated_turn {entry : Entry} {entries : List Entry} {shown plain : Report Unit}
    {shownRest plainRest : List Emission} (reports : Reports entry.treeLines shown plain)
    (rest : Emission.outs shownRest = Emission.outs (annotated entries plainRest)) :
    Emission.outs (prompt :: (shown.emissions ++ shownRest)) =
      Emission.outs (annotated (entry :: entries) (prompt :: (plain.emissions ++ plainRest))) := by
  have turn : annotated (entry :: entries) (prompt :: (plain.emissions ++ plainRest)) =
      prompt :: (entry.treeLines ++ (plain.emissions ++ annotated entries plainRest)) := by
    rw [annotated, if_pos rfl, annotated_reply _ _ reports.unprompted]
    simp
  rw [turn, prompt, Emission.outs_cons_out, Emission.outs_cons_out]
  simp only [Emission.outs_append, outs_tree_lines, reports.outs, rest, List.append_assoc]

theorem annotated_last_turn (entries : List Entry) (text : String)
    (untold : ∀ entry ∈ entries.head?, entry.treeLines = []) :
    annotated entries [prompt, .line text] = [prompt, .line text] := by
  have none : entries.head?.toList.flatMap Entry.treeLines = [] := by
    cases entries with
    | nil => rfl
    | cons entry entries => simpa using untold entry (by simp)
  have last := annotated_reply entries.tail [] (by simp : prompt ∉ [Emission.line text])
  rw [annotated, if_pos rfl, none]
  exact congrArg (prompt :: ·) last

/-- From one prompt on. -/
theorem proceed_with_tree (depth : Nat) (shell : Shell) (entries : List Entry)
    (steady : ∀ entry ∈ entries, entry.isLine "ast-mode" = false) :
    (proceed depth (shell.withTree true) entries).result =
        (proceed depth (shell.withTree false) entries).result ∧
      Emission.outs (proceed depth (shell.withTree true) entries).emissions =
        Emission.outs
          (annotated entries (proceed depth (shell.withTree false) entries).emissions) := by
  induction entries generalizing shell with
  | nil =>
      refine ⟨rfl, ?_⟩
      simp only [proceed, abandoned]
      rw [annotated_last_turn [] _ (by simp)]
  | cons entry entries induction =>
      obtain ⟨here, later⟩ := List.forall_mem_cons.mp steady
      cases entry with
      | interrupt =>
          refine ⟨rfl, ?_⟩
          simp only [proceed, abandoned]
          rw [annotated_last_turn _ _ (by simp [Entry.treeLines, Entry.tree?])]
      | typed text =>
          have reaction := react_with_tree depth shell here
          unfold proceed
          generalize (shell.withTree true).react depth (String.ofList (Text.trim text.toList)) =
            shownReaction at reaction
          generalize (shell.withTree false).react depth (String.ofList (Text.trim text.toList)) =
            plainReaction at reaction
          cases reaction with
          | leave untold =>
              refine ⟨rfl, ?_⟩
              simp only [farewell]
              rw [annotated_last_turn _ _ (by simpa using untold)]
          | @goOn after shown plain reports =>
              dsimp only
              rw [reports.result]
              cases plain.result with
              | error breakdown =>
                  have nothing : Emission.outs [] = Emission.outs (annotated entries []) := rfl
                  exact ⟨rfl, by simpa using annotated_turn reports nothing⟩
              | ok _ =>
                  obtain ⟨result, outs⟩ := induction after later
                  exact ⟨result, annotated_turn reports outs⟩

/-- A session that shows trees ends as it would without them, and its output is the one it would
have without them, with one line more: after the prompt of every line that is evaluated and can be
read, the printed tree. Every such tree can be printed. -/
theorem shown_trees_are_inserted (depth : Nat) (verbose : Bool) (entries : List Entry)
    (steady : ∀ entry ∈ entries, entry.isLine "ast-mode" = false) :
    (session depth ⟨verbose, true⟩ entries).result =
        (session depth ⟨verbose, false⟩ entries).result ∧
      Emission.output (session depth ⟨verbose, true⟩ entries).emissions =
        Emission.output (annotated entries (session depth ⟨verbose, false⟩ entries).emissions) ∧
      ∀ entry ∈ entries, ∀ tree, entry.tree? = some tree → tree.text = .ok tree.shown := by
  obtain ⟨result, outs⟩ := proceed_with_tree depth { modes := ⟨verbose, false⟩ } entries steady
  refine ⟨result, ?_, ?_⟩
  · have opened := annotated_reply entries
      (proceed depth { modes := ⟨verbose, false⟩ } entries).emissions
      (by simp [banner] : prompt ∉ [banner])
    have whole : Emission.outs (session depth ⟨verbose, true⟩ entries).emissions =
        Emission.outs (annotated entries (session depth ⟨verbose, false⟩ entries).emissions) := by
      simp only [List.singleton_append] at opened
      simp only [session]
      rw [opened]
      exact congrArg (banner :: ·) outs
    rw [← Emission.output_outs, whole, Emission.output_outs]
  · intro entry _ tree found
    exact entry.tree_prints found

/-- A definition, a call of it, a line that stops halfway, one that cannot be read, two commands
and a blank line. -/
def mixedEntries : List Entry :=
  [.typed "f(x) = [x 1] # 0", .typed "  y = f(2)", .typed "[(y = 3) z]", .typed "1 +",
    .typed "verbose-mode", .typed "", .typed "vars"]

theorem mixed_session_shows_trees :
    (∀ entry ∈ mixedEntries, entry.isLine "ast-mode" = false) ∧
      Emission.output (session 1 ⟨false, false⟩ mixedEntries).emissions =
        "Vecta REPL. Type 'exit' or 'quit' to leave.\n" ++
        "> function(x)\n" ++
        "> 2\n" ++
        "> ERROR: variable 'z' is not defined - <shell> <ln: 0, column: 9>\n" ++
        "> ERROR: unexpected end of file - <shell> <ln: 0, column: 3>\n" ++
        "> [mode] >>> Verbose mode ON\n" ++
        "> >            f = function(x)\n           y = 3\n" ++
        "> \nExiting Vecta REPL.\n" ∧
      Emission.output (session 1 ⟨false, true⟩ mixedEntries).emissions =
        "Vecta REPL. Type 'exit' or 'quit' to leave.\n" ++
        "> [ast] >>> (((f) (x)) = ([(x) (1)] '#' (0)))\nfunction(x)\n" ++
        "> [ast] >>> ((y) = ((f) (2)))\n2\n" ++
        "> [ast] >>> [((y) = (3)) (z)]\n" ++
        "ERROR: variable 'z' is not defined - <shell> <ln: 0, column: 9>\n" ++
        "> ERROR: unexpected end of file - <shell> <ln: 0, column: 3>\n" ++
        "> [mode] >>> Verbose mode ON\n" ++
        "> >            f = function(x)\n           y = 3\n" ++
        "> \nExiting Vecta REPL.\n" := by
  have steady : ∀ entry ∈ mixedEntries, entry.isLine "ast-mode" = false := by decide
  have shown := (shown_trees_are_inserted 1 false mixedEntries steady).2.1
  refine ⟨steady, by decide +kernel, ?_⟩
  rw [shown]
  decide +kernel

end Shell

end VectorCalc
