import VectorCalc.Proofs.Nesting
import VectorCalc.Proofs.Provenance
import VectorCalc.Proofs.Spelling
import VectorCalc.Proofs.TreeLines

/-!
Every diagnostic is one line. Texts may have many lines, but only three things go from a text into
a message: a name, the digits of a number, and a character that belongs to no token, and a line feed
is in none of them. Everything else that a message says is a number or one of a fixed list of words.
So the catalogue of what each stage reports is all that has to be gone through.
-/
namespace VectorCalc

set_option autoImplicit false

def OneLine (text : String) : Prop :=
  '\n' ∉ text.toList

instance : DecidablePred OneLine := fun text =>
  inferInstanceAs (Decidable ('\n' ∉ text.toList))

@[simp] theorem one_line_append (first second : String) :
    OneLine (first ++ second) ↔ OneLine first ∧ OneLine second := by
  simp [OneLine]

theorem classified_in_one_line {lexeme : List Char} {kind : TokenKind} {payload : Payload}
    (classified : Classified lexeme kind payload) (other : kind ≠ .lineEnd) :
    OneLine (String.ofList lexeme) := by
  intro member
  rw [String.toList_ofList] at member
  exact (classified_is_plain classified other '\n' member).2 rfl

theorem name_in_one_line {name : String} (named : IsName name) : OneLine name := by
  have lexeme := classified_in_one_line (name_sound named).classified (by simp [Piece.name])
  simpa [Piece.name] using lexeme

theorem integer_in_one_line (value : Int) : OneLine (Text.integerText value) := by
  have digits := classified_in_one_line (.int (digits_are_run value.natAbs)) (by simp)
  have sign : OneLine (String.ofList (signText value)) := by
    unfold signText
    split_ifs <;> decide
  rw [integer_text_shape, String.ofList_append]
  exact (one_line_append _ _).mpr ⟨sign, digits⟩

theorem title_in_one_line {kind : TokenKind} {title : String} (titled : kind.title? = some title) :
    OneLine title := by
  cases kind with
  | other code => cases titled
  | _ =>
      cases titled
      decide

theorem type_in_one_line (value : Value) : OneLine value.type.kind := by
  have known : value.type.kind ∈ ["int", "float", "vector", "function"] := by
    cases value with
    | mislabelled type content => cases type <;> simp [Value.type, NumberType.code]
    | _ => simp [Value.type]
  have all : ∀ kind ∈ ["int", "float", "vector", "function"], OneLine kind := by decide
  exact all _ known

theorem node_title_in_one_line {node : Node} (formed : node.WellFormed) :
    OneLine node.kind.title := by
  have known : node.kind ∈ NodeKind.known := by
    cases formed <;> simp [Node.kind, NodeKind.known]
  have all : ∀ kind ∈ NodeKind.known, OneLine kind.title := by decide
  exact all _ known

def Fault.InOneLine (fault : Fault) : Prop :=
  ∃ detail, fault.detail = .ok detail ∧ OneLine detail

/-- What a token needs to be spoken of: a name for its kind, and no line feed in it if it is bad. -/
structure Token.Mentionable (token : Token) : Prop where
  titled : ∃ title, token.kind.title? = some title
  plain : token.kind = .bad → OneLine token.payload.plain

theorem classified_kind_is_titled {lexeme : List Char} {kind : TokenKind} {payload : Payload}
    (classified : Classified lexeme kind payload) : ∃ title, kind.title? = some title := by
  cases classified with
  | lineBreaks _ => exact ⟨_, rfl⟩
  | float _ _ => exact ⟨_, rfl⟩
  | int _ => exact ⟨_, rfl⟩
  | @word first others _ _ =>
      rw [reserved_kind]
      have kinds := of_word_kind (first :: others)
      simp only [List.mem_cons, List.not_mem_nil, or_false] at kinds
      rcases kinds with same | same | same | same <;> exact ⟨_, by rw [same]; rfl⟩
  | symbol member =>
      have titled : ∀ entry ∈ fixedSymbols, entry.2.title?.isSome = true := by decide
      exact Option.isSome_iff_exists.mp (titled _ member)

namespace Lexeme

/-- A character that belongs to no token is no line feed, since that would be a token. -/
theorem token_is_mentionable {lexeme : Lexeme} {rest : List Char} {token : Token}
    {first last : Place} (cut : cut? (lexeme.text ++ rest) = some lexeme)
    (made : lexeme.token first last = .ok token) : token.Mentionable := by
  cases cut_matches cut with
  | token taken _ good result =>
      obtain ⟨span, same⟩ := result first last
      rw [made] at same
      cases same
      exact ⟨classified_kind_is_titled taken.classified, fun bad => absurd bad good⟩
  | @whole digits taken =>
      change integerToken digits _ _ = _ at made
      unfold integerToken at made
      dsimp only at made
      split_ifs at made
      · cases made
        exact ⟨⟨_, rfl⟩, fun _ => classified_in_one_line taken.classified (by simp)⟩
      · cases made
        exact ⟨⟨_, rfl⟩, fun bad => by cases bad⟩
  | @stray character others shape unmatched =>
      cases made
      refine ⟨⟨_, rfl⟩, fun _ member => ?_⟩
      have same : '\n' = character := by simpa [badToken, Payload.plain] using member
      have lineBreak : Classified ['\n'] .lineEnd _ := .lineBreaks ⟨by simp, by simp⟩
      rw [shape, ← same] at unmatched
      exact unmatched lineBreak (List.prefix_append ['\n'] others)

end Lexeme

theorem scan_is_mentionable {before rest : List Char} {steps : List (Token × Source)}
    {broken : Option Breakdown} (scans : Scans before rest steps broken) :
    ∀ step ∈ steps, step.1.Mentionable := by
  induction scans with
  | ended _ => simpa using ⟨⟨_, rfl⟩, fun bad => by cases bad⟩
  | token _ _ cut made _ induction =>
      exact List.forall_mem_cons.mpr ⟨Lexeme.token_is_mentionable cut made, induction⟩
  | broken => simp

theorem scanned_token_is_mentionable {text : String} {token : Token}
    (member : token ∈ (Source.ofText text).scan.tokens) : token.Mentionable := by
  obtain ⟨step, inside, same⟩ := List.mem_map.mp member
  rw [← same]
  exact scan_is_mentionable (Source.scan_of_text text) step inside

theorem complaint_in_one_line {token : Token} {issue : Issue} (mentionable : token.Mentionable)
    (complaint : Complaint token (.issue issue)) : issue.fault.InOneLine := by
  obtain ⟨title, titled⟩ := mentionable.titled
  have found : OneLine token.name := by
    rw [Token.name, titled]
    exact title_in_one_line titled
  cases complaint with
  | unexpected =>
      refine ⟨_, rfl, (one_line_append _ _).mpr ⟨by decide, found⟩⟩
  | @expected kind known =>
      simp only [List.mem_cons, List.not_mem_nil, or_false] at known
      rcases known with rfl | rfl | rfl <;>
        exact ⟨_, rfl, (one_line_append _ _).mpr ⟨by decide, found⟩⟩

/-- Whatever keeps a text from being read is said in one line. -/
theorem reading_issue_in_one_line {text : String} {issue : Issue}
    (failed : parseText text = .error (.issue issue)) : issue.fault.InOneLine := by
  unfold parseText at failed
  cases scanned : tokenize text with
  | error stop =>
      rw [scanned] at failed
      cases failed
      obtain ⟨token, found, rfl⟩ := tokenize_issue scanned
      have bad : token.kind = .bad := by simpa using List.find?_some found
      have plain := (scanned_token_is_mentionable (List.mem_of_find?_eq_some found)).plain bad
      refine ⟨_, rfl, ?_⟩
      rw [one_line_append, one_line_append]
      exact ⟨⟨by decide, plain⟩, by decide⟩
  | ok tokens =>
      rw [scanned] at failed
      obtain ⟨token, member, complaint⟩ := parse_complaint (tokenize_sound scanned).1 failed
      rw [← (tokenize_scan scanned).1] at member
      exact complaint_in_one_line (scanned_token_is_mentionable member) complaint

/-- So is every fault that evaluation raises. -/
theorem raised_in_one_line {origin : Node → Prop} (closed : ClosedOrigin origin) {fault : Fault}
    (raised : fault.Raised origin) : fault.InOneLine := by
  cases raised with
  | name named =>
      refine ⟨_, rfl, ?_⟩
      rw [one_line_append, one_line_append]
      exact ⟨⟨by decide, name_in_one_line named⟩, by decide⟩
  | @target node read =>
      refine ⟨_, rfl, (one_line_append _ _).mpr ⟨by decide, ?_⟩⟩
      exact node_title_in_one_line (closed.formed node read)
  | item value | callee value =>
      refine ⟨_, rfl, ?_⟩
      rw [one_line_append, one_line_append]
      exact ⟨⟨type_in_one_line value, by decide⟩, by decide⟩
  | operands operator left right =>
      obtain ⟨title, titled⟩ := binary_operator_has_title operator
      refine ⟨"operation " ++ title ++ " cannot be performed on " ++ left.type.kind ++ " and "
        ++ right.type.kind, by rw [Fault.detail, Fault.requiredTitle, titled]; rfl, ?_⟩
      simp only [one_line_append]
      exact ⟨⟨⟨⟨⟨by decide, title_in_one_line titled⟩, by decide⟩, type_in_one_line left⟩,
        by decide⟩, type_in_one_line right⟩
  | operand value =>
      refine ⟨_, rfl, (one_line_append _ _).mpr ⟨by decide, type_in_one_line value⟩⟩
  | index last position =>
      refine ⟨_, rfl, ?_⟩
      simp only [one_line_append]
      exact ⟨⟨⟨by decide, integer_in_one_line position⟩, by decide⟩, integer_in_one_line last⟩

/-- The message is one line: the detail of the fault, the label, and the start of the span. -/
structure Issue.ToldBy (issue : Issue) (label message : String) : Prop where
  worded : (issue.labelled label).message = .ok message
  shape : ∃ detail, issue.fault.detail = .ok detail ∧
    message = "ERROR: " ++ detail ++ " - " ++ label ++ " <ln: " ++
      Text.integerText issue.span.lineStart ++ ", column: " ++
      Text.integerText issue.span.columnStart ++ ">"
  oneLine : OneLine message

theorem told_in_one_line {issue : Issue} (fault : issue.fault.InOneLine) {label : String}
    (plain : OneLine label) : ∃ message, issue.ToldBy label message := by
  obtain ⟨detail, worded, detailPlain⟩ := fault
  refine ⟨"ERROR: " ++ detail ++ " - " ++ label ++ " <ln: " ++
    Text.integerText issue.span.lineStart ++ ", column: " ++
    Text.integerText issue.span.columnStart ++ ">", ?_, ⟨detail, worded, rfl⟩, ?_⟩
  · have shown : (issue.labelled label).message =
        .ok ("ERROR: " ++ detail ++ " - " ++ label ++ " " ++ issue.span.text) := by
      unfold Diagnostic.message
      rw [Issue.labelled, worded]
      rfl
    rw [shown, Span.text]
    simp only [String.append_assoc]
    rfl
  · simp only [one_line_append]
    exact ⟨⟨⟨⟨⟨⟨⟨⟨by decide, detailPlain⟩, by decide⟩, plain⟩, by decide⟩,
      integer_in_one_line _⟩, by decide⟩, integer_in_one_line _⟩, by decide⟩

theorem session_issue_in_one_line (inputs : List SessionInput) (depth : Nat) (text : String)
    {issue : Issue}
    (failed : (runText depth (bindingsAfter inputs .empty) text).result = .error (.issue issue)) :
    issue.fault.InOneLine := by
  have formed := fresh_session_keeps inputs
  rcases run_text_cases depth (bindingsAfter inputs .empty) text with
    ⟨stop, unread, result, _⟩ | ⟨tree, read, _, result, _⟩
  · rw [result] at failed
    cases failed
    exact reading_issue_in_one_line unread
  · rw [result] at failed
    have treeFormed := parse_text_well_formed read
    have accounted := evaluation_accounted treeFormed formed depth
    rw [failed] at accounted
    cases accounted with
    | issue _ raised => exact raised_in_one_line (tree_or_bound_closed treeFormed formed) raised

theorem output_of_report (run : Run) (verbose : Bool) (label : String) :
    Emission.output (run.report ⟨verbose, false⟩ label).emissions =
      Emission.output (resultReport ⟨verbose, false⟩ label run.result).emissions := by
  rw [← Emission.output_outs, report_outs, ← Emission.output_outs (resultReport _ _ _).emissions]
  rfl

theorem issue_report {issue : Issue} {label message : String}
    (worded : (issue.labelled label).message = .ok message) (verbose : Bool) :
    (resultReport ⟨verbose, false⟩ label (.error (.issue issue))).result = .ok none ∧
      Emission.output (resultReport ⟨verbose, false⟩ label (.error (.issue issue))).emissions =
        message ++ "\n" := by
  obtain ⟨text, described⟩ := worded_is_described worded
  unfold resultReport
  dsimp only
  rw [worded, described]
  refine ⟨rfl, ?_⟩
  cases verbose <;> simp [failureEmissions, Emission.output, Emission.line, Emission.logLine,
    Emission.outText]

/-- Every diagnostic of a session is one line of the same form, and it is all that is printed for an
input that stops with one. Nothing is printed for an input with a value, or when the run breaks
off. -/
theorem diagnostics_are_single_lines (inputs : List SessionInput) (depth : Nat)
    (text label : String) (plain : '\n' ∉ label.toList) (verbose : Bool) :
    (∀ issue,
      (runText depth (bindingsAfter inputs .empty) text).result = .error (.issue issue) →
      ∃ message, issue.ToldBy label message ∧
        ((runText depth (bindingsAfter inputs .empty) text).report ⟨verbose, false⟩ label).result =
          .ok none ∧
        Emission.output ((runText depth (bindingsAfter inputs .empty) text).report ⟨verbose, false⟩
          label).emissions = message ++ "\n") ∧
    (∀ value, (runText depth (bindingsAfter inputs .empty) text).result = .ok value →
      ((runText depth (bindingsAfter inputs .empty) text).report ⟨verbose, false⟩ label).result =
        .ok (some value) ∧
      Emission.output ((runText depth (bindingsAfter inputs .empty) text).report ⟨verbose, false⟩
        label).emissions = "") ∧
    ∀ breakdown,
      (runText depth (bindingsAfter inputs .empty) text).result = .error (.broken breakdown) →
      ((runText depth (bindingsAfter inputs .empty) text).report ⟨verbose, false⟩ label).result =
        .error breakdown ∧
      Emission.output ((runText depth (bindingsAfter inputs .empty) text).report ⟨verbose, false⟩
        label).emissions = "" := by
  have printed := output_of_report (runText depth (bindingsAfter inputs .empty) text) verbose label
  refine ⟨?_, ?_, ?_⟩
  · intro issue failed
    obtain ⟨message, told⟩ := told_in_one_line
      (session_issue_in_one_line inputs depth text failed) plain
    obtain ⟨result, output⟩ := issue_report told.worded verbose
    rw [printed, failed]
    refine ⟨message, told, ?_, output⟩
    rw [Run.report, failed]
    exact result
  · intro value given
    rw [printed, given, Run.report, given]
    exact ⟨rfl, rfl⟩
  · intro breakdown broken
    rw [printed, broken, Run.report, broken]
    exact ⟨rfl, rfl⟩

/-- The text has three lines, and the body that stops the evaluation was read from another one. -/
theorem failing_body_is_told_in_one_line :
    ∃ issue, (runText 3 (bindingsAfter [⟨3, "\nf(x)=1+y\n"⟩] .empty) "\n[2 f(5)]\n").result =
        .error (.issue issue) ∧
      issue.ToldBy "shell" "ERROR: variable 'y' is not defined - shell <ln: 1, column: 7>" ∧
      Emission.output ((runText 3 (bindingsAfter [⟨3, "\nf(x)=1+y\n"⟩] .empty)
        "\n[2 f(5)]\n").report ⟨true, false⟩ "shell").emissions =
          "ERROR: variable 'y' is not defined - shell <ln: 1, column: 7>\n" := by
  let issue : Issue := ⟨.undefinedVariable "y", ⟨8, 9, 1, 1, 7, 8⟩⟩
  have failed : (runText 3 (bindingsAfter [⟨3, "\nf(x)=1+y\n"⟩] .empty) "\n[2 f(5)]\n").result =
      .error (.issue issue) := rfl
  obtain ⟨stops, _, _⟩ := diagnostics_are_single_lines [⟨3, "\nf(x)=1+y\n"⟩] 3 "\n[2 f(5)]\n"
    "shell" (by decide) true
  obtain ⟨message, told, _, output⟩ := stops issue failed
  have worded : (issue.labelled "shell").message =
      .ok "ERROR: variable 'y' is not defined - shell <ln: 1, column: 7>" :=
    congrArg Except.ok (by decide)
  cases Except.ok.inj (told.worded.symm.trans worded)
  exact ⟨issue, failed, told, output⟩

end VectorCalc
