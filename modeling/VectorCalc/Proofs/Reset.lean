import Mathlib.Logic.Function.Iterate
import Mathlib.Tactic.SplitIfs
import VectorCalc.Shell

/-!
Sessions that are reset. A session goes from prompt to prompt with nothing but its bindings and its
modes. The modes are changed only by the two commands that switch them, and a reset leaves no
bindings; so whatever was entered before a reset, functions and half-finished inputs included, the
session goes on as a new one would, in the modes that the commands have left.
-/
namespace VectorCalc

set_option autoImplicit false

namespace Entry

def isLine (line : String) : Entry → Bool
  | .typed text => String.ofList (Text.trim text.toList) == line
  | .interrupt => false

def Stays (entry : Entry) : Prop :=
  entry ≠ .interrupt ∧ entry.isLine "exit" = false ∧ entry.isLine "quit" = false

instance : DecidablePred Stays := fun entry =>
  inferInstanceAs (Decidable (entry ≠ .interrupt ∧ entry.isLine "exit" = false ∧ _))

end Entry

/-- The modes after some entries: each is switched once for every line that asks for it. -/
def Modes.switched (modes : Modes) (entries : List Entry) : Modes where
  verbose := not^[entries.countP (Entry.isLine "verbose-mode")] modes.verbose
  tree := not^[entries.countP (Entry.isLine "ast-mode")] modes.tree

theorem Modes.switched_cons (modes : Modes) (entry : Entry) (entries : List Entry) :
    modes.switched (entry :: entries) = (modes.switched [entry]).switched entries := by
  unfold switched
  rw [List.countP_cons, List.countP_cons, List.countP_singleton, List.countP_singleton,
    Function.iterate_add_apply, Function.iterate_add_apply]

def Modes.switchedBy (modes : Modes) (line : String) : Modes where
  verbose := if line = "verbose-mode" then !modes.verbose else modes.verbose
  tree := if line = "ast-mode" then !modes.tree else modes.tree

theorem Modes.switched_typed (modes : Modes) (text : String) :
    modes.switched [.typed text] = modes.switchedBy (String.ofList (Text.trim text.toList)) := by
  have once (asked : Prop) [Decidable asked] (state : Bool) :
      not^[if asked then 1 else 0] state = if asked then !state else state := by
    split_ifs <;> rfl
  unfold switched switchedBy
  simp only [List.countP_singleton, Entry.isLine, beq_iff_eq, once]

namespace Shell

theorem evaluate_modes (depth : Nat) (shell : Shell) (text : String) :
    (shell.evaluate depth text).1.modes = shell.modes := by
  unfold evaluate
  dsimp only
  split
  · rfl
  · rfl
  · split <;> rfl

/-- One line that does not ask to leave goes on, and only the commands for it switch a mode. -/
theorem react_goes_on (depth : Nat) (shell : Shell) {line : String} (noExit : line ≠ "exit")
    (noQuit : line ≠ "quit") :
    ∃ after report, shell.react depth line = .goOn after report ∧
      after.modes = shell.modes.switchedBy line := by
  have leaves : ¬(line = "exit" ∨ line = "quit") := not_or.mpr ⟨noExit, noQuit⟩
  unfold react
  by_cases blank : line = ""
  · subst blank
    exact ⟨shell, _, if_pos rfl, rfl⟩
  · rw [if_neg blank, if_neg leaves]
    unfold command?
    split_ifs with vars reset verbose tree
    · subst vars
      exact ⟨_, _, rfl, rfl⟩
    · subst reset
      exact ⟨_, _, rfl, rfl⟩
    · subst verbose
      exact ⟨_, _, rfl, rfl⟩
    · subst tree
      exact ⟨_, _, rfl, rfl⟩
    · refine ⟨(shell.evaluate depth line).1, (shell.evaluate depth line).2, rfl, ?_⟩
      rw [evaluate_modes, Modes.switchedBy, if_neg verbose, if_neg tree]

/-- What is sent before a prompt at which the entries are used up, and the shell that is there. -/
structure Reaches (depth : Nat) (shell : Shell) (entries : List Entry) (opening : List Emission)
    (after : Shell) : Prop where
  ends : (proceed depth shell entries).emissions = opening ++ [prompt, abandoned]
  goesOn : ∀ rest, proceed depth shell (entries ++ rest) =
    ⟨(proceed depth after rest).result, opening ++ (proceed depth after rest).emissions⟩
  modes : after.modes = shell.modes.switched entries

/-- Entries of which none leaves or breaks down lead to another prompt. -/
theorem proceed_reaches (depth : Nat) (shell : Shell) (entries : List Entry)
    (stays : ∀ entry ∈ entries, entry.Stays)
    (unbroken : (proceed depth shell entries).result = .ok ()) :
    ∃ opening after, Reaches depth shell entries opening after := by
  induction entries generalizing shell with
  | nil => exact ⟨[], shell, rfl, fun _ => rfl, rfl⟩
  | cons entry entries induction =>
      obtain ⟨here, later⟩ := List.forall_mem_cons.mp stays
      cases entry with
      | interrupt => exact absurd rfl here.1
      | typed text =>
          obtain ⟨_, noExit, noQuit⟩ := here
          obtain ⟨next, report, reaction, nextModes⟩ := react_goes_on depth shell
            (by simpa [Entry.isLine] using noExit) (by simpa [Entry.isLine] using noQuit)
          rw [← Modes.switched_typed] at nextModes
          cases ended : report.result with
          | error breakdown =>
              have stopped : proceed depth shell (.typed text :: entries) =
                  ⟨.error breakdown, prompt :: report.emissions⟩ := by
                simp only [proceed, reaction, ended]
              rw [stopped] at unbroken
              cases unbroken
          | ok _ =>
              have proceeds (rest : List Entry) : proceed depth shell (.typed text :: rest) =
                  ⟨(proceed depth next rest).result,
                    prompt :: (report.emissions ++ (proceed depth next rest).emissions)⟩ := by
                simp only [proceed, reaction, ended]
              rw [proceeds] at unbroken
              obtain ⟨opening, after, reaches⟩ := induction next later unbroken
              refine ⟨prompt :: (report.emissions ++ opening), after, ?_, ?_, ?_⟩
              · rw [proceeds, reaches.ends, ← List.append_assoc, List.cons_append]
              · intro rest
                rw [List.cons_append, proceeds, reaches.goesOn, List.cons_append,
                  List.append_assoc]
              · rw [reaches.modes, nextModes, ← Modes.switched_cons]

theorem proceed_reset (depth : Nat) (shell : Shell) {text : String}
    (resets : (Entry.typed text).isLine "reset" = true) (rest : List Entry) :
    proceed depth shell (.typed text :: rest) =
      ⟨(proceed depth { modes := shell.modes } rest).result,
        prompt :: .line "[ok] >>> Context cleared." ::
          (proceed depth { modes := shell.modes } rest).emissions⟩ := by
  have line : String.ofList (Text.trim text.toList) = "reset" := by
    simpa [Entry.isLine] using resets
  rw [proceed, line]
  rfl

/-- After a reset a session sends what a new session in the same modes sends after its banner, and
ends as that does. Before it, the session sends what it would have sent if it had been abandoned at
that prompt. -/
theorem reset_session_is_fresh (depth : Nat) (modes : Modes) (entries rest : List Entry)
    {text : String} (stays : ∀ entry ∈ entries, entry.Stays)
    (unbroken : (session depth modes entries).result = .ok ())
    (resets : (Entry.typed text).isLine "reset" = true) :
    ∃ opening continued,
      (session depth modes entries).emissions = opening ++ [prompt, abandoned] ∧
      (session depth modes (entries ++ .typed text :: rest)).emissions =
        opening ++ [prompt, .line "[ok] >>> Context cleared."] ++ continued ∧
      (session depth (modes.switched entries) rest).emissions = banner :: continued ∧
      (session depth modes (entries ++ .typed text :: rest)).result =
        (session depth (modes.switched entries) rest).result := by
  obtain ⟨opening, after, ends, goesOn, reached⟩ :=
    proceed_reaches depth { modes := modes } entries stays unbroken
  have whole := goesOn (.typed text :: rest)
  rw [proceed_reset depth after resets, reached] at whole
  refine ⟨banner :: opening, (proceed depth { modes := modes.switched entries } rest).emissions,
    ?_, ?_, rfl, ?_⟩
  · exact congrArg (banner :: ·) ends
  · unfold session
    rw [whole]
    simp
  · unfold session
    rw [whole]

/-- Before the reset a function and a variable are bound, one input stops halfway and both modes are
switched; after it the variable is asked for. -/
theorem function_is_forgotten :
    ∃ opening continued,
      (session 1 {} [.typed "f(y) = y", .typed " verbose-mode", .typed "[(x = f(2)) z]",
        .typed "ast-mode", .typed "verbose-mode"]).emissions = opening ++ [prompt, abandoned] ∧
      (session 1 {} ([.typed "f(y) = y", .typed " verbose-mode", .typed "[(x = f(2)) z]",
        .typed "ast-mode", .typed "verbose-mode"] ++
          .typed "reset " :: [.typed "x", .interrupt])).emissions =
        opening ++ [prompt, .line "[ok] >>> Context cleared."] ++ continued ∧
      (session 1 ⟨false, true⟩ [.typed "x", .interrupt]).emissions = banner :: continued := by
  have stays : ∀ entry ∈ [Entry.typed "f(y) = y", .typed " verbose-mode",
      .typed "[(x = f(2)) z]", .typed "ast-mode", .typed "verbose-mode"], entry.Stays := by
    decide
  obtain ⟨opening, continued, before, whole, fresh, _⟩ := reset_session_is_fresh 1 {} _
    [.typed "x", .interrupt] stays rfl (rfl : (Entry.typed "reset ").isLine "reset" = true)
  exact ⟨opening, continued, before, whole, fresh⟩

end Shell

end VectorCalc
