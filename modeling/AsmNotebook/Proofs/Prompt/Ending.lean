import AsmNotebook.Proofs.Prompt.Blocks
import AsmNotebook.Proofs.Text.Decoding

namespace AsmNotebook

/-!
# The end of the input

A block that is open at the end of the input is submitted, as by a blank line.
So blank lines at the end make no difference: the prompt is the same dialogue
with and without them, whatever the world answers.

Two more line feeds are blank lines at the end, but the first one may end a
line that was not ended before.  The line stays the same then.  This holds of
bytes that are a text, and whose last one is no carriage return: to end a line
behind that takes the carriage return away.
-/

namespace Text

variable {line : List UInt8} {cs : List Char}

theorem cutFrom_of_not_mem (whole : 10 ∉ line) (carried : List UInt8)
    (filled : carried.reverse ++ line ≠ []) :
    cutFrom carried line = [carried.reverse ++ line] ∧
      cutFrom carried (line ++ [10]) = [carried.reverse ++ line ++ [10]] := by
  induction line generalizing carried with
  | nil =>
    rw [List.append_nil] at filled
    have some : carried.isEmpty = false := by simpa using filled
    simp [cutFrom, some]
  | cons byte line inductionHypothesis =>
    rcases List.ne_and_not_mem_of_not_mem_cons whole with ⟨different, whole⟩
    have inside : (byte == 10) = false := beq_eq_false_iff_ne.2 (Ne.symm different)
    have next := inductionHypothesis whole (byte :: carried) (by simp)
    simpa [cutFrom, inside] using next

/-- A line that ends in no line feed is all of it. -/
theorem withoutEnd_of_unended (unended : cs.getLast? ≠ some '\n') : withoutEnd cs = cs := by
  rw [← List.head?_reverse] at unended
  unfold withoutEnd
  split
  · next reversed => simp [reversed] at unended
  · next reversed => simp [reversed] at unended
  · rfl

/-- A line feed is taken away, and nothing else unless there is a carriage return before. -/
theorem withoutEnd_concat (plain : cs.getLast? ≠ some '\r') : withoutEnd (cs ++ ['\n']) = cs := by
  rw [← List.head?_reverse] at plain
  unfold withoutEnd
  rw [List.reverse_append]
  split
  · next rest reversed =>
    have same : cs.reverse = '\r' :: rest := List.cons.inj reversed |>.2
    simp [same] at plain
  · next rest _ reversed =>
    have same : cs.reverse = rest := List.cons.inj reversed |>.2
    rw [← same, List.reverse_reverse]
  · next other => exact absurd rfl (other cs.reverse)

/-- To end the last line changes nothing in it. -/
theorem byteLines_ended (spells : Spells line cs) (filled : line ≠ []) (whole : 10 ∉ line)
    (plain : line.getLast? ≠ some 13) : byteLines (line ++ [10]) = byteLines line := by
  rcases cutFrom_of_not_mem whole [] filled with ⟨unended, ended⟩
  have feed : Spells [10] ['\n'] := spells_iff.1 rfl
  have no_feed : cs.getLast? ≠ some '\n' := by
    intro last
    exact whole (List.mem_of_getLast? (spells.getLast? last (by decide) (by decide)))
  have no_return : cs.getLast? ≠ some '\r' := by
    intro last
    exact plain (spells.getLast? last (by decide) (by decide))
  rw [byteLines, byteLines, unended, ended]
  simp only [List.reverse_nil, List.nil_append, List.map_cons, List.map_nil, spells_iff.2 spells,
    spells_iff.2 (spells.append feed), Except.map, withoutEnd_of_unended no_feed,
    withoutEnd_concat no_return]

/-- What stands behind the last line feed. -/
theorem exists_last_line (bytes : List UInt8) :
    10 ∉ bytes ∨ ∃ front line, bytes = front ++ 10 :: line ∧ 10 ∉ line := by
  by_cases member : 10 ∈ bytes
  · rcases List.eq_append_cons_of_mem (List.mem_reverse.2 member) with ⟨back, front, same, whole⟩
    refine .inr ⟨front.reverse, back.reverse, ?_, mt List.mem_reverse.1 whole⟩
    have forth := congrArg List.reverse same
    rw [List.reverse_reverse] at forth
    simpa using forth
  · exact .inl member

theorem byteLines_line_feeds (spells : Spells line cs) (whole : 10 ∉ line)
    (plain : line.getLast? ≠ some 13) :
    ∃ count, byteLines (line ++ [10, 10]) = byteLines line ++ List.replicate count (.ok "") := by
  by_cases filled : line = []
  · rw [filled]
    exact ⟨2, rfl⟩
  · refine ⟨1, ?_⟩
    have ends : (line ++ [10]).getLast? = some 10 := List.getLast?_concat
    calc
      byteLines (line ++ [10, 10]) = byteLines (line ++ [10] ++ [10]) := by
        rw [List.append_assoc]
        rfl
      _ = byteLines (line ++ [10]) ++ byteLines [10] := byteLines_append ends [10]
      _ = byteLines line ++ [.ok ""] := by
        rw [byteLines_ended spells filled whole plain]
        rfl

/-- Two line feeds at the end of a text are blank lines. -/
theorem byteLines_feeds {bytes : List UInt8} {text : String} (valid : decode bytes = .ok text)
    (plain : bytes.getLast? ≠ some 13) :
    ∃ count, byteLines (bytes ++ [10, 10]) = byteLines bytes ++ List.replicate count (.ok "") := by
  have spelled : ∃ cs, Spells bytes cs := by
    unfold decode at valid
    cases read : decodeFrom 0 0 [] bytes with
    | error => rw [read] at valid; cases valid
    | ok cs => exact ⟨cs, spells_iff.1 read⟩
  rcases spelled with ⟨cs, spells⟩
  rcases exists_last_line bytes with whole | ⟨front, line, rfl, whole⟩
  · exact byteLines_line_feeds spells whole plain
  · rcases spells.behind with ⟨cs, spells⟩
    have last : line.getLast? ≠ some 13 := by
      intro last
      apply plain
      rw [List.getLast?_append, List.getLast?_cons, last]
      rfl
    rcases byteLines_line_feeds spells whole last with ⟨count, same⟩
    refine ⟨count, ?_⟩
    have ends : (front ++ [10]).getLast? = some 10 := List.getLast?_concat
    have cut (behind : List UInt8) : byteLines (front ++ 10 :: behind) =
        byteLines (front ++ [10]) ++ byteLines behind := by
      rw [← byteLines_append ends, List.append_assoc, List.singleton_append]
    rw [List.append_assoc, List.cons_append, cut, cut line, same, List.append_assoc]

end Text

namespace Prompt

/-- The prompt goes on with no block open. -/
def closed (next : App × Target × String) : Response :=
  more ⟨next.1, next.2.1, []⟩ next.2.2

/-- At the end of the input no block stays open. -/
theorem finish_closes (state : State) :
    ∃ work : Work (App × Target × String), finish state = work.bind fun next =>
      .done (closed next) := by
  rcases state with ⟨app, target, block⟩
  cases block with
  | nil => exact ⟨.done (app, target, ""), rfl⟩
  | cons line block =>
    cases target with
    | replace cellId => exact ⟨.done (_, .newCell, _), rfl⟩
    | newCell =>
      let placed := app.change (place ("\n".intercalate (line :: block)))
      refine ⟨(placed.1.run placed.2).bind fun ran =>
        .done (ran.1, .newCell, shownOutcome ran.2), ?_⟩
      rw [Dialogue.bind_assoc]
      rfl

/-- A blank line does what the end of the input does. -/
theorem take_of_blank {line : String} (blank : Text.isBlankLine line = true) (state : State) :
    take state line = finish state := by
  by_cases closed : state.block = []
  · rw [take_of_skipped closed blank, finish, if_pos (List.isEmpty_iff.2 closed)]
  · rw [take_of_closed closed blank, finish, if_neg (mt List.isEmpty_iff.1 closed)]

/-- To read a blank line and then the end is to read the end. -/
theorem run_blank {line : String} (blank : Text.isBlankLine line = true) (shown : String)
    (state : State) : run shown state [.ok line] = run shown state [] := by
  rcases finish_closes state with ⟨work, finishes⟩
  -- Behind the blank line the end finds no block and shows nothing.
  have again (next : App × Target × String) :
      run (shown ++ next.2.2) ⟨next.1, next.2.1, []⟩ [] =
        .done { app := next.1, shown := shown ++ next.2.2, failed := none } := by
    change Dialogue.done (Transcript.mk _ (shown ++ next.2.2 ++ "") _) = _
    rw [String.append_empty]
    rfl
  calc
    run shown state [.ok line] = work.bind fun next =>
        run (shown ++ next.2.2) ⟨next.1, next.2.1, []⟩ [] := by
      rw [run, take_of_blank blank, finishes, Dialogue.bind_assoc]
      rfl
    _ = work.bind fun next =>
        .done { app := next.1, shown := shown ++ next.2.2, failed := none } := by
      simp only [again]
    _ = run shown state [] := by
      rw [run, finishes, Dialogue.bind_assoc]
      rfl

/-- A blank line at the end makes no difference. -/
theorem run_append_blank {line : String} (blank : Text.isBlankLine line = true) (shown : String)
    (state : State) (lines : List (Except Text.InvalidBytes String)) :
    run shown state (lines ++ [.ok line]) = run shown state lines := by
  induction lines generalizing shown state with
  | nil => exact run_blank blank shown state
  | cons first rest inductionHypothesis =>
    cases first with
    | error invalid => rfl
    | ok first =>
      simp only [List.cons_append, run, inductionHypothesis]

theorem run_append_blanks (shown : String) (state : State)
    (lines : List (Except Text.InvalidBytes String)) (count : Nat) :
    run shown state (lines ++ List.replicate count (.ok "")) = run shown state lines := by
  have blank : Text.isBlankLine "" = true := rfl
  induction count with
  | zero => rw [List.replicate_zero, List.append_nil]
  | succ count inductionHypothesis =>
    rw [List.replicate_succ', ← List.append_assoc, run_append_blank blank, inductionHypothesis]

/-- A text that ends is a text that goes on with two line feeds.  In every state of the prompt, both
are the same dialogue: they ask the same of the world, and for the same answers they show the same
and leave the application the same. -/
theorem end_as_blank_lines {input : List UInt8} {text : String}
    (valid : Text.decode input = .ok text) (plain : input.getLast? ≠ some 13) (shown : String)
    (state : State) :
    run shown state (Text.byteLines (input ++ [10, 10])) =
      run shown state (Text.byteLines input) := by
  rcases Text.byteLines_feeds valid plain with ⟨count, lines⟩
  rw [lines, run_append_blanks]

/-- A block is open at the end, and the two bytes of a letter end its last line. -/
def openAtEnd : List UInt8 :=
  bytes ":add\nNOP\r\n\n@bogus\n; " ++ [0xCF, 0x80]

theorem end_as_blank_lines_open_block :
    Text.decode openAtEnd = .ok ":add\nNOP\r\n\n@bogus\n; π" ∧
      openAtEnd.getLast? ≠ some 13 ∧
      run "" (start (.new blankEnd)) (Text.byteLines (openAtEnd ++ [10, 10])) =
        run "" (start (.new blankEnd)) (Text.byteLines openAtEnd) := by
  have valid : Text.decode openAtEnd = .ok ":add\nNOP\r\n\n@bogus\n; π" := rfl
  have plain : openAtEnd.getLast? ≠ some 13 := by decide
  exact ⟨valid, plain, end_as_blank_lines valid plain "" _⟩

end Prompt
end AsmNotebook
