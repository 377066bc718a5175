import AsmNotebook.Proofs.Prompt.Alongside
import AsmNotebook.Proofs.Session.RoundTrip

namespace AsmNotebook

/-!
# A restart is invisible

An input is cut behind a line feed, where no block is open and none is asked
for.  After the first part the session is saved, a new application loads it,
and its prompt reads the second part.  What is not saved is lost: what was
known of the processor, the queue, the journal and the state of the prompt.
None of it is asked for again, so the cells, the count and the calls are those
of a prompt that reads the whole input.  Only the identifiers of cells that are
added after the restart come from another supply.
-/

namespace Supplies

variable {supplies : Supplies} {left right : Notebook}

/-- The pairing of identifiers as a renaming. -/
theorem exists_rename (supplies : Supplies) :
    ∃ rename : String → String, ∀ id id', supplies.Twin id id' → rename id = id' := by
  have one (id : String) : ∃ renamed, ∀ id', supplies.Twin id id' → renamed = id' := by
    by_cases paired : ∃ id', supplies.Twin id id'
    · rcases paired with ⟨renamed, twins⟩
      exact ⟨renamed, fun id' twins' => (twins.eq_iff twins').1 rfl⟩
    · exact ⟨id, fun id' twins => absurd ⟨id', twins⟩ paired⟩
  exact ⟨fun id => (one id).choose, fun id => (one id).choose_spec⟩

/-- Some cells are those of other ones, under other names and not running. -/
def Renames (rename : String → String) (cells renamed : List Cell) : Prop :=
  renamed.map Cell.stopped = cells.map fun cell => { cell.stopped with id := rename cell.id }

theorem renames_of_twins {rename : String → String}
    (renames : ∀ id id', supplies.Twin id id' → rename id = id') {cells cells' : List Cell}
    (twins : List.Forall₂ supplies.TwinCells cells cells') : Renames rename cells cells' := by
  unfold Renames
  induction twins with
  | nil => rfl
  | @cons cell cell' _ _ same _ inductionHypothesis =>
    rw [List.map_cons, List.map_cons, inductionHypothesis, renames _ _ same.id]
    simp only [Cell.stopped, same.kind, same.content, same.output, same.executionCount]

/-- Where both supplies go on from the same number, the cells have the same names. -/
theorem Alike.ids_eq (alike : supplies.Alike left right)
    (same : supplies.first = supplies.second) : left.ids = right.ids := by
  have twins := alike.cells
  unfold Notebook.ids
  generalize left.cells = cells, right.cells = cells' at twins ⊢
  induction twins with
  | nil => rfl
  | cons twins _ inductionHypothesis =>
    rw [List.map_cons, List.map_cons, twins.id.eq_of_same same, inductionHypothesis]

theorem Alike.exists_twin (alike : supplies.Alike left right) {id : String}
    (used : id ∈ left.ids) : ∃ id', supplies.Twin id id' := by
  rcases List.mem_map.1 used with ⟨cell, member, rfl⟩
  rcases List.mem_iff_getElem?.1 member with ⟨index, there⟩
  have twins := getElem?_twins alike.cells index
  rw [there] at twins
  generalize right.cells[index]? = cell' at twins
  cases twins with
  | some same => exact ⟨_, same.id⟩

/-- A notebook beside itself. -/
theorem alike_self {notebook : Notebook} (sound : notebook.Sound) :
    Alike ⟨notebook.ids, notebook.nextId, notebook.nextId, sound.unused, sound.unused⟩ notebook
      notebook where
  cells := List.forall₂_same.2 fun _ member =>
    ⟨.old (List.mem_map_of_mem member), rfl, rfl, rfl, rfl⟩
  executionCount := rfl
  given := ⟨0, rfl, rfl⟩

/-- A notebook beside the one that was saved and loaded of a notebook like it. -/
theorem Alike.loaded (alike : supplies.Alike left right)
    (same : supplies.first = supplies.second) (sound : left.Sound) {firstId : Nat}
    (unused : ∀ n, firstId ≤ n → freshId n ∉ right.ids) (savedAt : String) :
    Alike ⟨left.ids, left.nextId, firstId, sound.unused, alike.ids_eq same ▸ unused⟩ left
      (.load firstId (some (right.save savedAt))) := by
  have filled : right.cells ≠ [] := by
    intro empty
    have lengths := alike.cells.length_eq
    rw [empty] at lengths
    exact sound.reachable.filled (List.length_eq_zero_iff.1 lengths)
  rw [Notebook.load_save filled]
  constructor
  · rw [List.forall₂_map_right_iff]
    have named : ∀ cell ∈ left.cells, cell.id ∈ left.ids := fun _ => List.mem_map_of_mem
    refine ((List.forall₂_and_left _ _).2 ⟨named, alike.cells⟩).imp ?_
    rintro cell cell' ⟨used, twins⟩
    have renamed : cell'.stopped.id = cell.id := (twins.id.eq_of_same same).symm
    refine ⟨?_, twins.kind, twins.content, twins.output, twins.executionCount⟩
    rw [renamed]
    exact .old used
  · exact alike.executionCount
  · exact ⟨0, rfl, rfl⟩

end Supplies

namespace Prompt

open Work (follow Service Runner)

variable {σ φ : Type}

/-- A prompt over a notebook reads an input: the services and files afterwards, and the transcript. -/
def converse (serve : Service σ) (errands : Runner φ) (services : σ) (files : φ)
    (notebook : Notebook) (input : List UInt8) : (σ × φ) × Transcript :=
  follow serve errands services files
    (run "" (start (.new notebook)) (Text.byteLines input))

/-- After an input is read, no block is open and none is asked for, and the prompt would read on. -/
def Rests (serve : Service σ) (errands : Runner φ) (services : σ) (files : φ)
    (notebook : Notebook) (input : List UInt8) : Prop :=
  ∃ state, (follow serve errands services files
      (readOn (start (.new notebook)) (Text.byteLines input))).2 = some state ∧
    state.block = [] ∧ state.target = .newCell

/-- What a whole input leads to, and what its two parts lead to with a restart in between. -/
structure Unbroken (whole first second : (σ × φ) × Transcript) : Prop where
  /-- The cells are the same, under names that are one to one and differ only where they were given
  out after the restart. -/
  cells : ∃ rename : String → String,
    (∀ id ∈ whole.2.app.notebook.ids, ∀ other ∈ whole.2.app.notebook.ids,
      rename id = rename other → id = other) ∧
    (∀ id ∈ first.2.app.notebook.ids, rename id = id) ∧
    Supplies.Renames rename whole.2.app.notebook.cells second.2.app.notebook.cells
  executionCount : whole.2.app.notebook.executionCount = second.2.app.notebook.executionCount
  /-- The calls of the whole are those of both parts in a row. -/
  calls : whole.2.app.calls = first.2.app.calls ++ second.2.app.calls
  /-- The services do not notice. -/
  services : whole.1.1 = second.1.1
  /-- Either both inputs can be read to the end, or neither. -/
  failed : whole.2.failed = second.2.failed

variable {serve : Service σ} {errands : Runner φ}

/-- A prompt that would read on after its input has only to end. -/
theorem converse_of_reads {services : σ} {files : φ} {notebook : Notebook} {input : List UInt8}
    {cut : State} (closed : cut.block = [])
    (reads : (follow serve errands services files
      (readOn (start (.new notebook)) (Text.byteLines input))).2 = some cut) :
    (converse serve errands services files notebook input).2.app = cut.app ∧
      (converse serve errands services files notebook input).1 =
        (follow serve errands services files
          (readOn (start (.new notebook)) (Text.byteLines input))).1 := by
  rcases follow_run_append reads [] "" with ⟨shown, same⟩
  rw [List.append_nil] at same
  rw [converse, same]
  simp only [run, finish, closed]
  exact ⟨rfl, rfl⟩

/-- A prompt that reads on beside another one that has no target goes on beside a new one. -/
theorem resumed {supplies : Supplies} {earlier : List ServiceCall} {cut cut' : State} {app : App}
    {resumes : Supplies} {calls : List ServiceCall}
    (prompts : supplies.Prompts earlier cut cut') (closed : cut'.block = [])
    (target : cut'.target = .newCell) (apps : resumes.Beside calls cut.app app) :
    resumes.Prompts calls cut (start app) := by
  have targets := prompts.targets
  rw [target] at targets
  refine ⟨apps, ?_, prompts.blocks.trans closed⟩
  generalize cut.target = target at targets ⊢
  cases targets
  exact .newCell

/-- The first part of an input leaves two prompts side by side, wherever the files stand. -/
theorem exists_cut {notebook : Notebook} (sound : notebook.Sound)
    {lines : List (Except Text.InvalidBytes String)} (harmless : usesImport false lines = false)
    {services : σ} (files : φ) {files' : φ} {cut' : State}
    (reads' : (follow serve errands services files' (readOn (start (.new notebook)) lines)).2 =
      some cut') :
    let one := follow serve errands services files (readOn (start (.new notebook)) lines)
    let other := follow serve errands services files' (readOn (start (.new notebook)) lines)
    one.1.1 = other.1.1 ∧ ∃ cut, one.2 = some cut ∧
      Supplies.Prompts ⟨notebook.ids, notebook.nextId, notebook.nextId, sound.unused, sound.unused⟩
        [] cut cut' := by
  have beside : Supplies.Beside _ [] (.new notebook) (.new notebook) :=
    ⟨Supplies.alike_self sound, sound, rfl, App.atRest_new _, App.atRest_new _⟩
  have stepped := ((Supplies.Prompts.start beside).readOn rfl harmless).follow serve errands services
    files files'
  dsimp only at stepped ⊢
  rw [reads'] at stepped
  rcases stepped with ⟨same, read⟩
  refine ⟨same, ?_⟩
  generalize (follow serve errands services files
    (readOn (start (.new notebook)) lines)).2 = cut at read ⊢
  cases read with
  | some prompts => exact ⟨_, rfl, prompts⟩

/-- The second part of an input, read by a prompt that goes on and by one over the notebook that was
saved and loaded again, leads to applications that are side by side. -/
theorem resumed_beside {supplies : Supplies} (same : supplies.first = supplies.second)
    {cut cut' : State} (prompts : supplies.Prompts [] cut cut') (closed : cut'.block = [])
    (target : cut'.target = .newCell) {firstId : Nat}
    (unused : ∀ n, firstId ≤ n → freshId n ∉ cut'.app.notebook.ids) {input : List UInt8}
    (harmless : usesImport false (Text.byteLines input) = false) (savedAt shown : String)
    (serve : Service σ) (errands : Runner φ) (services : σ) (files files' : φ) :
    let one := follow serve errands services files (run shown cut (Text.byteLines input))
    let other := converse serve errands services files'
      (.load firstId (some (cut'.app.notebook.save savedAt))) input
    one.1.1 = other.1.1 ∧ one.2.failed = other.2.failed ∧
      ∃ resumes : Supplies, resumes.old = cut'.app.notebook.ids ∧
        resumes.Beside cut'.app.calls one.2.app other.2.app := by
  have alike := prompts.apps.notebooks.loaded same prompts.apps.sound unused savedAt
  generalize Notebook.load firstId (some (cut'.app.notebook.save savedAt)) = loaded at alike ⊢
  have calls : cut.app.calls = cut'.app.calls ++ [] := by
    rw [prompts.apps.calls, List.nil_append, List.append_nil]
  have block : cut.block.isEmpty = !false := by
    rw [prompts.blocks, closed]
    rfl
  have resumes : Supplies.Beside _ cut'.app.calls cut.app (.new loaded) :=
    ⟨alike, prompts.apps.sound, calls, prompts.apps.left_rests, App.atRest_new _⟩
  rcases ((resumed prompts closed target resumes).run block harmless shown "").follow serve errands
    services files files' with ⟨services_same, beside, failed⟩
  exact ⟨services_same, failed, _, prompts.apps.notebooks.ids_eq same, beside⟩

theorem unbroken_of_beside {whole first second : (σ × φ) × Transcript} {supplies : Supplies}
    (beside : supplies.Beside first.2.app.calls whole.2.app second.2.app)
    (old : supplies.old = first.2.app.notebook.ids) (services : whole.1.1 = second.1.1)
    (failed : whole.2.failed = second.2.failed) : Unbroken whole first second where
  cells := by
    have alike := beside.notebooks
    rcases supplies.exists_rename with ⟨rename, renames⟩
    refine ⟨rename, ?_, ?_, Supplies.renames_of_twins renames alike.cells⟩
    · intro id used other used' same
      rcases alike.exists_twin used with ⟨id', twins⟩
      rcases alike.exists_twin used' with ⟨other', twins'⟩
      rw [renames _ _ twins, renames _ _ twins'] at same
      exact (twins.eq_iff twins').2 same
    · intro id used
      exact renames _ _ (.old (old ▸ used))
  executionCount := beside.notebooks.executionCount
  calls := beside.calls
  services := services
  failed := failed

/-- To save the session behind the first part of an input, and to load it for the second part, makes
no difference to the cells, the count and the calls. -/
theorem restart_invisible {notebook : Notebook} (sound : notebook.Sound) {first second : List UInt8}
    (ends : first.getLast? = some 10) {services : σ} {files files' files'' : φ}
    (rests : Rests serve errands services files' notebook first)
    (harmless : usesImport false (Text.byteLines first) = false)
    (harmless' : usesImport false (Text.byteLines second) = false) {firstId : Nat}
    (unused : ∀ n, firstId ≤ n → freshId n ∉
      (converse serve errands services files' notebook first).2.app.notebook.ids)
    (savedAt : String) :
    let whole := converse serve errands services files notebook (first ++ second)
    let before := converse serve errands services files' notebook first
    let loaded := Notebook.load firstId (some (before.2.app.notebook.save savedAt))
    let after := converse serve errands before.1.1 files'' loaded second
    Unbroken whole before after := by
  intro whole before loaded after
  rcases rests with ⟨cut', reads', closed, target⟩
  rcases converse_of_reads closed reads' with ⟨app, world⟩
  rcases exists_cut sound harmless files reads' with ⟨same, cut, reads, prompts⟩
  rcases follow_run_append reads (Text.byteLines second) "" with ⟨shown, continues⟩
  rw [← Text.byteLines_append ends, same, ← world] at continues
  rw [app] at unused
  rcases resumed_beside rfl prompts closed target unused harmless' savedAt shown serve errands
    before.1.1 _ files'' with ⟨services_same, failed, resumes, old, beside⟩
  rw [← continues] at services_same failed beside
  rw [← app] at services_same failed beside old
  exact unbroken_of_beside beside old services_same failed

/-- Services that execute everything with success and explain everything in one way. -/
def obligingServices : Service Nat := fun count call =>
  (count + 1,
    match call with
    | .execute _ => some ⟨.success "ok", none⟩
    | .ask _ => some (.ok "because")
    | _ => none)

/-- Files that are all empty. -/
def emptyFiles : Runner Unit := fun _ errand =>
  ((),
    match errand with
    | .fileText _ => .ok ""
    | .fileExists _ => true
    | .replaceFile _ _ => .ok ()
    | .saveFile _ _ => .ok ()
    | .now => ""
    | .today => "")

/-- A notebook of one blank cell. -/
def blankCell : Notebook where
  cells := [.new "x" .code ""]
  executionCount := 0
  nextId := 0

theorem blankCell_sound : blankCell.Sound where
  reachable := .ofCells [.new "x" .code ""] 0 0
  unused := (Notebook.identified_of_short (by decide) (by decide)).fresh

/-- The bytes of a text in which every character is one byte. -/
def bytes (text : String) : List UInt8 :=
  text.toList.map fun c => .ofNat c.toNat

/-- A failure is explained before the restart, and its cell is edited and run again beside a new one
afterwards. -/
theorem restart_invisible_explained_failure :
    blankCell.Sound ∧ ∃ first second before,
      first = bytes "@bogus\n\n:explain 1\n" ∧
      second = bytes ":edit 1\nNOP\n\n:add\nHLT\n\n:runall\n" ∧
      before = converse obligingServices emptyFiles 0 () blankCell first ∧
      first.getLast? = some 10 ∧ Rests obligingServices emptyFiles 0 () blankCell first ∧
      usesImport false (Text.byteLines first) = false ∧
      usesImport false (Text.byteLines second) = false ∧
      (∀ n, 7 ≤ n → freshId n ∉ before.2.app.notebook.ids) ∧
      before.2.app.notebook.cells.map (fun cell =>
        (cell.output.bind Output.failure?).bind Failure.explanation) = [some "because"] ∧
      Unbroken (converse obligingServices emptyFiles 0 () blankCell (first ++ second)) before
        (converse obligingServices emptyFiles before.1.1 ()
          (.load 7 (some (before.2.app.notebook.save ""))) second) := by
  have ids : (converse obligingServices emptyFiles 0 () blankCell
      (bytes "@bogus\n\n:explain 1\n")).2.app.notebook.ids = ["x"] := rfl
  have unused : ∀ n, 7 ≤ n → freshId n ∉ (converse obligingServices emptyFiles 0 () blankCell
      (bytes "@bogus\n\n:explain 1\n")).2.app.notebook.ids := by
    intro n _
    rw [ids]
    exact blankCell_sound.unused n (Nat.zero_le n)
  have rests : Rests obligingServices emptyFiles 0 () blankCell (bytes "@bogus\n\n:explain 1\n") :=
    ⟨_, rfl, rfl, rfl⟩
  exact ⟨blankCell_sound, _, _, _, rfl, rfl, rfl, rfl, rests, rfl, rfl, unused, rfl,
    restart_invisible blankCell_sound rfl rests rfl rfl unused ""⟩

end Prompt
end AsmNotebook
