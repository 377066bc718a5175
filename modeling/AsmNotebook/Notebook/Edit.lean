import AsmNotebook.Notebook.Basic

namespace AsmNotebook

/-!
Edits: the changes of a notebook that its users make, as values.
-/

inductive Edit
  | add (kind : CellKind) (after : Option Nat)
  | setContent (id content : String)
  | delete (id : String)
  | update (id : String) (change : CellUpdate)
  | clearOutputs
  | clear
  | importCells (entries : Json)
  | importText (text : String)
  | attach (id explanation : String)

namespace Edit

/-- What an edit returns. -/
abbrev Result : Edit → Type
  | add _ _ => String
  | setContent _ _ => Bool
  | delete _ => Bool
  | update _ _ => Bool
  | clearOutputs => Unit
  | clear => Unit
  | importCells _ => Except ImportFault Nat
  | importText _ => Except ImportFault Nat
  | attach _ _ => Bool

end Edit

/-- The notebook after an edit, and what the edit returns. -/
def Notebook.edit (notebook : Notebook) : (edit : Edit) → Notebook × edit.Result
  | .add kind after => notebook.add kind after
  | .setContent id content => notebook.setContent id content
  | .delete id => notebook.delete id
  | .update id change => notebook.update id change
  | .clearOutputs => (notebook.clearOutputs, ())
  | .clear => (notebook.clear, ())
  | .importCells entries => notebook.importCells entries
  | .importText text => notebook.importText text
  | .attach id explanation => notebook.attach id explanation

end AsmNotebook
