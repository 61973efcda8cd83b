import Tombola.Command.Selection
import Tombola.Groups.Name
/-!
# Carrying out a command

Listing, showing, saving and deleting groups, and the choice between these, the help and a
selection.  A command is given the name under which it is called, for use in messages, and a
shuffle.
-/

namespace Tombola.Command

open Groups

def listGroups (name : String) : Drawing Reply :=
  attempt .listing .list fun names =>
    .done (.ok (
      if names = [] then
        ⟨.listed, "You don't have any saved groups yet. Try `" ++ name
          ++ " /save` to make one!", []⟩
      else ⟨.listed, "Your saved groups are:\n" ++ bullets names, names⟩))

def showGroup (group : String) : Drawing Reply :=
  attempt (.getting group) (.get group) fun options =>
    .done (
      if options = [] then .error (.usage (.notFound group))
      else .ok ⟨.showed, "The *" ++ group ++ "* group has these options:\n" ++ bullets options,
        options⟩)

/-- Saves the different ones of the options under a name. -/
def saveGroup (group : String) (words : List String) : Drawing Reply :=
  match checkName group with
  | .error u => .done (.error (.usage u))
  | .ok () =>
    let options := distinct words
    if options.length < 2 then .done (.error (.usage (.tooFewToSave group options.length)))
    else
      attempt (.saving group) (.put group options) fun _ =>
        .done (.ok ⟨.saved, "Done! The *" ++ group ++ "* group now has these options:\n"
          ++ bullets options, options⟩)

def deleteGroup (group : String) : Drawing Reply :=
  attempt (.deleting group) (.delete group) fun existed =>
    .done (.ok (
      if existed then ⟨.deleted, "Done! The *" ++ group ++ "* group is gone.", []⟩
      else ⟨.deleted, "The *" ++ group ++ "* group didn't exist, so there was nothing to delete.",
        []⟩))

def Request.perform (name : String) (shuffle : Shuffle) (r : Request) : Drawing Reply :=
  match r.operation with
  | .help => .done (.ok ⟨.help, helpText name, []⟩)
  | .select => select shuffle r.args
  | .list => listGroups name
  | .show => showGroup r.operand
  | .save => saveGroup r.operand r.args
  | .delete => deleteGroup r.operand

/-- Carries out the command that the words make. -/
def perform (name : String) (shuffle : Shuffle) (words : List String) : Drawing Reply :=
  match Request.ofWords words with
  | .error e => .done (.error e)
  | .ok r => r.perform name shuffle

theorem perform_of_ok {words : List String} {r : Request} (h : Request.ofWords words = .ok r)
    (name : String) (shuffle : Shuffle) :
    perform name shuffle words = r.perform name shuffle := by
  simp [perform, h]

end Tombola.Command
