import SyntaxTree.Viewer.State

/-!
# Keys of the viewer

Each key that the viewer knows stands for one command; other keys do nothing.
-/

namespace SyntaxTree

/-- A pressed key. -/
inductive Key where
  | character (value : Char)
  | up
  | down
  | left
  | right
  | home
  | ending
  | pageUp
  | pageDown
  | enter
  | escape
  | tab
  | backspace
  | function (number : Nat)
deriving DecidableEq, Repr

/-- What a key asks the viewer to do. -/
inductive Command where
  | quit
  | selectPrevious
  | selectNext
  | selectFirst
  | selectLast
  | collapse
  | expand
  | toggleFold
  | toggleEpsilon
  | expandAll
deriving DecidableEq, Repr

namespace Key

/-- Command of a key. -/
def command? : Key → Option Command
  | .character 'q' | .character 'Q' | .escape => some .quit
  | .up | .character 'k' => some .selectPrevious
  | .down | .character 'j' => some .selectNext
  | .home => some .selectFirst
  | .ending => some .selectLast
  | .left | .character 'h' => some .collapse
  | .right | .character 'l' => some .expand
  | .character ' ' | .enter => some .toggleFold
  | .character 'e' => some .toggleEpsilon
  | .character 'z' => some .expandAll
  | _ => none

end Key

namespace Viewer

/-- Carries out a command. -/
def perform (viewer : Viewer) : Command → Viewer
  | .quit => { viewer with hasQuit := true }
  | .selectPrevious => viewer.selectPrevious
  | .selectNext => viewer.selectNext
  | .selectFirst => viewer.selectFirst
  | .selectLast => viewer.selectLast
  | .collapse => viewer.collapse
  | .expand => viewer.expand
  | .toggleFold => viewer.toggleFold
  | .toggleEpsilon => viewer.toggleEpsilon
  | .expandAll => viewer.expandAll

/-- Reacts to a pressed key. -/
def press (viewer : Viewer) (key : Key) : Viewer :=
  match key.command? with
  | some command => viewer.perform command
  | none => viewer

end Viewer
end SyntaxTree
