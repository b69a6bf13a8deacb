import Registrar.Pattern.Moves
import Registrar.Pattern.Reader

/-!
Patterns for whole texts: the pattern's own text, put into a group between the anchors for the start
and the end, is read as one pattern, which then has to occur in the text.
-/

namespace Registrar

structure WholePattern where
  source : String
  tree : Pattern.Tree
deriving DecidableEq, Repr

namespace WholePattern

def anchored (source : String) : String := "^(?:" ++ source ++ ")$"

def compile? (source : String) : Option WholePattern :=
  (Pattern.read? (anchored source).toList).map fun tree => ⟨source, tree⟩

def matches? (p : WholePattern) (text : String) : Bool := p.tree.occursIn text.toList

def text (p : WholePattern) : String := anchored p.source

end WholePattern
end Registrar
