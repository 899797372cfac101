import CityCards.Effect.Tree
import CityCards.Text.Blank

/-!
# The text of effects

The text that a player reads. It follows the order in which nodes are resolved, with two spaces of
indentation for each level of branches:

    Si tienes Justicia activa:
      Gana 1 comida
    En caso contrario:
      Pierde 1 comida
    Luego: Elige uno:
    A) Gana 1 carbón
    B) Gana 1 madera

Main definitions:
* `Effect.renderChars`: the characters of the text.
* `Effect.render`: the text.
-/

namespace CityCards

/-- The indentation of a level. -/
def indentation (n : Nat) : List Char := List.replicate (2 * n) ' '

/-- Model of `option_letter`. The letter of an option: `A`, `B`, `C` and so on, past `Z` with the
characters that follow. -/
def optionLetter (i : Nat) : Char :=
  if (65 + i).isValidChar then Char.ofNat (65 + i) else '?'

namespace Effect

/-- A header, alone on its line. -/
def header (n : Nat) (s : List Char) : List Char := indentation n ++ s ++ [':', '\n']

/-- The lines of the options, each after its letter. -/
def optionLines (n : Nat) (texts : List (List Char)) : List Char :=
  (texts.mapIdx fun i t =>
    indentation n ++ [optionLetter i, ')', ' '] ++ Text.trim t ++ ['\n']).flatten

mutual

/-- Model of `render`. The characters of the text of a tree, at a level of indentation. -/
def renderChars : Effect → Nat → List Char
  | .basic b, n => indentation n ++ b.description.toList
  | .conditional c t f _, n =>
    header n c.description.toList ++ renderChars t (n + 1) ++
      renderElse "En caso contrario".toList f n
  | .multi bs d _, n =>
    ['\n'].intercalate (renderBranches [] bs n) ++ renderElse "De lo contrario".toList d n
  | .choice d _ _ os _, n =>
    Text.trimEnd (indentation n ++ d.toList ++ ['\n'] ++ optionLines n (renderList os 0))
  | .forEach _ b d _, n =>
    indentation n ++ d.toList ++ [':', ' '] ++ Text.trim (renderChars b 0)
  | .composite es _ _, n =>
    (['\n'] ++ indentation n ++ "Luego: ".toList).intercalate (renderList es n)
termination_by structural e => e

/-- What is done where no condition holds, below its header. -/
def renderElse (title : List Char) : Option Effect → Nat → List Char
  | none, _ => []
  | some e, n => ['\n'] ++ header n title ++ renderChars e (n + 1)
termination_by structural o => o

/-- The texts of several trees. -/
def renderList : List Effect → Nat → List (List Char)
  | [], _ => []
  | e :: rest, n => renderChars e n :: renderList rest n
termination_by structural es => es

/-- The texts of branches, each below its condition. The first condition stands after `lead`. -/
def renderBranches (lead : List Char) : List (Condition × Effect) → Nat → List (List Char)
  | [], _ => []
  | (c, e) :: rest, n =>
    (header n (lead ++ c.description.toList) ++ renderChars e (n + 1)) ::
      renderBranches "De lo contrario, ".toList rest n
termination_by structural bs => bs

end

/-- The text of a tree, at a level of indentation. -/
def render (e : Effect) (indent : Nat) : String := String.ofList (e.renderChars indent)

end Effect

end CityCards
