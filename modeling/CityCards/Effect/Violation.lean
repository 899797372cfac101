import CityCards.Effect.Place
import CityCards.Effect.Tally
import CityCards.Text.Blank
import CityCards.Text.Quoted

/-!
# Checking effect trees

What can be wrong with a node: faults of its shape, and references that have no meaning. The first
concern the node alone; the second are what would be diagnosed when the tree is resolved, so a tree
is sound only if it has neither.

Main definitions:
* `Effect.shapeFlaws`: the faults in the shape of the root.
* `Effect.flaws`: all faults of the root.
* `Effect.violations`: all faults of all nodes, each with its place.
-/

namespace CityCards

/-- What is wrong with a node. -/
inductive Flaw where
  | noDescription
  | noBranches
  | noOptions
  | crossedBounds (least most : UInt32)
  | noTarget
  | noMembers
  | noCardId (kind : EffectKind)
  | unknownTarget (target : String)
  /-- The operands of a condition do not suit its type. -/
  | unfitOperands (type : ConditionType)
  deriving DecidableEq, Repr

/-- The part of a node that is at fault. -/
inductive Spot where
  | node
  | condition
  | branchCondition (i : Nat)
  deriving DecidableEq, Repr

/-- Model of `ValidationError`. A fault, the place of the node that has it, and the part of the node
that is at fault. -/
structure Violation where
  place : Place
  spot : Spot
  flaw : Flaw
  deriving DecidableEq, Repr

/-- The path from the JSON of a node to that of the part. -/
def Spot.path : Spot → Json.Path
  | .node => []
  | .condition => [.member "condition"]
  | .branchCondition i => [.member "branches", .item i, .member "condition"]

/-- What the operands of a condition of that type have to be. -/
def ConditionType.operandText : ConditionType → String
  | .hasHope | .hasDiscontent | .hasBuilding | .hasLaw => "a text value"
  | .hungerLevel | .stressLevel => "a numeric value"
  | .resourceAmount | .citizensType => "a numeric value and compareWith"
  | .compareHopeDiscontent | .custom => "no operands"

/-- The wording of a fault. -/
def Flaw.message : Flaw → String
  | .noDescription => "basic effect has no description"
  | .noBranches => "multi-conditional effect has no branches"
  | .noOptions => "choice effect has no options"
  | .crossedBounds least most =>
    "minChoices (" ++ toString least.toNat ++ ") is greater than maxChoices (" ++
      toString most.toNat ++ ")"
  | .noTarget => "for-each effect has no target"
  | .noMembers => "composite effect has no sub-effects"
  | .noCardId kind => kind.title ++ " effect has no card id"
  | .unknownTarget target => "unknown for-each target " ++ Text.quoted target
  | .unfitOperands type => type.name ++ " condition needs " ++ type.operandText

namespace Violation

/-- The path to the part at fault from the JSON of the whole tree. -/
def path (v : Violation) : Json.Path := v.place.path ++ v.spot.path

/-- The wording of a fault, after its path if it is not that of the root. -/
def text (v : Violation) : String :=
  if v.path = [] then v.flaw.message else v.path.text ++ ": " ++ v.flaw.message

/-- Model of `nested`. The same fault seen from the parent of the tree. -/
def under (s : Segment) (v : Violation) : Violation := { v with place := s :: v.place }

end Violation

/-- Model of `condition_errors`, which has an error exactly if this is false: the operands of the
condition suit its type. -/
def Condition.hasFitOperands (c : Condition) : Bool :=
  match c.type with
  | .hasHope | .hasDiscontent | .hasBuilding | .hasLaw => c.text?.isSome
  | .hungerLevel | .stressLevel => c.number?.isSome
  | .resourceAmount | .citizensType => c.number?.isSome && c.compareWith.isSome
  | .compareHopeDiscontent | .custom => true

namespace Effect

/-- The fault, if it is one. -/
def flawIf (b : Bool) (s : Spot) (f : Flaw) : List (Spot × Flaw) := if b then [(s, f)] else []

/-- Model of `node_errors`. The faults in the shape of the root. -/
def shapeFlaws : Effect → List (Spot × Flaw)
  | .basic b => flawIf (Text.isBlankText b.description) .node .noDescription
  | .conditional .. => []
  | .multi bs _ _ => flawIf bs.isEmpty .node .noBranches
  | .choice _ lo hi os _ =>
    flawIf os.isEmpty .node .noOptions ++ flawIf (hi < lo) .node (.crossedBounds lo hi)
  | .forEach t _ _ _ => flawIf (Text.isBlankText t) .node .noTarget
  | .composite es _ _ => flawIf es.isEmpty .node .noMembers

/-- Model of `reference_errors`. The references of the root that have no meaning. -/
def referenceFlaws : Effect → List (Spot × Flaw)
  | .basic b => flawIf (b.kind.needsCardId && b.cardId.isNone) .node (.noCardId b.kind)
  | .conditional c _ _ _ => flawIf (!c.hasFitOperands) .condition (.unfitOperands c.type)
  | .multi bs _ _ => (bs.mapIdx fun i b =>
      flawIf (!b.1.hasFitOperands) (.branchCondition i) (.unfitOperands b.1.type)).flatten
  | .forEach t _ _ _ =>
    flawIf (!Text.isBlankText t && (Tally.parse? t).isNone) .node (.unknownTarget t)
  | .choice .. | .composite .. => []

/-- All faults of the root. -/
def flaws (e : Effect) : List (Spot × Flaw) := e.shapeFlaws ++ e.referenceFlaws

/-- Faults of the root, at its place. -/
def rootViolations (fs : List (Spot × Flaw)) : List Violation := fs.map fun f => ⟨[], f.1, f.2⟩

mutual

/-- Model of `collect_deep`. All faults of all nodes: those of the root, and then those of its
children in order. -/
def violations : Effect → List Violation
  | .basic b => rootViolations (basic b).flaws
  | .conditional c t f m =>
    rootViolations (conditional c t f m).flaws ++
      ((violations t).map (Violation.under .ifTrue) ++ optionViolations .ifFalse f)
  | .multi bs d m =>
    rootViolations (multi bs d m).flaws ++ (branchViolations 0 bs ++ optionViolations .default d)
  | .choice d lo hi os m =>
    rootViolations (choice d lo hi os m).flaws ++ listViolations .option 0 os
  | .forEach t b d m =>
    rootViolations (forEach t b d m).flaws ++ (violations b).map (Violation.under .body)
  | .composite es d m =>
    rootViolations (composite es d m).flaws ++ listViolations .member 0 es
termination_by structural e => e

/-- The faults of a child that may be missing. -/
def optionViolations (s : Segment) : Option Effect → List Violation
  | none => []
  | some e => (violations e).map (Violation.under s)
termination_by structural o => o

/-- The faults of children that are numbered from `i` on. -/
def listViolations (label : Nat → Segment) (i : Nat) : List Effect → List Violation
  | [] => []
  | e :: rest => (violations e).map (Violation.under (label i)) ++ listViolations label (i + 1) rest
termination_by structural es => es

/-- The faults of the effects of branches that are numbered from `i` on. -/
def branchViolations (i : Nat) : List (Condition × Effect) → List Violation
  | [] => []
  | (_, e) :: rest =>
    (violations e).map (Violation.under (.branch i)) ++ branchViolations (i + 1) rest
termination_by structural bs => bs

end

/-- Model of `validate`: the faults in the shape of the root. Its children are not looked at. -/
def shallowViolations (e : Effect) : List Violation := rootViolations e.shapeFlaws

/-- Model of `validate_deep`, as far as it says whether the tree is valid: it has no faults. -/
def isSound (e : Effect) : Bool := e.violations.isEmpty

end Effect

end CityCards
