import CityCards.Condition.Basic
import CityCards.Effect.Kind

/-!
# Effect trees

What a card does is a tree. Its leaves are basic effects; the inner nodes ask conditions, let a
player choose, repeat, or put effects in sequence. Every node may be marked to have the card
discarded, or removed from the game.

Results:
* `Effect.walk_eq`: a node is visited before its children, and these in order.
-/

namespace CityCards

/-- Model of `LifecycleFlags`. Whether a node asks for the card to be discarded and whether it asks
for it to be removed. -/
structure Marks where
  discard : Bool
  remove : Bool
  deriving DecidableEq, Repr

/-- No marks. -/
def Marks.none : Marks := ⟨false, false⟩

/-- Model of `BasicEffect`. A leaf of an effect tree. -/
structure Basic where
  kind : EffectKind
  /-- The card that the effect is about, if it names one. -/
  cardId : Option String
  description : String
  marks : Marks
  deriving DecidableEq, Repr

/-- Model of `Effect`: an effect tree. -/
inductive Effect where
  | basic (b : Basic)
  | conditional (condition : Condition) (ifTrue : Effect) (ifFalse : Option Effect) (marks : Marks)
  /-- The effect of the first branch whose condition holds. -/
  | multi (branches : List (Condition × Effect)) (default : Option Effect) (marks : Marks)
  /-- Some of the options, as the player chooses. -/
  | choice (description : String) (least most : UInt32) (options : List Effect) (marks : Marks)
  /-- The body, as often as the target counts. -/
  | forEach (target : String) (body : Effect) (description : String) (marks : Marks)
  | composite (members : List Effect) (description : Option String) (marks : Marks)

/-- Model of `ChoiceEffect`. What a player is asked: to choose between `least` and `most` of the
options. -/
structure Choice where
  description : String
  least : UInt32
  most : UInt32
  options : List Effect
  marks : Marks

/-- Model of `EffectVariant`: the shapes of nodes. -/
inductive Shape where
  | basic
  | conditional
  | multi
  | choice
  | forEach
  | composite
  deriving DecidableEq, Repr

/-- Model of `name`. The name of a shape. -/
def Shape.name : Shape → String
  | .basic => "basic"
  | .conditional => "conditional"
  | .multi => "multi_conditional"
  | .choice => "choice"
  | .forEach => "for_each"
  | .composite => "composite"

namespace Effect

/-- Model of `variant`. The shape of the root. -/
def shape : Effect → Shape
  | .basic _ => .basic
  | .conditional .. => .conditional
  | .multi .. => .multi
  | .choice .. => .choice
  | .forEach .. => .forEach
  | .composite .. => .composite

/-- Model of `of_node`. The marks of the root. -/
def marks : Effect → Marks
  | .basic b => b.marks
  | .conditional _ _ _ m => m
  | .multi _ _ m => m
  | .choice _ _ _ _ m => m
  | .forEach _ _ _ m => m
  | .composite _ _ m => m

/-- The tree with other marks at its root. -/
def withMarks (m : Marks) : Effect → Effect
  | .basic b => .basic { b with marks := m }
  | .conditional c t f _ => .conditional c t f m
  | .multi bs d _ => .multi bs d m
  | .choice d lo hi os _ => .choice d lo hi os m
  | .forEach t b d _ => .forEach t b d m
  | .composite es d _ => .composite es d m

/-- Model of `children`. The children of the root, in the order in which they are resolved. -/
def children : Effect → List Effect
  | .basic _ => []
  | .conditional _ t f _ => t :: f.toList
  | .multi bs d _ => bs.map Prod.snd ++ d.toList
  | .choice _ _ _ os _ => os
  | .forEach _ b _ _ => [b]
  | .composite es _ _ => es

/-! ## Walking through a tree -/

mutual

/-- Model of `walk`. All nodes of a tree, each as the tree below it, parents before children. -/
def walk : Effect → List Effect
  | .basic b => [.basic b]
  | .conditional c t f m => .conditional c t f m :: (walk t ++ walkOption f)
  | .multi bs d m => .multi bs d m :: (walkBranches bs ++ walkOption d)
  | .choice d lo hi os m => .choice d lo hi os m :: walkList os
  | .forEach t b d m => .forEach t b d m :: walk b
  | .composite es d m => .composite es d m :: walkList es
termination_by structural e => e

/-- The nodes of a tree that may be missing. -/
def walkOption : Option Effect → List Effect
  | none => []
  | some e => walk e
termination_by structural o => o

/-- The nodes of several trees. -/
def walkList : List Effect → List Effect
  | [] => []
  | e :: rest => walk e ++ walkList rest
termination_by structural es => es

/-- The nodes of the trees in branches. -/
def walkBranches : List (Condition × Effect) → List Effect
  | [] => []
  | (_, e) :: rest => walk e ++ walkBranches rest
termination_by structural bs => bs

end

/-- Model of `added_card_ids`. The cards that the tree may add to the deck, on whatever way it is
resolved. -/
def addedCardIds (e : Effect) : List String :=
  e.walk.filterMap fun
    | .basic b => if b.kind = .addCardToDeck then b.cardId else none
    | _ => none

theorem walkOption_eq (o : Option Effect) : walkOption o = o.toList.flatMap walk := by
  cases o <;> simp [walkOption]

theorem walkList_eq (es : List Effect) : walkList es = es.flatMap walk := by
  induction es with
  | nil => simp [walkList]
  | cons e rest ih => simp [walkList, ih]

theorem walkBranches_eq (bs : List (Condition × Effect)) :
    walkBranches bs = (bs.map Prod.snd).flatMap walk := by
  induction bs with
  | nil => simp [walkBranches]
  | cons b rest ih => simp [walkBranches, ih]

theorem walk_eq (e : Effect) : e.walk = e :: e.children.flatMap walk := by
  cases e <;> simp [walk, children, walkOption_eq, walkList_eq, walkBranches_eq]

/-! ## Building trees -/

/-- Model of `basic`: a basic effect without a card. -/
def plain (kind : EffectKind) (description : String) : Effect :=
  .basic ⟨kind, none, description, .none⟩

/-- A basic effect about a card, as `with_card_id` makes it. -/
def withCard (kind : EffectKind) (description cardId : String) : Effect :=
  .basic ⟨kind, some cardId, description, .none⟩

/-- Model of `add_card`. The effect that adds a card to the deck. -/
def addCard (cardId description : String) : Effect := withCard .addCardToDeck description cardId

/-- Model of `one_of`. A choice of exactly one option. -/
def oneOf (description : String) (options : List Effect) : Effect :=
  .choice description 1 1 options .none

/-- Model of `composite`: effects in sequence. -/
def sequence (members : List Effect) : Effect := .composite members none .none

/-- Model of `discarding`. The tree, with the mark that asks for the card to be discarded at its
root. -/
def discarding (e : Effect) : Effect := e.withMarks { e.marks with discard := true }

/-- Model of `removing`. The tree, with the mark that asks for the card to be removed at its
root. -/
def removing (e : Effect) : Effect := e.withMarks { e.marks with remove := true }

end Effect

/-- The node that asks the question. -/
def Choice.toEffect (c : Choice) : Effect := .choice c.description c.least c.most c.options c.marks

end CityCards
