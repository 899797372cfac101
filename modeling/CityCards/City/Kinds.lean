import CityCards.City.Vocabulary

/-!
# What a city counts

The kinds of hope and discontent tokens, the resources that are stocked, and the roles that
citizens have, healthy and sick, with the names that cards use for them.
-/

namespace CityCards

/-- Model of `HopeKind`: the kinds of hope tokens. -/
inductive HopeKind where
  | justice
  | care
  | motivation
  deriving DecidableEq, Repr

/-- Model of `DiscontentKind`: the kinds of discontent tokens. -/
inductive DiscontentKind where
  | greed
  | anger
  | apathy
  deriving DecidableEq, Repr

/-- Model of `ResourceKind`: the resources that are stocked. -/
inductive ResourceKind where
  | coal
  | wood
  | food
  deriving DecidableEq, Repr

/-- Model of `CitizenKind`: the roles of citizens. -/
inductive CitizenKind where
  | workers
  | engineers
  | children
  | sickWorkers
  | sickEngineers
  | sickChildren
  deriving DecidableEq, Repr

/-- The name of a kind of hope, which `as_str` gives. -/
def HopeKind.name : HopeKind → String
  | .justice => "justicia"
  | .care => "cuidado"
  | .motivation => "motivacion"

/-- The name of a kind of discontent, which `as_str` gives. -/
def DiscontentKind.name : DiscontentKind → String
  | .greed => "codicia"
  | .anger => "ira"
  | .apathy => "apatia"

/-- The name of a resource, which `as_str` gives. -/
def ResourceKind.name : ResourceKind → String
  | .coal => "carbon"
  | .wood => "madera"
  | .food => "comida"

/-- The name of a role, which `as_str` gives. -/
def CitizenKind.name : CitizenKind → String
  | .workers => "trabajadores"
  | .engineers => "ingenieros"
  | .children => "ninos"
  | .sickWorkers => "trabajadoresEnfermos"
  | .sickEngineers => "ingenierosEnfermos"
  | .sickChildren => "ninosEnfermos"

instance : Vocabulary HopeKind where
  all := [.justice, .care, .motivation]
  name := HopeKind.name
  mem_all k := by cases k <;> decide
  names_nodup := by decide

instance : Vocabulary DiscontentKind where
  all := [.greed, .anger, .apathy]
  name := DiscontentKind.name
  mem_all k := by cases k <;> decide
  names_nodup := by decide

instance : Vocabulary ResourceKind where
  all := [.coal, .wood, .food]
  name := ResourceKind.name
  mem_all k := by cases k <;> decide
  names_nodup := by decide

instance : Vocabulary CitizenKind where
  all := [.workers, .engineers, .children, .sickWorkers, .sickEngineers, .sickChildren]
  name := CitizenKind.name
  mem_all k := by cases k <;> decide
  names_nodup := by decide

end CityCards
