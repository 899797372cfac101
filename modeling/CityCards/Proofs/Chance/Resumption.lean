import CityCards.Chance.Chooser
import CityCards.Chance.GeneratorJson
import CityCards.Proofs.Json.Printed

/-!
# Going on from a saved generator

A generator is saved as a text of three numbers. Read from this text it is the same generator: it
yields the same numbers and picks, forks off the same generators, and is saved as the same text
after every step. So in a sequence of steps a generator may be saved and read again at any place,
and nothing but that is to be seen of it.

Main definitions:
* `Generator.ofText`: the generator that goes on from a saved one.
* `Generator.Step`, `Generator.step`: what is done with a generator, and what it yields.
* `Generator.transcript`: all that steps in a row yield, and the generator as saved after each.

Results:
* `SavedGenerator.readAll_text`: the text of a saved generator is read as its JSON.
* `Generator.ofText_text`: a generator is read from its text.
* `Generator.step_resume`: saving a generator and reading it again is a step that changes nothing.
* `Generator.transcript_resumed`: what that means for steps in a row.
-/

namespace CityCards

/-! ## The text of a saved generator -/

namespace SavedGenerator

open Json Json.Outline

theorem toList_text (s : SavedGenerator) : s.text.toList =
    '\x7b' :: ((memberText "seed" s.seed.toNat).toList ++
      ',' :: ((memberText "position" s.position.toNat).toList ++
        ',' :: ((memberText "forks" s.forks.toNat).toList ++ ['\x7d']))) := by
  simp [text, toJson, Json.text, membersText, memberText]

/-- The tokens of a saved generator. -/
def tokens (s : SavedGenerator) : List Token :=
  .openBrace :: (Token.ofMember "seed" s.seed.toNat ++
    .comma :: (Token.ofMember "position" s.position.toNat ++
      .comma :: (Token.ofMember "forks" s.forks.toNat ++ [.closeBrace])))

theorem scan_text (s : SavedGenerator) : Token.scan s.text = s.tokens := by
  have hcomma (rest : List Char) : Token.EndsNumeral (',' :: rest) :=
    ⟨rfl, by decide, by decide, by decide⟩
  have hbrace : Token.EndsNumeral ['\x7d'] := ⟨rfl, by decide, by decide, by decide⟩
  rw [Token.scan, toList_text, tokens]
  change _ :: Token.scanFrom 0 _ = _
  rw [Token.scanFrom_member (by decide) _ (hcomma _)]
  change _ :: (_ ++ _ :: Token.scanFrom 0 _) = _
  rw [Token.scanFrom_member (by decide) _ (hcomma _)]
  change _ :: (_ ++ _ :: (_ ++ _ :: Token.scanFrom 0 _)) = _
  rw [Token.scanFrom_member (by decide) _ hbrace]
  rfl

theorem readAll_text (s : SavedGenerator) : outline.readAll s.text = .ok s.toJson := by
  have hseed := s.seed.toNat_lt
  have hposition := s.position.isLt
  have hforks := s.forks.toNat_lt
  have hread : read (4 * s.tokens.length + 4) nestingLimit outline s.tokens =
      .ok (s.toJson, []) := by
    show read 56 127 outline s.tokens = _
    refine read_record (readNamed_member (i := 0) rfl rfl (by decide)
      (read_integer hseed (by omega) 53 126 _) ?_)
    refine readNamed_member (i := 1) rfl rfl (by decide) (read_wide (by omega) 52 126 _) ?_
    refine readNamed_member (i := 2) rfl rfl (by decide)
      (read_integer hforks (by omega) 51 126 _) ?_
    exact readNamed_closeBrace (by decide) 51 126 false []
  simp only [readAll, scan_text, hread]

end SavedGenerator

/-! ## Generators read from their text -/

namespace Generator

/-- The generator that goes on where the one saved as this text was. -/
def ofText (s : String) : Except Json.Fault Generator :=
  match SavedGenerator.outline.readAll s with
  | .error f => .error f
  | .ok j =>
    match SavedGenerator.ofJson j with
    | .error _ => .error .mistyped
    | .ok saved => .ok (ofSaved saved)

theorem ofText_text (g : Generator) : ofText g.saved.text = .ok g := by
  rw [ofText, SavedGenerator.readAll_text]
  dsimp only
  rw [SavedGenerator.ofJson_toJson]
  exact congrArg Except.ok (ofSaved_saved g)

/-- A generator is saved as three numbers with their names. -/
theorem text_saved (g : Generator) : g.saved.text =
    "\x7b\"seed\":" ++ toString g.seed.toNat ++ ",\"position\":" ++ toString g.position.toNat ++
      ",\"forks\":" ++ toString g.forks.toNat ++ "\x7d" := by
  have hposition : g.saved.position.toNat = g.position.toNat :=
    BitVec.toNat_setWidth_of_le (by decide)
  have hnames : Json.stringText "seed" = "\"seed\"" ∧
      Json.stringText "position" = "\"position\"" ∧ Json.stringText "forks" = "\"forks\"" := by
    decide
  obtain ⟨hseed, hpos, hforks⟩ := hnames
  rw [SavedGenerator.text, SavedGenerator.toJson, Json.text, Json.membersText, Json.membersText,
    Json.membersText, hseed, hpos, hforks, Json.text_int, Json.text_int, Json.text_int, hposition]
  simp only [String.append_assoc, String.append_empty]
  rfl

/-! ## Steps -/

/-- What is done with a generator. -/
inductive Step where
  | count (low high : Nat)
  | indices (len amount : Nat)
  | choose (c : Choice)
  | fork
  /-- The generator is saved as a text, and the one read from this text goes on in its place. -/
  | resume

/-- The generator is read from a text. -/
def Step.isResume : Step → Bool
  | .resume => true
  | _ => false

/-- What a step yields. -/
inductive Yield where
  | number (n : Nat)
  | picks (is : List Nat)
  | child (g : Generator)
  | resumed

/-- The generator has been read from a text. -/
def Yield.isResumed : Yield → Bool
  | .resumed => true
  | _ => false

/-- What the step yields, and the generator after it; nothing if a draw does not end. -/
def step : Step → Generator → Option (Yield × Generator)
  | .count low high, g => (g.draw (countBetween low high)).map fun r => (.number r.1, r.2)
  | .indices len amount, g => (g.draw (pickDistinct len amount)).map fun r => (.picks r.1, r.2)
  | .choose c, g => (g.draw c.choose).map fun r => (.picks r.1, r.2)
  | .fork, g => some (.child g.fork.1, g.fork.2)
  | .resume, g =>
    match ofText g.saved.text with
    | .ok resumed => some (.resumed, resumed)
    | .error _ => none

/-- What the steps yield one after the other, and the generator as it is saved after each. -/
def transcript : List Step → Generator → List (Yield × SavedGenerator)
  | [], _ => []
  | s :: rest, g =>
    match g.step s with
    | some (y, next) => (y, next.saved) :: transcript rest next
    | none => []

/-- To save a generator and read it again changes nothing. -/
theorem step_resume (g : Generator) : g.step .resume = some (.resumed, g) := by
  rw [step, ofText_text]

theorem isResumed_of_step {s : Step} {y : Yield} {g next : Generator}
    (h : g.step s = some (y, next)) : y.isResumed = s.isResume := by
  cases s with
  | fork =>
    cases h
    rfl
  | resume =>
    rw [step_resume] at h
    cases h
    rfl
  | _ =>
    obtain ⟨_, -, heq⟩ := Option.map_eq_some_iff.mp h
    cases heq
    rfl

/-! ## Steps in a row -/

/-- The steps apart from those that only read the generator again. -/
def proper (steps : List Step) : List Step := steps.filter fun s => !s.isResume

theorem transcript_proper (steps : List Step) (g : Generator) :
    g.transcript (proper steps) = (g.transcript steps).filter fun x => !x.1.isResumed := by
  induction steps generalizing g with
  | nil => rfl
  | cons s rest ih =>
    cases hs : s.isResume with
    | true =>
      obtain rfl : s = .resume := by cases s <;> first | rfl | cases hs
      rw [transcript, step_resume]
      exact ih g
    | false =>
      have hproper : proper (s :: rest) = s :: proper rest :=
        List.filter_cons_of_pos (by rw [hs]; rfl)
      rw [hproper, transcript, transcript]
      cases hstep : g.step s with
      | none => rfl
      | some r =>
        have hr : r.1.isResumed = false := (isResumed_of_step hstep).trans hs
        exact (congrArg _ (ih r.2)).trans (List.filter_cons_of_pos (by rw [hr]; rfl)).symm

/-- Every generator, so in particular one that any steps have led to from its seed, is saved as its
three numbers, and the generator read from this text yields the same as the original in any further
steps: the same numbers, picks and forks, and the same saved generator after each step. Steps among
which it is saved and read again, however often, yield what the others among them yield. -/
theorem transcript_resumed (g : Generator) :
    g.saved.text = "\x7b\"seed\":" ++ toString g.seed.toNat ++
        ",\"position\":" ++ toString g.position.toNat ++
        ",\"forks\":" ++ toString g.forks.toNat ++ "\x7d" ∧
      (∃ resumed, ofText g.saved.text = .ok resumed ∧
        ∀ steps, resumed.transcript steps = g.transcript steps) ∧
      ∀ steps, g.transcript (proper steps) =
        (g.transcript steps).filter fun x => !x.1.isResumed :=
  ⟨g.text_saved, ⟨g, g.ofText_text, fun _ => rfl⟩, fun steps => transcript_proper steps g⟩

end Generator

end CityCards
