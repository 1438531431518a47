import RasterScript.Failure
import RasterScript.Text.Words

/-!
# Name — what images and layers can be called

A name is one word of a script line: not empty and without blanks.  A layer's name also becomes
part of a file name, so it holds no path separator of either kind.

`checkImageName` and `checkLayerName` accept exactly the names that `IsName` and `IsLayerName`
describe, and say what is wrong with the others.
-/

namespace RasterScript

/-- A word that a script line can hold. -/
def IsName (s : String) : Prop :=
  s ≠ "" ∧ ∀ c ∈ s.toList, isBlank c = false

/-- A name that can be part of a file name. -/
def IsLayerName (s : String) : Prop :=
  IsName s ∧ ∀ c ∈ s.toList, c ≠ '/' ∧ c ≠ '\\'

-- The quantifiers run over the characters of the name; an instance that tries every character
-- there is would be found first where one is in scope.
instance (s : String) : Decidable (IsName s) :=
  @instDecidableAnd _ _ _ (List.decidableBAll (isBlank · = false) s.toList)
instance (s : String) : Decidable (IsLayerName s) :=
  @instDecidableAnd _ _ _ (List.decidableBAll (fun c => c ≠ '/' ∧ c ≠ '\\') s.toList)

/-- Refuses what cannot be the name of a `kind`, path separators apart. -/
def checkName (kind : NameKind) (s : String) : Except Refusal Unit := do
  require (s ≠ "") (.emptyName kind)
  require (s.toList.all fun c => !isBlank c) (.blankInName kind s)

def checkImageName (s : String) : Except Refusal Unit :=
  checkName .image s

def checkLayerName (s : String) : Except Refusal Unit := do
  checkName .layer s
  require (s.toList.all fun c => c ≠ '/' ∧ c ≠ '\\') (.separatorInName s)

theorem checkName_eq_ok {kind : NameKind} {s : String} :
    checkName kind s = .ok () ↔ IsName s := by
  unfold checkName IsName
  by_cases h : s = ""
  · simp [h, require, bind, Except.bind]
  · simp [h, require, bind, Except.bind, List.all_eq_true]

theorem checkImageName_eq_ok {s : String} : checkImageName s = .ok () ↔ IsName s :=
  checkName_eq_ok

theorem checkLayerName_eq_ok {s : String} : checkLayerName s = .ok () ↔ IsLayerName s := by
  unfold checkLayerName IsLayerName
  rw [← @checkName_eq_ok .layer]
  cases h : checkName .layer s with
  | error c => simp [bind, Except.bind]
  | ok u =>
    cases u
    simp [bind, Except.bind, List.all_eq_true]

theorem isLayerName_of_check {s : String} (h : checkLayerName s = .ok ()) : IsLayerName s :=
  checkLayerName_eq_ok.1 h

end RasterScript
