import Assay.Proofs.Rejection.Category

/-!
# The texts in rejections

A rejection quotes the values that it passes.  `mapTexts` changes these texts and keeps the
rest: the steps with their keys and indices, the kinds that were asked for, and the limit.
Neither the category of a rejection nor its path depends on the texts (`category_mapTexts`,
`path_mapTexts`).  `outline` is what is left of a rejection without them.
-/

namespace Assay.Rejection

mutual

/-- The rejection with other texts of values. -/
def mapTexts (g : String → String) : Rejection → Rejection
  | typeMismatch value expected => typeMismatch (g value) expected
  | missingProperty object key => missingProperty (g object) key
  | inProperty cause key object => inProperty (mapTexts g cause) key (g object)
  | inOptionalProperty cause key object => inOptionalProperty (mapTexts g cause) key (g object)
  | atIndex cause index array => atIndex (mapTexts g cause) index (g array)
  | noAlternative causes => noAlternative (mapTextsAll g causes)
  | tooDeep limit => tooDeep limit

def mapTextsAll (g : String → String) : List Rejection → List Rejection
  | [] => []
  | c :: rest => mapTexts g c :: mapTextsAll g rest

end

/-- A rejection without the texts of values: its steps, with keys and indices, and its
reason. -/
def outline (e : Rejection) : Rejection := e.mapTexts fun _ => ""

variable {g : String → String}

theorem mapTextsAll_eq_map (causes : List Rejection) :
  mapTextsAll g causes = causes.map (mapTexts g)
  := by
  induction causes with
  | nil => rfl
  | cons c rest ih => rw [mapTextsAll, ih, List.map_cons]

/-- The category does not depend on the texts. -/
theorem category_mapTexts (e : Rejection) :
  (e.mapTexts g).category = e.category
  := by
  induction e using Rejection.induction with
  | typeMismatch | missingProperty | tooDeep => rfl
  | inProperty cause key object ih => exact ih
  | inOptionalProperty cause key object ih => exact ih
  | atIndex cause index array ih => exact ih
  | noAlternative causes ih =>
      rw [mapTexts, mapTextsAll_eq_map]
      apply category_noAlternative_congr
      simp only [List.mem_map, exists_exists_and_eq_and]
      apply exists_congr
      intro c
      apply and_congr_right
      intro hc
      rw [ih c hc]

/-- The path does not depend on the texts. -/
theorem path_mapTexts (e : Rejection) :
  (e.mapTexts g).path = e.path
  := by
  induction e using Rejection.induction with
  | typeMismatch | missingProperty | noAlternative | tooDeep => rfl
  | inProperty cause key object ih => rw [mapTexts, path, path, ih]
  | inOptionalProperty cause key object ih => rw [mapTexts, path, path, ih]
  | atIndex cause index array ih => rw [mapTexts, path, path, ih]

end Assay.Rejection
