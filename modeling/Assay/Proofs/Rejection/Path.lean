import Assay.Proofs.Json.Pointer
import Assay.Proofs.Json.Reading
import Assay.Rejection

/-!
# Paths of rejections

A rejection is a chain of steps around a reason.  Its path, read as the text of a pointer,
has one token for each step, from the outermost on (`tokens?_path`): the key of a member,
which is kept quoted (`unquote_renderKey`), or the digits of an index.  So the steps that are
put around a reason are read back from the pieces of the path (`path_wrap`).
-/

namespace Assay

/-- A key is read back from its quoted form. -/
theorem Rejection.unquote_renderKey (key : String) :
  unquote (renderKey key) = key
  := by
  rw [unquote, renderKey, Json.parse_quote]

theorem renderKey_injective :
  Function.Injective renderKey
  := Json.quote_injective

namespace Rejection

/-- The reason, without the steps around it. -/
def reason : Rejection → Rejection
  | inProperty cause _ _ => reason cause
  | inOptionalProperty cause _ _ => reason cause
  | atIndex cause _ _ => reason cause
  | e => e

/-- The innermost step, with the reason right below it. -/
def lastStep? : Rejection → Option Rejection
  | inProperty cause key object => (lastStep? cause).or (some (inProperty cause key object))
  | inOptionalProperty cause key object =>
    (lastStep? cause).or (some (inOptionalProperty cause key object))
  | atIndex cause index array => (lastStep? cause).or (some (atIndex cause index array))
  | _ => none

/-- The tokens of the steps, from the outermost on. -/
def tokens : Rejection → List String
  | inProperty cause key _ => unquote key :: tokens cause
  | inOptionalProperty cause key _ => unquote key :: tokens cause
  | atIndex cause index _ => String.ofList (Decimal.digits index) :: tokens cause
  | _ => []

theorem path_atIndex (cause : Rejection) (index : Nat) (array : String) :
  (atIndex cause index array).path
    = "/" ++ Json.Pointer.escape (String.ofList (Decimal.digits index)) ++ cause.path
  := by
  rw [path, Json.Pointer.escape_digits]

/-- The path has one token for each step. -/
theorem tokens?_path :
  ∀ e : Rejection, Json.Pointer.tokens? e.path = some e.tokens
  | inProperty cause key _ => Json.Pointer.tokens?_step (unquote key) (tokens?_path cause)
  | inOptionalProperty cause key _ =>
      Json.Pointer.tokens?_step (unquote key) (tokens?_path cause)
  | atIndex cause index array => by
      rw [path_atIndex]
      apply Json.Pointer.tokens?_step _ (tokens?_path cause)
  | typeMismatch .. => rfl
  | missingProperty .. => rfl
  | noAlternative .. => rfl
  | tooDeep .. => rfl

/-- A rejection with the empty path has no step. -/
theorem lastStep?_eq_none {e : Rejection} (h : e.path = "") :
  e.lastStep? = none
  := by
  have htokens := tokens?_path e
  rw [h] at htokens
  cases e with
  | inProperty | inOptionalProperty | atIndex => cases htokens
  | _ => rfl

/-! ## Steps put around a reason -/

/-- A step from a container, which is quoted, to a part of it. -/
inductive Step where
  | property (key object : String)
  | optionalProperty (key object : String)
  | element (index : Nat) (array : String)

/-- The rejection of a container for its part. -/
def Step.around : Step → Rejection → Rejection
  | property key object, cause => inProperty cause (renderKey key) object
  | optionalProperty key object, cause => inOptionalProperty cause (renderKey key) object
  | element index array, cause => atIndex cause index array

/-- The token of a step: the key, or the index in decimal digits. -/
def Step.token : Step → String
  | property key _ => key
  | optionalProperty key _ => key
  | element index _ => toString index

/-- The rejection with steps put around it, the first of them outermost. -/
def wrap (steps : List Step) (e : Rejection) : Rejection := steps.foldr Step.around e

/-- The rejection is a reason, without steps around it. -/
def IsReason : Rejection → Prop
  | inProperty .. | inOptionalProperty .. | atIndex .. => False
  | typeMismatch .. | missingProperty .. | noAlternative .. | tooDeep .. => True

theorem tokens_around (step : Step) (e : Rejection) :
  (step.around e).tokens = step.token :: e.tokens
  := by
  cases step with
  | property key object => rw [Step.around, tokens, unquote_renderKey, Step.token]
  | optionalProperty key object => rw [Step.around, tokens, unquote_renderKey, Step.token]
  | element index array => rw [Step.around, tokens, Decimal.ofList_digits, Step.token]

theorem tokens_of_isReason {e : Rejection} (h : e.IsReason) :
  e.tokens = []
  := by
  cases e with
  | inProperty | inOptionalProperty | atIndex => cases h
  | typeMismatch | missingProperty | noAlternative | tooDeep => rfl

/-- The tokens of a rejection are those of the steps around the reason. -/
theorem tokens_wrap (steps : List Step) {e : Rejection} (h : e.IsReason) :
  (wrap steps e).tokens = steps.map Step.token
  := by
  induction steps with
  | nil => apply tokens_of_isReason h
  | cons step steps ih =>
      rw [wrap, List.foldr_cons, tokens_around, ← wrap, ih, List.map_cons]

/-- A path is empty if there is no step.  Otherwise it starts with a slash, and the pieces between
the slashes after it are the spellings of the tokens. -/
theorem path_cases (e : Rejection) :
  (e.path = "" ∧ e.tokens = []) ∨
    ∃ rest, e.path.toList = '/' :: rest ∧ e.tokens ≠ [] ∧
      (rest.splitOn '/').map Json.Pointer.unescape = e.tokens
  := by
  have htokens := tokens?_path e
  rw [Json.Pointer.tokens?] at htokens
  split at htokens
  next hpath => exact .inl ⟨String.toList_eq_nil_iff.mp hpath, (Option.some.inj htokens).symm⟩
  next rest hpath =>
    refine .inr ⟨rest, hpath, ?_, ?_⟩
    · rw [← Option.some.inj htokens, Ne, List.map_eq_nil_iff]
      apply List.splitOn_ne_nil
    · apply Option.some.inj htokens
  next => cases htokens

/-- Steps around a reason are told by the path without loss: it is empty if there are none, and
otherwise its pieces stand for the keys and indices, in order. -/
theorem path_wrap (steps : List Step) {e : Rejection} (h : e.IsReason) :
  ((wrap steps e).path = "" ↔ steps = []) ∧
    (steps ≠ [] → ∃ rest, (wrap steps e).path.toList = '/' :: rest ∧
      (rest.splitOn '/').map Json.Pointer.unescape = steps.map Step.token) ∧
    ∀ key, unquote (renderKey key) = key
  := by
  have htokens := tokens_wrap steps h
  obtain ⟨hpath, hnone⟩ | ⟨rest, hpath, hsome, hpieces⟩ := path_cases (wrap steps e)
  · have hsteps : steps = [] := by
      rw [htokens] at hnone
      apply List.map_eq_nil_iff.mp hnone
    exact ⟨iff_of_true hpath hsteps, fun hne => absurd hsteps hne, unquote_renderKey⟩
  · have hsteps : steps ≠ [] := by
      rintro rfl
      apply hsome htokens
    have hne : (wrap steps e).path ≠ "" := by
      intro hempty
      rw [hempty] at hpath
      cases hpath
    exact ⟨iff_of_false hne hsteps, fun _ => ⟨rest, hpath, hpieces.trans htokens⟩,
      unquote_renderKey⟩

/-- Steps whose keys are like escapes, empty, or in need of escapes. -/
def awkwardSteps : List Step :=
  [.property "~1/~0" "", .element 10 "", .optionalProperty "" "", .property "\"\\\n/" ""]

/-- Awkward keys are read back from the path, which ends at a union. -/
theorem path_wrap_awkwardSteps :
  (noAlternative [atIndex (tooDeep 1) 0 "[]"]).IsReason ∧
    ∃ rest, (wrap awkwardSteps (noAlternative [atIndex (tooDeep 1) 0 "[]"])).path.toList
        = '/' :: rest ∧
      (rest.splitOn '/').map Json.Pointer.unescape = ["~1/~0", "10", "", "\"\\\n/"]
  := by
  have hreason : (noAlternative [atIndex (tooDeep 1) 0 "[]"]).IsReason := trivial
  use hreason
  apply (path_wrap awkwardSteps hreason).2.1 (List.cons_ne_nil _ _)

end Rejection

end Assay
