import Assay.Json.Pointer
import Assay.Json.Reader
import Assay.Rendering

/-!
# Rejections

Why a value does not conform to a schema.  A rejection starts with the steps that lead
from the value to the part at fault, each with the text of the container it passes, and
ends with the reason.  Keys and values are kept as they are rendered.
-/

namespace Assay

/-- Why a value was rejected. -/
inductive Rejection where
  | typeMismatch (value expected : String)
  | missingProperty (object key : String)
  | inProperty (cause : Rejection) (key object : String)
  | inOptionalProperty (cause : Rejection) (key object : String)
  | atIndex (cause : Rejection) (index : Nat) (array : String)
  /-- Every alternative of a union rejects the value, each for its own reason. -/
  | noAlternative (causes : List Rejection)
  /-- The schema has more levels than may be visited. -/
  | tooDeep (limit : Nat)
deriving Inhabited

/-- The category of a rejection. -/
inductive Category where
  | typeMismatch
  | missingProperty
  | unionExhausted
  | tooDeep
deriving DecidableEq

namespace Rejection

mutual

/-- The message of a rejection. -/
def message : Rejection → String
  | typeMismatch value expected => "expected " ++ value ++ " to be of type " ++ expected
  | missingProperty object key => "expected " ++ object ++ " to have a property " ++ key
  | inProperty cause key object => message cause ++ ", for property " ++ key ++ " of " ++ object
  | inOptionalProperty cause key object =>
    message cause ++ ", or nothing, for property " ++ key ++ " of " ++ object
  | atIndex cause index array =>
    message cause ++ ", at index " ++ .ofList (Decimal.digits index) ++ " of " ++ array
  | noAlternative causes => joined causes
  | tooDeep limit =>
    "schema nesting exceeds the maximum depth of " ++ .ofList (Decimal.digits limit)

/-- The messages of the alternatives of a union, in order. -/
def joined : List Rejection → String
  | [] => ""
  | c :: rest =>
    message c
      ++ match rest with
        | [] => ""
        | _ :: _ => ", or " ++ joined rest

end

mutual

/-- The category of the reason.  A union is too deep if one of its alternatives is. -/
def category : Rejection → Category
  | typeMismatch _ _ => .typeMismatch
  | missingProperty _ _ => .missingProperty
  | inProperty cause _ _ => category cause
  | inOptionalProperty cause _ _ => category cause
  | atIndex cause _ _ => category cause
  | noAlternative causes => if anyTooDeep causes then .tooDeep else .unionExhausted
  | tooDeep _ => .tooDeep

/-- Whether one of the rejections is too deep. -/
def anyTooDeep : List Rejection → Bool
  | [] => false
  | c :: rest => category c == .tooDeep || anyTooDeep rest

end

/-- The key that a rendered key stands for; a text that is no JSON string stands for
itself. -/
def unquote (rendered : String) : String :=
  match Json.parse rendered with
  | .ok (.string s) => s
  | _ => rendered

/-- The text of the JSON pointer to the part at fault. -/
def path : Rejection → String
  | inProperty cause key _ => "/" ++ Json.Pointer.escape (unquote key) ++ path cause
  | inOptionalProperty cause key _ => "/" ++ Json.Pointer.escape (unquote key) ++ path cause
  | atIndex cause index _ => "/" ++ .ofList (Decimal.digits index) ++ path cause
  | _ => ""

end Rejection

end Assay
