import Assay.Proofs.Rejection.Path
import Assay.Proofs.Validation.Blame

/-!
# Where a rejection points

The path of a rejection, read as the text of a pointer, selects the part at fault
(`Selects`).  `Locates value e` says that the reason of `e` is true of that part, and in
the case of a union that so are the rejections of the alternatives.  Every rejection of a
value locates a fault in it.
-/

namespace Assay

/-- The positions of every array in the value are words, as those of an array that is held
in memory are. -/
inductive Json.Addressable : Json → Prop where
  | null : Addressable .null
  | boolean (b : Bool) : Addressable (.boolean b)
  | number (n : Number) : Addressable (.number n)
  | string (s : String) : Addressable (.string s)
  | array {items : List Json} (short : items.length ≤ Word.count)
    (parts : ∀ v ∈ items, Addressable v) : Addressable (.array items)
  | object {members : List (String × Json)} (parts : ∀ m ∈ members, Addressable m.2) :
    Addressable (.object members)

namespace Rejection

/-- The path of a rejection of a value selects a part of it.  Nothing is selected past the
end of an array, for the last step, or where no value is to begin with. -/
inductive Selects (e : Rejection) : Option Json → Option Json → Prop where
  | part {v w : Json} (selected : Json.pointer? e.path v = some w) :
    Selects e (some v) (some w)
  | pastEnd {v : Json} {outer array : String} {index : Nat} {items : List Json}
    {cause : Rejection} (selected : Json.pointer? e.path v = none)
    (split : e.path = outer ++ "/" ++ String.ofList (Decimal.digits index))
    (last : e.lastStep? = some (.atIndex cause index array))
    (outside : Json.pointer? outer v = some (.array items)) (past : items.length ≤ index) :
    Selects e (some v) none
  | absent (path : e.path = "") : Selects e none none

/-- The reason of a rejection is true of the part of a value that its path selects. -/
inductive Locates : Option Json → Rejection → Prop where
  | typeMismatch {value part : Option Json} {e : Rejection} {kind : Kind}
    (selects : Selects e value part)
    (reason : e.reason = .typeMismatch (render part) (renderKind kind))
    (other : Kind.of part ≠ kind) : Locates value e
  | missingProperty {value : Option Json} {e : Rejection} {members : List (String × Json)}
    {key : String} (selects : Selects e value (some (.object members)))
    (reason : e.reason = .missingProperty (render (some (.object members))) key)
    (missing : ∀ m ∈ members, renderKey m.1 ≠ key) : Locates value e
  | noAlternative {value part : Option Json} {e : Rejection} {causes : List Rejection}
    (selects : Selects e value part) (reason : e.reason = .noAlternative causes)
    (each : ∀ cause ∈ causes, Locates part cause) : Locates value e
  | tooDeep {value part : Option Json} {e : Rejection} {limit : Nat}
    (selects : Selects e value part) (reason : e.reason = .tooDeep limit) : Locates value e

/-- A rejection without steps selects the whole value. -/
theorem Selects.whole {e : Rejection} (hpath : e.path = "") (value : Option Json) :
  Selects e value value
  := by
  cases value with
  | none => apply Selects.absent hpath
  | some v =>
      apply Selects.part
      rw [hpath]
      rfl

/-- What the cause of a step selects in the part that the step leads to, the step selects
in the whole. -/
theorem Selects.step {e cause : Rejection} {token : String} {v w : Json}
    {part : Option Json} (hpath : e.path = "/" ++ Json.Pointer.escape token ++ cause.path)
    (hlast : ∀ s, cause.lastStep? = some s → e.lastStep? = some s)
    (hchild : Json.child? token v = some w) (h : Selects cause (some w) part) :
  Selects e (some v) part
  := by
  have hpointer : Json.pointer? e.path v = Json.pointer? cause.path w := by
    rw [hpath, Json.pointer?_step (tokens?_path cause) hchild]
  cases h with
  | part selected => apply Selects.part (hpointer.trans selected)
  | @pastEnd _ outer array index items _ selected split last outside past =>
      obtain ⟨tokens, htokens⟩ := Json.exists_tokens?_of_pointer? outside
      have hsplit : e.path = "/" ++ Json.Pointer.escape token ++ outer ++ "/"
          ++ String.ofList (Decimal.digits index) := by
        rw [hpath, split]
        simp only [String.append_assoc]
      have houter : Json.pointer? ("/" ++ Json.Pointer.escape token ++ outer) v
          = some (.array items) := by
        rw [Json.pointer?_step htokens hchild, outside]
      apply Selects.pastEnd (hpointer.trans selected) hsplit (hlast _ last) houter past

/-- An index past the end of an array selects nothing. -/
theorem Selects.index_pastEnd {cause : Rejection} {index : Nat} {array : String}
    {items : List Json} (hshort : items.length ≤ Word.count)
    (hindex : items[index]? = none) {part : Option Json} (h : Selects cause none part) :
  Selects (.atIndex cause index array) (some (.array items)) part
  := by
  cases h with
  | absent hpath =>
      have hpast := List.getElem?_eq_none_iff.mp hindex
      have hlast : (atIndex cause index array).lastStep? = some (atIndex cause index array) := by
        rw [lastStep?, lastStep?_eq_none hpath]
        rfl
      have hselected : Json.pointer? (atIndex cause index array).path (.array items) = none := by
        rw [Json.pointer?_eq_descend? (tokens?_path _), tokens, Json.descend?,
          Json.child?_digits hshort, hindex]
        rfl
      have hsplit : (atIndex cause index array).path
          = "" ++ "/" ++ String.ofList (Decimal.digits index) := by
        rw [path, hpath]
        simp
      apply Selects.pastEnd hselected hsplit hlast rfl hpast

/-- A step keeps the reason, so it locates what its cause does if it selects the same. -/
theorem Locates.step {e cause : Rejection} {value value' : Option Json}
    (hreason : e.reason = cause.reason)
    (hselects : ∀ part, Selects cause value part → Selects e value' part)
    (h : Locates value cause) :
  Locates value' e
  := by
  cases h with
  | typeMismatch selects reason other =>
      apply Locates.typeMismatch (hselects _ selects) (hreason.trans reason) other
  | missingProperty selects reason missing =>
      apply Locates.missingProperty (hselects _ selects) (hreason.trans reason) missing
  | noAlternative selects reason each =>
      apply Locates.noAlternative (hselects _ selects) (hreason.trans reason) each
  | tooDeep selects reason => apply Locates.tooDeep (hselects _ selects) (hreason.trans reason)

/-- A step to an index, or past the end, locates what its cause does in the element. -/
theorem Locates.atIndex {cause : Rejection} {index : Nat} {array : String}
    {items : List Json} (hshort : items.length ≤ Word.count)
    (h : Locates items[index]? cause) :
  Locates (some (.array items)) (.atIndex cause index array)
  := by
  have hlast : ∀ s, cause.lastStep? = some s →
      (Rejection.atIndex cause index array).lastStep? = some s := by
    intro s hs
    rw [lastStep?, hs]
    rfl
  apply Locates.step _ _ h
  · rfl
  · intro part hselects
    cases hindex : items[index]? with
    | none =>
        rw [hindex] at hselects
        apply hselects.index_pastEnd hshort hindex
    | some w =>
        rw [hindex] at hselects
        apply hselects.step (path_atIndex cause index array) hlast
        rw [Json.child?_digits hshort, hindex]

/-- A step to a member locates what its cause does in the member. -/
theorem Locates.atProperty {cause : Rejection} {key : String} {object : Json}
    {members : List (String × Json)} {v : Json} (presence : Presence)
    (present : members.lookup key = some v) (h : Locates (some v) cause) :
  Locates (some (.object members)) (atProperty object presence key cause)
  := by
  have hpath : (Assay.atProperty object presence key cause).path
      = "/" ++ Json.Pointer.escape key ++ cause.path := by
    cases presence <;> simp only [Assay.atProperty, path, unquote_renderKey]
  have hlast : ∀ s, cause.lastStep? = some s →
      (Assay.atProperty object presence key cause).lastStep? = some s := by
    intro s hs
    cases presence <;> simp only [Assay.atProperty, lastStep?, hs, Option.some_or]
  apply Locates.step _ _ h
  · cases presence <;> rfl
  · intro part hselects
    exact hselects.step hpath hlast present

end Rejection

/-! ## Rejections of a validation -/

namespace Json

theorem mem_of_lookup {name : String} {members : List (String × Json)} {v : Json}
    (h : members.lookup name = some v) :
  (name, v) ∈ members
  := by
  obtain ⟨before, after, rfl, -⟩ := List.lookup_eq_some_iff.mp h
  simp

theorem ne_of_lookup_eq_none {name : String} {members : List (String × Json)}
    (h : members.lookup name = none) {m : String × Json} (hm : m ∈ members) :
  m.1 ≠ name
  := by
  have hne := List.lookup_eq_none_iff.mp h m hm
  rintro rfl
  simp at hne

end Json

namespace Schema

open Rejection (Locates Selects)

/-- The rejection of a value whose positions are words locates a fault. -/
theorem Blames.locates {limit depth : Nat} {schema : Schema} {value : Option Json}
    {e : Rejection} (h : Blames limit depth schema value e)
    (hvalue : ∀ v, value = some v → v.Addressable) :
  Locates value e
  := by
  induction h with
  | tooDeep below => apply Locates.tooDeep (.whole rfl _) rfl
  | mismatch within declared other => apply Locates.typeMismatch (.whole rfl _) rfl other
  | @element depth item items before after v cause within split earlier rejected blames ih =>
      cases hvalue _ rfl with
      | array short parts =>
          have hv : items[before.length]? = some v := by simp [split]
          apply Locates.atIndex short
          rw [hv]
          apply ih
          rintro w ⟨⟩
          apply parts v (List.mem_of_getElem? hv)
  | @entry depth entries before after f items cause within split earlier rejected blames ih =>
      cases hvalue _ rfl with
      | array short parts =>
          apply Locates.atIndex short
          apply ih
          intro w hw
          apply parts w (List.mem_of_getElem? hw)
  | @missing depth properties before after p members within split earlier required absent =>
      apply Locates.missingProperty (.whole rfl _) rfl
      intro m hm hkey
      apply Json.ne_of_lookup_eq_none absent hm (renderKey_injective hkey)
  | @required depth properties before after p members v cause within split earlier required
      present rejected blames ih =>
      cases hvalue _ rfl with
      | object parts =>
          apply Locates.atProperty .required present
          apply ih
          rintro w ⟨⟩
          apply parts _ (Json.mem_of_lookup present)
  | @optional depth properties before after p members v cause within split earlier optional
      present rejected blames ih =>
      cases hvalue _ rfl with
      | object parts =>
          apply Locates.atProperty .optional present
          apply ih
          rintro w ⟨⟩
          apply parts _ (Json.mem_of_lookup present)
  | union within rejected blames ih =>
      apply Locates.noAlternative (.whole rfl _) rfl
      intro cause hcause
      obtain ⟨s, hmem⟩ := exists_mem_zip rejected.length_eq hcause
      apply ih s cause hmem hvalue

/-- The path of a rejection leads to a part of which its reason is true. -/
theorem validate_error_locates {schema : Schema} {limit : Nat} {v : Json} {e : Rejection}
    (hv : v.Addressable) (h : schema.validate limit v = .error e) :
  Locates (some v) e
  := by
  apply (blames_of_examine_eq_error h).locates
  rintro w ⟨⟩
  exact hv

/-- The key has a slash, the index is past the end, and the union says of both of its
alternatives that nothing is there. -/
theorem union_past_end_locates :
  Locates (some (.object [("a/b", .array [.null])]))
    (atProperty (.object [("a/b", .array [.null])]) .required "a/b"
      (atIndex [.null] 3 (.noAlternative [mismatch none .number, mismatch none .string])))
  := by
  have haddressable : (Json.object [("a/b", .array [.null])]).Addressable := by
    apply Json.Addressable.object
    rintro m (_ | ⟨_, ⟨⟩⟩)
    apply Json.Addressable.array (by decide)
    rintro v (_ | ⟨_, ⟨⟩⟩)
    apply Json.Addressable.null
  have hrejected : (object [⟨.required, "a/b", indexed [⟨3, oneOf [number, string]⟩]⟩]).validate 4
      (.object [("a/b", .array [.null])])
        = .error (atProperty (.object [("a/b", .array [.null])]) .required "a/b"
          (atIndex [.null] 3 (.noAlternative [mismatch none .number, mismatch none .string]))) :=
    rfl
  apply validate_error_locates haddressable hrejected

end Schema

end Assay
