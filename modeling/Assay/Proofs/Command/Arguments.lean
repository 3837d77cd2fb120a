import Assay.Command.Arguments
import Assay.Proofs.Except
import Mathlib.Data.List.TakeDrop

/-!
# Parameters that are not given

A parameter that has no letter is met only if an argument asks for it by its long name
(`Asks`).  `Unmet p s` says that `p` was not met so far, which every step of reading keeps
unless it is about `p` itself (`Unmet.readArguments`).  Therefore a request has the default of
a parameter that no argument asks for (`maxDepth_of_readCommandLine`,
`noOp_of_readCommandLine`).
-/

namespace Assay.Command

/-- An argument asks for a parameter by its long name, with a value attached only if the
parameter takes one. -/
def Asks (p : Parameter) (arg : String) : Prop :=
  arg = "--" ++ p.long ∨ p.takesValue ∧ ∃ value, arg = "--" ++ p.long ++ "=" ++ value

theorem Asks.dashes {p : Parameter} {arg : String} (h : Asks p arg) :
  ['-', '-'] <+: arg.toList
  := by
  obtain rfl | ⟨-, value, rfl⟩ := h
  · simp
  · simp

/-- A parameter was not met so far, and its values are not being read. -/
def Unmet (p : Parameter) (s : Progress) : Prop :=
  (∀ e ∈ s.seen, e.1 ≠ p) ∧ ∀ e ∈ s.pending, e.1 ≠ p

variable {c : Context} {p q : Parameter} {s s' : Progress}

namespace Unmet

theorem start :
  Unmet p .start
  := by
  simp [Unmet, Progress.start]

/-- What was met without being taken up decides nothing. -/
theorem of_eq (h : Unmet p s) (hseen : s'.seen = s.seen) (hpending : s'.pending = s.pending) :
  Unmet p s'
  := by
  rw [Unmet, hseen, hpending]
  exact h

theorem meet (h : Unmet p s) :
  Unmet p (s.meet c q)
  := by
  have hmark : ∀ {t : Progress} {g : Given}, (t.mark g).seen = t.seen ∧
      (t.mark g).pending = t.pending := by
    intro t g
    rw [Progress.mark]
    split_ifs <;> simp
  apply h.of_eq
  · rw [Progress.meet]
    split_ifs <;> simp [hmark]
  · rw [Progress.meet]
    split_ifs <;> simp [hmark]

theorem add {values : List String} (h : Unmet p s) (hq : q ≠ p) :
  Unmet p (s.add q values)
  := by
  obtain ⟨hseen, hpending⟩ := h
  rw [Progress.add]
  split_ifs
  · constructor
    · intro e he
      obtain ⟨e', he', rfl⟩ := List.mem_map.mp he
      split_ifs
      · exact hq
      · apply hseen e' he'
    · exact hpending
  · constructor
    · intro e he
      obtain he | he := List.mem_append.mp he
      · apply hseen e he
      · rw [List.mem_singleton.mp he]
        exact hq
    · exact hpending

/-- Taking up another parameter. -/
theorem store (h : Unmet p s) (hq : q ≠ p) (values : List String) :
  Unmet p (s.store c q values).1
  := by
  rw [Progress.store]
  split_ifs
  · exact h
  · constructor
    · intro e he
      apply h.1 e (List.mem_of_mem_filter he)
    · exact h.2
  · apply h.meet.add hq

theorem settle (h : Unmet p s) :
  Unmet p (s.settle c).1
  := by
  rw [Progress.settle]
  split
  next => exact h
  next q values hpending =>
    apply store
    · constructor
      · exact h.1
      · simp
    · apply h.2 _ hpending

theorem settled (h : Unmet p s) (hs : s.settled c = .ok s') :
  Unmet p s'
  := by
  rw [Progress.settled] at hs
  split at hs
  next t hsettle =>
    cases hs
    have ht := h.settle (c := c)
    rw [hsettle] at ht
    exact ht
  next => cases hs

theorem react {values : List String} (h : Unmet p s) (hq : q ≠ p)
    (hs : s.react c q values = .ok s') :
  Unmet p s'
  := by
  rw [Progress.react] at hs
  obtain ⟨t, ht, hs⟩ := bind_eq_ok_iff.mp hs
  split at hs
  next => cases hs
  next => cases hs
  next =>
    split at hs
    next u hstore =>
      cases hs
      have hu := (h.settled ht).store (c := c) hq values
      rw [hstore] at hu
      exact hu
    next => cases hs

theorem await (h : Unmet p s) (hq : q ≠ p) (hs : s.await c q = .ok s') :
  Unmet p s'
  := by
  obtain ⟨t, ht, hs⟩ := bind_eq_ok_iff.mp hs
  cases hs
  constructor
  · apply (h.settled ht).1
  · simpa using hq

theorem take {value : String} (h : Unmet p s) :
  Unmet p (s.take value)
  := by
  rw [Progress.take]
  split
  next => exact h
  next q values hpending =>
    constructor
    · exact h.1
    · simpa using h.2 _ hpending

/-! ## Reading -/

theorem long_of_longNamed? {name : String} (h : longNamed? c name = some p) :
  p.long = name
  := by
  have hlong := List.find?_some h
  simpa using hlong

/-- A long name that is read asks for the parameter that is met. -/
theorem readLong {name : String} {value : Option String} {rest : List String} (h : Unmet p s)
    (hp : longNamed? c name = some p → value.isSome ∧ ¬ p.takesValue)
    (hs : Command.readLong c s name value rest = .ok s') :
  Unmet p s'
  := by
  rw [Command.readLong] at hs
  split at hs
  next => cases hs
  next q hname =>
    split at hs
    next =>
      have hq : q ≠ p := by
        rintro rfl
        cases (hp hname).1
      split_ifs at hs
      · apply h.await hq hs
      · apply h.react hq hs
    next v =>
      split_ifs at hs with htakes
      have hq : q ≠ p := by
        rintro rfl
        apply (hp hname).2 htakes
      apply h.react hq hs

/-- Letters never stand for a parameter that has none. -/
theorem readLetters {letters : List Char} (h : Unmet p s) (hp : p.short? = none)
    (hs : Command.readLetters c s letters = .ok s') :
  Unmet p s'
  := by
  induction letters generalizing s with
  | nil =>
      cases hs
      exact h
  | cons letter rest ih =>
      rw [Command.readLetters] at hs
      split at hs
      next => cases hs
      next q hletter =>
        have hq : q ≠ p := by
          rintro rfl
          have hshort := List.find?_some hletter
          simp [hp] at hshort
        split_ifs at hs
        · split at hs
          · apply h.await hq hs
          · apply h.react hq hs
          · apply h.react hq hs
        · obtain ⟨t, ht, hs⟩ := bind_eq_ok_iff.mp hs
          apply ih (h.react hq ht) hs

end Unmet

/-- A long name is what stands before the first equality sign, and a value what stands
after it. -/
theorem splitLong_cases (cs : List Char) :
  (∃ name, splitLong cs = (name, none) ∧ cs = name.toList) ∨
    ∃ name value, splitLong cs = (name, some value) ∧ cs = name.toList ++ '=' :: value.toList
  := by
  have hparts := List.takeWhile_append_dropWhile (p := (· ≠ '=')) (l := cs)
  have hhead := List.head?_dropWhile_not (· ≠ '=') cs
  rw [splitLong, List.span_eq_takeWhile_dropWhile]
  cases hrest : cs.dropWhile (· ≠ '=') with
  | nil =>
      rw [hrest, List.append_nil] at hparts
      refine .inl ⟨_, rfl, ?_⟩
      rw [String.toList_ofList, hparts]
  | cons mark value =>
      rw [hrest] at hparts hhead
      obtain rfl : mark = '=' := by simpa using hhead
      refine .inr ⟨_, _, rfl, ?_⟩
      rw [String.toList_ofList, String.toList_ofList, hparts]

/-- An argument is a subcommand, ends the arguments, or is read as a long name, as letters or
as a value. -/
theorem readArguments_cons_cases {arg : String} {rest : List String}
    {found : Option (String × List String)}
    (h : readArguments c s (arg :: rest) = .ok (s', found)) :
  (s' = s ∧ found = some (arg, rest)) ∨ (s.settled c = .ok s' ∧ found = none) ∨
    ∃ t, readArguments c t rest = .ok (s', found) ∧
      ((∃ name, arg = "--" ++ name ∧ readLong c s name none rest = .ok t) ∨
        (∃ name value, arg = "--" ++ name ++ "=" ++ value ∧
          readLong c s name (some value) rest = .ok t) ∨
        (∃ letters, readLetters c s letters = .ok t) ∨ t = s.take arg)
  := by
  rw [readArguments.eq_def] at h
  dsimp only at h
  split at h
  · cases h
    exact .inl ⟨rfl, rfl⟩
  · split at h
    next =>
      split at h
      next =>
        obtain ⟨t, ht, h⟩ := bind_eq_ok_iff.mp h
        cases h
        exact .inr (.inl ⟨ht, rfl⟩)
      next => cases h
    next cs _ harg =>
      have harg : arg = "--" ++ String.ofList cs := by
        rw [← String.toList_inj, harg]
        simp
      obtain ⟨name, hsplit, hcs⟩ | ⟨name, value, hsplit, hcs⟩ := splitLong_cases cs
      · rw [hsplit] at h
        obtain ⟨t, ht, h⟩ := bind_eq_ok_iff.mp h
        refine .inr (.inr ⟨t, h, .inl ⟨name, ?_, ht⟩⟩)
        rw [harg, hcs, String.ofList_toList]
      · rw [hsplit] at h
        obtain ⟨t, ht, h⟩ := bind_eq_ok_iff.mp h
        refine .inr (.inr ⟨t, h, .inr (.inl ⟨name, value, ?_, ht⟩)⟩)
        rw [harg, hcs, ← String.toList_inj]
        simp
    next l cs _ _ _ =>
      obtain ⟨t, ht, h⟩ := bind_eq_ok_iff.mp h
      exact .inr (.inr ⟨t, h, .inr (.inr (.inl ⟨_, ht⟩))⟩)
    next =>
      split at h
      · exact .inr (.inr ⟨_, h, .inr (.inr (.inr rfl))⟩)
      · cases h

/-- Arguments that do not ask for a parameter do not meet it. -/
theorem Unmet.readArguments {args : List String} {found : Option (String × List String)}
    (h : Unmet p s) (hp : p.short? = none) (hargs : ∀ arg ∈ args, ¬ Asks p arg)
    (hs : readArguments c s args = .ok (s', found)) :
  Unmet p s'
  := by
  induction args generalizing s with
  | nil =>
      rw [Command.readArguments.eq_def] at hs
      obtain ⟨t, ht, hs⟩ := bind_eq_ok_iff.mp hs
      cases hs
      apply h.settled ht
  | cons arg rest ih =>
      obtain ⟨harg, hrest⟩ := List.forall_mem_cons.mp hargs
      obtain ⟨rfl, -⟩ | ⟨ht, -⟩ | ⟨t, hrun, ⟨name, rfl, ht⟩ | ⟨name, value, rfl, ht⟩ |
        ⟨letters, ht⟩ | rfl⟩ := readArguments_cons_cases hs
      · exact h
      · apply h.settled ht
      · apply ih (h.readLong _ ht) hrest hrun
        intro hname
        apply absurd (.inl _) harg
        rw [long_of_longNamed? hname]
      · apply ih (h.readLong _ ht) hrest hrun
        intro hname
        use rfl
        intro htakes
        apply harg (.inr ⟨htakes, value, _⟩)
        rw [long_of_longNamed? hname]
      · apply ih (h.readLetters hp ht) hrest hrun
      · apply ih h.take hrest hrun

/-- The arguments after a subcommand are among those that were read. -/
theorem subset_of_readArguments {args rest : List String} {name : String}
    (h : readArguments c s args = .ok (s', some (name, rest))) :
  rest ⊆ args
  := by
  induction args generalizing s with
  | nil =>
      rw [readArguments.eq_def] at h
      obtain ⟨t, -, h⟩ := bind_eq_ok_iff.mp h
      cases h
  | cons arg tail ih =>
      obtain ⟨-, ⟨⟩⟩ | ⟨-, ⟨⟩⟩ | ⟨t, h, -⟩ := readArguments_cons_cases h
      · apply List.subset_cons_self
      · apply List.subset_cons_of_subset _ (ih h)

/-! ## Requests -/

/-- A request was read from the arguments after the name of its subcommand. -/
theorem exists_of_readCommandLine {args : List String} {r : Request}
    (h : readCommandLine args = .ok r) :
  ∃ sub rest t found, rest ⊆ args ∧ readArguments (some sub) .start rest = .ok (t, found) ∧
    r = requestOf t sub
  := by
  rw [readCommandLine] at h
  obtain ⟨⟨t, found⟩, ht, h⟩ := bind_eq_ok_iff.mp h
  cases found with
  | none => cases h
  | some p =>
      obtain ⟨name, rest⟩ := p
      dsimp only at h
      cases hsub : Subcommand.ofName? name with
      | none =>
          rw [hsub] at h
          cases h
      | some sub =>
          rw [hsub] at h
          obtain ⟨⟨u, found⟩, hu, h⟩ := bind_eq_ok_iff.mp h
          dsimp only at h
          split at h
          · cases h
            use sub, rest, u, found, subset_of_readArguments ht, hu
          · cases h

/-- A parameter that no argument asks for is not among those of the request. -/
theorem unmet_of_readCommandLine {args : List String} {r : Request} (hp : p.short? = none)
    (hargs : ∀ arg ∈ args, ¬ Asks p arg) (h : readCommandLine args = .ok r) :
  ∃ t sub, Unmet p t ∧ r = requestOf t sub
  := by
  obtain ⟨sub, rest, t, found, hrest, ht, hr⟩ := exists_of_readCommandLine h
  use t, sub, Unmet.start.readArguments hp (fun arg harg => hargs arg (hrest harg)) ht, hr

theorem Unmet.has (h : Unmet p s) :
  s.has p = false
  := by
  rw [Progress.has, List.any_eq_false]
  intro e he
  simpa using h.1 e he

theorem Unmet.value? (h : Unmet p s) :
  s.value? p = none
  := by
  have hfind : s.seen.find? (·.1 = p) = none := by
    apply List.find?_eq_none.mpr
    intro e he
    simpa using h.1 e he
  rw [Progress.value?, Progress.values, hfind]
  rfl

/-- The depth is limited as usual unless an argument asks for another limit. -/
theorem maxDepth_of_readCommandLine {args : List String} {r : CheckRequest}
    (hargs : ∀ arg ∈ args, ¬ Asks .maxDepth arg) (h : readCommandLine args = .ok (.check r)) :
  r.maxDepth = defaultMaxDepth
  := by
  obtain ⟨t, sub, ht, hr⟩ := unmet_of_readCommandLine rfl hargs h
  cases sub with
  | explain => cases hr
  | check =>
      cases hr
      dsimp only
      rw [ht.value?]
      rfl

/-- Something is done unless an argument asks for nothing to be done. -/
theorem noOp_of_readCommandLine {args : List String} {r : CheckRequest}
    (hargs : ∀ arg ∈ args, ¬ Asks .noOp arg) (h : readCommandLine args = .ok (.check r)) :
  r.noOp = false
  := by
  obtain ⟨t, sub, ht, hr⟩ := unmet_of_readCommandLine rfl hargs h
  cases sub with
  | explain => cases hr
  | check =>
      cases hr
      apply ht.has

end Assay.Command
