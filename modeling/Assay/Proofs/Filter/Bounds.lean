import Assay.Proofs.Filter.Elements
import Assay.Proofs.Filter.Evaluation

/-!
# Greater bounds

What a filter has within a bound it also has within every greater one (`run_monotone`): only the
ending for want of steps may give way to something else.  With some filters it never does
(`run_endless`).
-/

namespace Assay.Filter

namespace Evaluator

variable {ev ev' : Evaluator}

/-! ## Updates -/

/-- Updates at more and more paths are made one after the other. -/
theorem updateAtPaths_le {f f' : Value → Outcome Value} (hf : ∀ v, f v ≤ f' v)
    {paths paths' : Outcome (List (Step × Bool))} (hpaths : paths ≤ paths') (v : Value) :
  updateAtPaths f paths v ≤ updateAtPaths f' paths' v
  := Outcome.reduce_le_reduce hpaths (Value.updatePath_le hf) v

section

variable (h : ev.Within ev') {f f' : Value → Outcome Value} (hf : ∀ v, f v ≤ f' v)

include h hf

/-- The function is applied by the case whose condition is true. -/
theorem updateChosen_le (env : Env) (cases : List (Term × Term)) (otherwise : Option Term)
    (v : Value) :
  ev.updateChosen env f cases otherwise v ≤ ev'.updateChosen env f' cases otherwise v
  := by
  induction cases generalizing v with
  | nil =>
      cases otherwise with
      | none => apply hf
      | some t => apply h.update env t v hf
  | cons c rest ih =>
      apply Outcome.reduce_le_reduce (values_le h env c.1 v)
      intro x w
      split_ifs
      · apply h.update env c.2 w hf
      · apply ih

/-- The updates of a fold are nested, the first one outermost. -/
theorem updateReduced_le (update : Term) {envs envs' : Outcome Env} (henvs : envs ≤ envs')
    (v : Value) :
  ev.updateReduced update f envs v ≤ ev'.updateReduced update f' envs' v
  := by
  induction henvs generalizing v with
  | unfinished => apply Results.Le.unfinished
  | nil => apply hf
  | cons env _ ih =>
      cases env with
      | error stop => apply le_rfl
      | ok env => apply h.update env update v (ih ())
  | ended why => apply le_rfl

omit hf in
theorem updateEach_le (update : Term) {project project' : Env → Value → Outcome Value}
    (hproject : ∀ env w, project env w ≤ project' env w) {envs envs' : Outcome Env}
    (henvs : envs ≤ envs') (v : Value) :
  ev.updateEach update project envs v ≤ ev'.updateEach update project' envs' v
  := by
  induction henvs generalizing v with
  | unfinished => apply Results.Le.unfinished
  | nil => apply le_rfl
  | cons env _ ih =>
      cases env with
      | error stop => apply le_rfl
      | ok env =>
          apply h.update env update v
          intro w
          apply Outcome.andThen_le_andThen (hproject env w) (ih ())
  | ended why => apply le_rfl

theorem updateFold_le (env : Env) (v : Value) (name : String) (source : Term)
    (pattern : Pattern Term) (args : List Term) :
  ev.updateFold env v name source pattern args f
    ≤ ev'.updateFold env v name source pattern args f'
  := by
  have henvs := bindings_le h env source pattern v
  unfold updateFold
  split
  case h_1 start update =>
    apply h.update env start v
    intro w
    split_ifs
    · apply updateReduced_le h hf update henvs
    · apply updateEach_le h update (fun _ => hf) henvs
  case h_2 start update project =>
    apply h.update env start v
    apply updateEach_le h update (fun env w => h.update env project w hf) henvs
  case h_3 => apply le_rfl

/-- A call updates by its argument or by its definition, or where a filter that cuts leads. -/
theorem updateCall_le (env : Env) (v : Value) (name : String) (args : List Term) :
  ev.updateCall env v name args f ≤ ev'.updateCall env v name args f'
  := by
  have hspecial := special_le h env ⟨v, some []⟩ name args
  unfold updateCall
  generalize ev.special env ⟨v, some []⟩ name args = r at hspecial
  generalize ev'.special env ⟨v, some []⟩ name args = r' at hspecial
  split
  · apply h.update _ _ v hf
  · apply Outcome.reduce_le_reduce (bindParams_le h env v _ _)
    intro env w
    apply h.update env _ w hf
  · split_ifs
    · apply le_rfl
    · apply updateAtPaths_le hf
      apply Outcome.mapOk_le_mapOk
      cases hspecial with
      | some hr => exact hr
      | none => apply le_rfl
    · apply le_rfl

/-- A term updates a value with at least the results with a second evaluator that it has with a
first. -/
theorem updateTerm_le (env : Env) (t : Term) (v : Value) :
  ev.updateTerm env t v f ≤ ev'.updateTerm env t v f'
  := by
  cases t with
  | identity => apply hf
  | recurse => apply Value.updateDeep_le hf
  | pipe l r =>
      apply h.update env l v
      intro w
      apply h.update env r w hf
  | bind l pattern r =>
      apply Outcome.reduce_le_reduce (bindings_le h env l pattern v)
      intro env w
      apply h.update env r w hf
  | binary l op r =>
      cases op with
      | comma =>
          apply Outcome.andThen_le_andThen (h.update env l v hf)
          intro w
          apply h.update env r w hf
      | alternative =>
          have htruthful := truthful_le (h.run env l (.ofValue v))
          rw [updateTerm, updateTerm]
          generalize truthful (ev.run env l (.ofValue v)) = x at htruthful
          generalize truthful (ev'.run env l (.ofValue v)) = x' at htruthful
          cases htruthful with
          | unfinished => apply Results.Le.unfinished
          | nil => apply h.update env r v hf
          | cons q tail => apply h.update env l v hf
          | ended why => apply le_rfl
      | _ => apply le_rfl
  | leave name => apply le_rfl
  | fold name source pattern args => apply updateFold_le h hf
  | choose cases otherwise => apply updateChosen_le h hf
  | define d t => apply h.update _ t v hf
  | call name args => apply updateCall_le h hf
  | path head parts =>
      apply h.update env head v
      apply updateAtPaths_le hf (paths_le h env v parts)
  | _ => apply le_rfl

end

end Evaluator

/-! ## Bounds -/

section

variable {around : Surroundings} {bound bound' : Nat}

/-- An evaluator goes at least as far within a greater bound. -/
theorem evaluator_within (hbound : bound ≤ bound') (depth : Nat) :
  (evaluator around bound depth).Within (evaluator around bound' depth)
  := by
  -- The terms inside of a term are evaluated within the bounds that are one less.
  induction bound generalizing bound' depth with
  | zero =>
      constructor
      case run => exact fun _ _ _ => Results.Le.unfinished _
      case update => exact fun _ _ _ _ _ _ => Results.Le.unfinished _
      case around => cases bound' <;> rfl
      case depth => cases bound' <;> rfl
      case bound => apply Nat.zero_le
  | succ bound ih =>
      obtain ⟨bound', rfl⟩ :=
        Nat.exists_eq_add_of_le' (Nat.lt_of_lt_of_le (Nat.succ_pos bound) hbound)
      have hparts := ih (Nat.le_of_succ_le_succ hbound) (depth + 1)
      constructor
      case run => exact Evaluator.runTerm_le hparts
      case update => exact fun env t v _ _ hf => Evaluator.updateTerm_le hparts hf env t v
      case around => rfl
      case depth => rfl
      case bound => exact hbound

/-- A term has the same results within a greater bound, up to where its steps were used up. -/
theorem evaluate_le (hbound : bound ≤ bound') (env : Env) (t : Term) (v : Value) :
  evaluate around bound env t v ≤ evaluate around bound' env t v
  := Evaluator.values_le (evaluator_within hbound 0) env t v

/-- The documents of results are complete only if the results are not cut off. -/
theorem documents_le {r r' : Outcome Value} (hr : r ≤ r') (index : Nat) :
  documents index r ≤ documents index r'
  := by
  induction hr generalizing index with
  | unfinished => apply unfinished_le
  | nil => apply le_rfl
  | cons v _ ih =>
      rcases v with (e | l) | v
      · apply le_rfl
      · apply le_rfl
      · unfold documents
        split
        · apply le_rfl
        · apply bind_le_bind (ih () (index + 1))
          intro js
          apply le_rfl
  | ended why => apply le_rfl

/-- A filter that comes to an end within a bound does what it does there within every greater
bound. -/
theorem run_monotone (around : Surroundings) (text : String) (document : Json) :
  Monotone fun bound => run bound around text document
  := by
  intro bound bound' hbound
  apply bind_le_bind le_rfl
  intro t
  apply documents_le (evaluate_le hbound globalEnv t _)

end

/-! ## A filter that does not end -/

/-- A definition that is nothing but a call of itself. -/
def endless : Definition Term := ⟨"f", [], .call "f" []⟩

/-- Whether a call after the definition was parsed. -/
def isEndless : Except Failure Term → Bool
  | .ok (.define ⟨"f", [], .call "f" []⟩ (.call "f" [])) => true
  | _ => false

theorem eq_of_isEndless {parsed : Except Failure Term} (h : isEndless parsed = true) :
  parsed = .ok (.define endless (.call "f" []))
  := by
  unfold isEndless at h
  split at h
  · rfl
  · cases h

/-- Each call takes one of the steps and then calls again; this is by induction on the bound. -/
theorem evaluator_endless (around : Surroundings) (bound depth : Nat) (env : Env) (p : Place) :
  (evaluator around bound depth).run (.definition endless env) (.call "f" []) p
    = .ended .unfinished
  := by
  induction bound generalizing depth with
  | zero => rfl
  | succ bound ih =>
      apply Eq.trans (Outcome.ok_andThen _ _)
      apply ih

/-- However many steps are allowed, they are used up by a definition that calls itself. -/
theorem run_endless (bound : Nat) (around : Surroundings) (document : Json) :
  run bound around "def f: f; f" document = .error (.ended .unfinished)
  := by
  have hparse : parse "def f: f; f" = .ok (.define endless (.call "f" [])) :=
    eq_of_isEndless (by decide +kernel)
  have hrun : (evaluator around bound 0).run globalEnv (.define endless (.call "f" []))
      (.ofValue (.ofJson document)) = .ended .unfinished := by
    cases bound with
    | zero => rfl
    | succ bound => apply evaluator_endless
  rw [run, hparse]
  change documents 0 (evaluate around bound globalEnv _ (.ofJson document)) = _
  rw [evaluate, Evaluator.values, hrun]
  rfl

end Assay.Filter
