import Assay.Filter.Evaluation
import Assay.Proofs.Filter.Approximation

/-!
# Evaluators that go further

An evaluator goes at least as far as another if the parts of every term have at least the results
with it that they have with the other (`Evaluator.Within`).  Then so have the terms
(`Evaluator.runTerm_le`), since evaluation asks its parts for results and does nothing else with
them.
-/

namespace Assay.Filter

/-! ## Updates of values -/

namespace Value

variable {ε : Type} {lift : Error → Obstacle ε} {optional : Bool}
  {first first' : Value → Except (Obstacle ε) (Option Value)}
  {all all' : Value → Except (Obstacle ε) (List Value)}

/-- A member of an object is kept with the first result of the function, or dropped. -/
theorem mapMembers_le (hfirst : ∀ v, first v ≤ first' v) (members : List (String × Value)) :
  mapMembers first members ≤ mapMembers first' members
  := by
  induction members with
  | nil => apply le_rfl
  | cons member rest ih =>
      apply bind_le_bind (hfirst member.2)
      intro w
      cases w with
      | none => apply ih
      | some w =>
          apply bind_le_bind ih
          intro members
          apply le_rfl

/-- An item of an array gives way to all results of the function. -/
theorem mapItems_le (hall : ∀ v, all v ≤ all' v) (items : List Value) :
  mapItems all items ≤ mapItems all' items
  := by
  induction items with
  | nil => apply le_rfl
  | cons v rest ih =>
      apply bind_le_bind (hall v)
      intro vs
      apply bind_le_bind ih
      intro items
      apply le_rfl

/-- Which part is at an index does not depend on the function. -/
theorem updateAt_le (hfirst : ∀ v, first v ≤ first' v) (v i : Value) :
  v.updateAt lift optional i first ≤ v.updateAt lift optional i first'
  := by
  unfold updateAt
  split
  · apply bind_le_bind (hfirst _)
    intro w
    apply le_rfl
  · split
    · apply le_rfl
    · apply bind_le_bind (hfirst _)
      intro w
      apply le_rfl
  all_goals apply le_rfl

/-- Which items are in a range does not depend on the function. -/
theorem updateSlice_le (hfirst : ∀ v, first v ≤ first' v) (v : Value) (start stop : Option Value) :
  v.updateSlice lift optional start stop first ≤ v.updateSlice lift optional start stop first'
  := by
  unfold updateSlice
  split
  · split
    · apply le_rfl
    · apply bind_le_bind (hfirst _)
      intro w
      apply le_rfl
  · apply le_rfl

/-- All elements are mapped, of an array or of an object. -/
theorem updateAll_le (hall : ∀ v, all v ≤ all' v) (hfirst : ∀ v, first v ≤ first' v) (v : Value) :
  v.updateAll lift optional all first ≤ v.updateAll lift optional all' first'
  := by
  unfold updateAll
  split
  · apply bind_le_bind (mapItems_le hall _)
    intro items
    apply le_rfl
  · apply bind_le_bind (mapMembers_le hfirst _)
    intro members
    apply le_rfl
  · apply le_rfl

end Value

/-! ## Parts of terms -/

/-- The parts of terms have at least the results with a second evaluator that they have with a
first, and are told the same about where they are. -/
structure Evaluator.Within (ev ev' : Evaluator) : Prop where
  run (env : Env) (t : Term) (p : Place) : ev.run env t p ≤ ev'.run env t p
  update (env : Env) (t : Term) (v : Value) {f f' : Value → Outcome Value}
    (hf : ∀ w, f w ≤ f' w) : ev.update env t v f ≤ ev'.update env t v f'
  around : ev.around = ev'.around
  depth : ev.depth = ev'.depth
  bound : ev.bound ≤ ev'.bound

/-- A path cannot go on from a value that is computed, whatever the value. -/
theorem Place.computed_le {r r' : Unit → Outcome Value} (p : Place) (hr : r () ≤ r' ()) :
  p.computed r ≤ p.computed r'
  := by
  unfold computed
  split
  · apply Outcome.mapOk_le_mapOk _ hr
  · apply le_rfl

section

variable {f f' : Value → Outcome Value} (hf : ∀ v, f v ≤ f' v)

include hf

/-- The function is applied where the path leads, which does not depend on it. -/
theorem Value.updatePath_le (path : List (Step × Bool)) (v : Value) :
  updatePath f path v ≤ updatePath f' path v
  := by
  induction path generalizing v with
  | nil => apply hf
  | cons step rest ih =>
      obtain ⟨step, optional⟩ := step
      apply Outcome.ofStop_le_ofStop
      split
      · apply updateAt_le fun w => Outcome.first_le_first (ih w)
      · apply updateAll_le (fun w => Outcome.collect_le_collect (ih w))
          fun w => Outcome.first_le_first (ih w)
      · apply updateSlice_le fun w => Outcome.first_le_first (ih w)

/-- The function is applied to the parts of a value before it is applied to the value. -/
theorem Value.updateDeep_le (fuel : Nat) (v : Value) :
  updateDeep f fuel v ≤ updateDeep f' fuel v
  := by
  induction fuel generalizing v with
  | zero => apply hf
  | succ fuel ih =>
      apply Outcome.andThen_le_andThen _ hf
      apply Outcome.ofStop_le_ofStop
      apply updateAll_le (fun w => Outcome.collect_le_collect (ih w))
        fun w => Outcome.first_le_first (ih w)

end

namespace Evaluator

/-- Each step goes on from every result of the one before it. -/
theorem each_le {step step' project project' : Env → Place → Outcome Place}
    (hstep : ∀ env p, step env p ≤ step' env p)
    (hproject : ∀ env p, project env p ≤ project' env p) {envs envs' : Outcome Env}
    (henvs : envs ≤ envs') (p : Place) :
  each step project envs p ≤ each step' project' envs' p
  := by
  induction henvs generalizing p with
  | unfinished => apply Results.Le.unfinished
  | nil => apply le_rfl
  | cons env _ ih =>
      cases env with
      | error stop => apply le_rfl
      | ok env =>
          apply Outcome.andThen_le_andThen (hstep env p)
          intro q
          apply Results.append_le_append (hproject env q) (ih () q)
  | ended why => apply le_rfl

/-- Values are added up in one order. -/
theorem sum_le {α : Type} (zero : Value) {part part' : α → Outcome Value}
    (hpart : ∀ a, part a ≤ part' a) (parts : List α) :
  sum zero (parts.map fun a _ => part a) ≤ sum zero (parts.map fun a _ => part' a)
  := by
  induction parts with
  | nil => apply le_rfl
  | cons a rest ih =>
      cases rest with
      | nil => apply hpart a
      | cons b rest =>
          apply Outcome.andThen_le_andThen (Outcome.pairs_le_pairs (hpart a) ih)
          intro xy
          apply le_rfl

theorem ofList_le {α : Type} {x y : Except (Obstacle Stop) (List α)} (h : x ≤ y) :
  ofList x ≤ ofList y
  := by
  apply Outcome.andThen_le_andThen (Outcome.ofStop_le_ofStop h)
  intro xs
  apply le_rfl

/-- Whether a result counts does not depend on the others. -/
theorem truthful_le {r r' : Outcome Place} (h : r ≤ r') :
  truthful r ≤ truthful r'
  := Results.filter_le_filter _ h

/-- More numbers are counted within a greater bound, and first of all the same ones. -/
theorem count_le (stop step : Value) (goesOn : Value → Bool) {n n' : Nat} (hn : n ≤ n')
    (x : Except (Obstacle Error) Value) :
  count stop step goesOn n x ≤ count stop step goesOn n' x
  := by
  induction n generalizing n' x with
  | zero =>
      cases x with
      | error o =>
          unfold count
          apply le_rfl
      | ok x =>
          unfold count
          split_ifs
          · apply Results.Le.unfinished
          · apply le_rfl
  | succ n ih =>
      obtain ⟨n', rfl⟩ := Nat.exists_eq_add_of_le' (Nat.lt_of_lt_of_le (Nat.succ_pos n) hn)
      cases x with
      | error o => apply le_rfl
      | ok x =>
          unfold count
          split_ifs
          · apply Results.Le.cons
            intro u
            apply ih (Nat.le_of_succ_le_succ hn)
          · apply le_rfl

variable {ev ev' : Evaluator}

theorem values_le (h : ev.Within ev') (env : Env) (t : Term) (v : Value) :
  ev.values env t v ≤ ev'.values env t v
  := Outcome.mapOk_le_mapOk _ (h.run env t _)

theorem parts_le (h : ev.Within ev') (base : Env) (key : Term) (v : Value) :
  ev.parts base key v ≤ ev'.parts base key v
  := Outcome.mapExcept_le_mapExcept _ (values_le h base key v)

mutual

/-- The keys of a pattern are terms, so that a pattern is bound as far as they are evaluated. -/
theorem bindPattern_le (h : ev.Within ev') (base : Env) :
    ∀ (p : Pattern Term) (v : Value) (env : Env),
      ev.bindPattern base p v env ≤ ev'.bindPattern base p v env
  | .var _, _, _ => le_rfl
  | .array items, v, env => bindItems_le h base 0 items v env
  | .object entries, v, env => bindEntries_le h base entries v env

theorem bindItems_le (h : ev.Within ev') (base : Env) :
    ∀ (i : Nat) (ps : List (Pattern Term)) (v : Value) (env : Env),
      ev.bindItems base i ps v env ≤ ev'.bindItems base i ps v env
  | _, [], _, _ => le_rfl
  | i, p :: rest, v, env => by
      apply Outcome.andThen_le_andThen (parts_le h base _ v)
      intro part
      apply Outcome.andThen_le_andThen (bindPattern_le h base p part env)
      intro env
      apply bindItems_le h base (i + 1) rest v env

theorem bindEntries_le (h : ev.Within ev') (base : Env) :
    ∀ (entries : List (Term × Pattern Term)) (v : Value) (env : Env),
      ev.bindEntries base entries v env ≤ ev'.bindEntries base entries v env
  | [], _, _ => le_rfl
  | (key, p) :: rest, v, env => by
      apply Outcome.andThen_le_andThen (parts_le h base key v)
      intro part
      apply Outcome.andThen_le_andThen (bindPattern_le h base p part env)
      intro env
      apply bindEntries_le h base rest v env

end

section

variable (h : ev.Within ev')

include h

/-- A pattern is bound for each value of the source. -/
theorem bindings_le (env : Env) (source : Term) (p : Pattern Term) (v : Value) :
  ev.bindings env source p v ≤ ev'.bindings env source p v
  := by
  apply Outcome.andThen_le_andThen (values_le h env source v)
  intro x
  apply bindPattern_le h

/-- Parameters that are variables are bound to the values of arguments, the others to the
arguments. -/
theorem bindParams_le (caller : Env) (v : Value) (params : List (String × Term)) (env : Env) :
  ev.bindParams caller v params env ≤ ev'.bindParams caller v params env
  := by
  induction params generalizing env with
  | nil => apply le_rfl
  | cons param rest ih =>
      obtain ⟨name, t⟩ := param
      unfold bindParams
      split_ifs
      · apply Outcome.andThen_le_andThen (values_le h caller t v)
        intro x
        apply ih
      · apply ih

theorem arguments_le (env : Env) (v : Value) (args : List Term) :
  ev.arguments env v args ≤ ev'.arguments env v args
  := by
  induction args with
  | nil => apply le_rfl
  | cons t rest ih =>
      apply Outcome.andThen_le_andThen (values_le h env t v)
      intro x
      apply Outcome.mapOk_le_mapOk _ ih

theorem boundValues_le (env : Env) (v : Value) (t : Option Term) :
  ev.boundValues env v t ≤ ev'.boundValues env v t
  := by
  cases t with
  | none => apply le_rfl
  | some t => apply Outcome.mapOk_le_mapOk _ (values_le h env t v)

theorem steps_le (env : Env) (v : Value) (part : PathPart Term) :
  ev.steps env v part ≤ ev'.steps env v part
  := by
  cases part with
  | index t => apply Outcome.mapOk_le_mapOk _ (values_le h env t v)
  | range start stop =>
      apply Outcome.andThen_le_andThen (boundValues_le h env v start)
      intro a
      apply Outcome.mapOk_le_mapOk _ (boundValues_le h env v stop)

/-- The steps of a path are evaluated one after the other. -/
theorem paths_le (env : Env) (v : Value) (parts : List (PathPart Term × Bool)) :
  ev.paths env v parts ≤ ev'.paths env v parts
  := by
  induction parts with
  | nil => apply le_rfl
  | cons part rest ih =>
      apply Outcome.andThen_le_andThen (steps_le h env v part.1)
      intro s
      apply Outcome.mapOk_le_mapOk _ ih

/-! ## Terms -/

/-- What is interpolated in a string is evaluated, and formatted by a call. -/
theorem partValues_le (env : Env) (v : Value) (format : Option String) (part : Part Term) :
  ev.partValues env v format part ≤ ev'.partValues env v format part
  := by
  cases part with
  | text s => apply le_rfl
  | char c => apply le_rfl
  | interpolation t =>
      cases format with
      | none => apply Outcome.mapOk_le_mapOk _ (values_le h env t v)
      | some name =>
          apply Outcome.andThen_le_andThen (values_le h env t v)
          intro x
          apply values_le h

/-- The key of an entry is evaluated as well as its value. -/
theorem entryValues_le (env : Env) (v : Value) (entry : Term × Option Term) :
  ev.entryValues env v entry ≤ ev'.entryValues env v entry
  := Outcome.mapExcept_le_mapExcept _
    (Outcome.pairs_le_pairs (values_le h env _ v) (values_le h env _ v))

/-- An operator asks for the values of its operands, or updates by the one on its left. -/
theorem operate_le (env : Env) (v : Value) (l : Term) (op : Operator) (r : Term) :
  ev.operate env v l op r ≤ ev'.operate env v l op r
  := by
  have hl := values_le h env l v
  have hr := values_le h env r v
  have hlogic (decided : Bool) (x : Value) :
      (if x.truth = decided then Outcome.ok (Value.boolean decided)
        else (ev.values env r v).mapOk fun y => Value.boolean y.truth)
      ≤ if x.truth = decided then Outcome.ok (Value.boolean decided)
        else (ev'.values env r v).mapOk fun y => Value.boolean y.truth := by
    split_ifs
    · apply le_rfl
    · apply Outcome.mapOk_le_mapOk _ hr
  cases op with
  | and => apply Outcome.andThen_le_andThen hl (hlogic false)
  | or => apply Outcome.andThen_le_andThen hl (hlogic true)
  | arithmetic op =>
      apply Outcome.andThen_le_andThen (Outcome.pairs_le_pairs hl hr)
      intro xy
      apply le_rfl
  | comparison op => apply Outcome.mapOk_le_mapOk _ (Outcome.pairs_le_pairs hl hr)
  | assign =>
      apply Outcome.andThen_le_andThen hr
      intro y
      apply h.update env l v fun _ => le_rfl
  | update => apply h.update env l v (values_le h env r)
  | updateArithmetic op =>
      apply Outcome.andThen_le_andThen hr
      intro y
      apply h.update env l v fun _ => le_rfl
  | updateAlternative =>
      apply Outcome.andThen_le_andThen hr
      intro y
      apply h.update env l v fun _ => le_rfl
  | comma => apply le_rfl
  | alternative => apply le_rfl

/-- The conditions are evaluated in order, up to the first that is true. -/
theorem chosen_le (env : Env) (p : Place) (cases : List (Term × Term)) (otherwise : Option Term) :
  ev.chosen env p cases otherwise ≤ ev'.chosen env p cases otherwise
  := by
  induction cases with
  | nil =>
      cases otherwise with
      | none => apply le_rfl
      | some t => apply h.run
  | cons c rest ih =>
      apply Outcome.andThen_le_andThen (values_le h env c.1 p.value)
      intro x
      split_ifs
      · apply h.run
      · apply ih

/-- A fold goes through the environments in which the pattern is bound. -/
theorem fold_le (env : Env) (p : Place) (name : String) (source : Term) (pattern : Pattern Term)
    (args : List Term) :
  ev.fold env p name source pattern args ≤ ev'.fold env p name source pattern args
  := by
  have henvs := bindings_le h env source pattern p.value
  unfold fold
  split
  next start update =>
    apply Outcome.andThen_le_andThen (h.run env start p)
    intro q
    split_ifs
    · apply Outcome.reduce_le_reduce henvs fun env => h.run env update
    · apply each_le (fun env => h.run env update) (fun _ _ => le_rfl) henvs
  next start update project =>
    apply Outcome.andThen_le_andThen (h.run env start p)
    apply each_le (fun env => h.run env update) (fun env => h.run env project) henvs
  next => apply le_rfl

theorem range_le (start stop step : Value) :
  ev.range start stop step ≤ ev'.range start stop step
  := count_le _ _ _ h.bound _

theorem keyed_le (env : Env) (t : Term) (items : List Value) :
  ev.keyed env t items ≤ ev'.keyed env t items
  := by
  induction items with
  | nil => apply le_rfl
  | cons x rest ih =>
      apply bind_le_bind (Outcome.collect_le_collect (values_le h env t x))
      intro key
      apply bind_le_bind ih
      intro items
      apply le_rfl

/-- The keys are all computed before anything is sorted. -/
theorem sortedBy_le (env : Env) (t : Term) (v : Value) :
  ev.sortedBy env t v ≤ ev'.sortedBy env t v
  := by
  unfold sortedBy
  split
  · apply le_rfl
  · apply bind_le_bind (keyed_le h env t _)
    intro items
    apply le_rfl

/-- What is made of the items once they are sorted. -/
theorem sortedBy_bind_le {α : Type} (env : Env) (t : Term) (v : Value)
    (f : List (Value × Value) → Except (Obstacle Stop) α) :
  (ev.sortedBy env t v >>= f) ≤ (ev'.sortedBy env t v >>= f)
  := bind_le_bind (sortedBy_le h env t v) fun _ => le_rfl

/-- A filter with special arguments is there for both evaluators or for neither. -/
theorem special_le (env : Env) (p : Place) (name : String) (args : List Term) :
  Option.Rel (· ≤ ·) (ev.special env p name args) (ev'.special env p name args)
  := by
  unfold special
  split
  case h_1 => exact .some le_rfl
  case h_2 t =>
    apply Option.Rel.some
    apply Place.computed_le
    apply Outcome.mapOk_le_mapOk _ (h.run env t _)
  case h_3 a b c =>
    apply Option.Rel.some
    apply Place.computed_le
    apply Outcome.andThen_le_andThen (values_le h env a _)
    intro a
    apply Outcome.andThen_le_andThen (values_le h env b _)
    intro b
    apply Outcome.andThen_le_andThen (values_le h env c _)
    intro c
    apply range_le h
  case h_4 t => exact .some (Results.take_le_take 1 (h.run env t p))
  case h_5 t =>
    apply Option.Rel.some
    apply ofList_le
    apply bind_le_bind (Outcome.final_le_final none (h.run env t p))
    intro x
    apply le_rfl
  case h_6 n t =>
    apply Option.Rel.some
    apply Outcome.andThen_le_andThen (Outcome.mapExcept_le_mapExcept _ (values_le h env n _))
    intro n
    apply Results.take_le_take _ (h.run env t p)
  case h_7 n t =>
    apply Option.Rel.some
    apply Outcome.andThen_le_andThen (Outcome.mapExcept_le_mapExcept _ (values_le h env n _))
    intro n
    apply Results.drop_le_drop _ (h.run env t p)
  case h_8 t =>
    apply Option.Rel.some
    apply Place.computed_le
    apply Outcome.ofStop_le_ofStop (sortedBy_bind_le h env t _ _)
  case h_9 t =>
    apply Option.Rel.some
    apply Place.computed_le
    apply Outcome.ofStop_le_ofStop (sortedBy_bind_le h env t _ _)
  case h_10 t =>
    apply Option.Rel.some
    apply Place.computed_le
    apply ofList_le (sortedBy_bind_le h env t _ _)
  case h_11 t =>
    apply Option.Rel.some
    apply Place.computed_le
    apply ofList_le (sortedBy_bind_le h env t _ _)
  case h_12 => exact .none

/-- A call runs an argument, a definition or a filter that is built in. -/
theorem call_le (env : Env) (p : Place) (name : String) (args : List Term) :
  ev.call env p name args ≤ ev'.call env p name args
  := by
  have hspecial := special_le h env p name args
  unfold call
  generalize ev.special env p name args = r at hspecial
  generalize ev'.special env p name args = r' at hspecial
  split
  · apply h.run
  · apply Outcome.andThen_le_andThen (bindParams_le h env _ _ _)
    intro env
    apply h.run
  · cases hspecial with
    | some hr => exact hr
    | none =>
        dsimp only
        split
        · apply le_rfl
        · apply Place.computed_le
          apply Outcome.andThen_le_andThen (arguments_le h env p.value args)
          intro xs
          rw [h.around]

/-- A term has at least the results with a second evaluator that it has with a first. -/
theorem runTerm_le (env : Env) (t : Term) (p : Place) :
  ev.runTerm env t p ≤ ev'.runTerm env t p
  := by
  cases t with
  | identity => apply le_rfl
  | recurse => apply le_rfl
  | number text => apply le_rfl
  | string format parts =>
      rw [runTerm, runTerm]
      apply Place.computed_le
      apply sum_le _ (partValues_le h env p.value format)
  | array body =>
      cases body with
      | none => apply le_rfl
      | some t =>
          rw [runTerm, runTerm]
          apply Place.computed_le
          apply Outcome.ofStop_le_ofStop
          apply bind_le_bind (Outcome.collect_le_collect (values_le h env t p.value))
          intro items
          apply le_rfl
  | object entries =>
      rw [runTerm, runTerm]
      apply Place.computed_le
      apply sum_le _ (entryValues_le h env p.value)
  | negate t =>
      rw [runTerm, runTerm]
      apply Place.computed_le
      apply Outcome.mapExcept_le_mapExcept _ (values_le h env t p.value)
  | pipe l r => apply Outcome.andThen_le_andThen (h.run env l p) (h.run env r)
  | bind l pattern r =>
      apply Outcome.andThen_le_andThen (bindings_le h env l pattern p.value)
      intro env
      apply h.run
  | binary l op r =>
      cases op with
      | comma => apply Results.append_le_append (h.run env l p) (h.run env r p)
      | alternative =>
          have htruthful := truthful_le (h.run env l p)
          rw [runTerm, runTerm]
          generalize truthful (ev.run env l p) = x at htruthful
          generalize truthful (ev'.run env l p) = x' at htruthful
          cases htruthful with
          | unfinished => apply Results.Le.unfinished
          | nil => apply h.run
          | cons q tail => apply Results.Le.cons q tail
          | ended why => apply le_rfl
      | _ =>
          rw [runTerm, runTerm]
          · apply Place.computed_le
            apply operate_le h
          all_goals nofun
  | label name t =>
      have hrun := h.run (.label name ev.depth env) t p
      rw [runTerm, runTerm, ← h.depth]
      apply Outcome.untilLeave_le_untilLeave _ hrun
  | leave name => apply le_rfl
  | fold name source pattern args => apply fold_le h
  | attempt t handler =>
      apply Results.bind_le_bind (h.run env t p)
      intro x
      rcases x with (e | l) | q
      · cases handler with
        | none => apply le_rfl
        | some handler => apply h.run
      · apply le_rfl
      · apply le_rfl
  | choose cases otherwise => apply chosen_le h
  | define d t => apply h.run
  | call name args => apply call_le h
  | var name => apply le_rfl
  | path head parts =>
      apply Outcome.andThen_le_andThen (h.run env head p)
      intro q
      apply Outcome.andThen_le_andThen (paths_le h env p.value parts)
      intro steps
      apply le_rfl

end

end Evaluator

end Assay.Filter
