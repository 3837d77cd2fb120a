import Assay.Command.Documents
import Assay.Proofs.Except

/-!
# The texts of inputs

What texts an input gives is said here without regard to the order in which things are done
(`GivesText`), and so is what keeps it from giving them (`TextFails`).  An input that comes
after the standard input was read finds nothing left of it (`Reached`).  The texts of a list
of inputs are those that the inputs give (`mem_iff_of_inputTexts`), unless there is a fault
in one of them (`textFails_of_inputTexts`, `not_textFails_of_inputTexts`).  The files do not
change while they are read.
-/

namespace Assay.Command

/-! ## Computations that fail -/

section

variable {ε ε' α β : Type}

theorem run_bind (x : ExceptT ε Id α) (f : α → ExceptT ε Id β) :
  (x >>= f).run.run = (x.run.run >>= fun a => (f a).run.run)
  := by
  cases x with
  | error e => rfl
  | ok a => rfl

theorem run_lift_bind (x : Id α) (f : α → ExceptT ε Id β) :
  (ExceptT.lift x >>= f).run.run = (f x.run).run.run
  := rfl

theorem run_mapM (xs : List α) (f : α → ExceptT ε Id β) :
  (xs.mapM f).run.run = xs.mapM fun x => (f x).run.run
  := by
  induction xs with
  | nil => rfl
  | cons x xs ih =>
      rw [List.mapM_cons, List.mapM_cons, run_bind]
      congr 1
      funext y
      rw [run_bind, ih]
      rfl

end

/-! ## Texts -/

/-- A path is one of those that an input stands for. -/
inductive StandsFor (files : Files Id) (input : String) : String → Prop where
  | literal (plain : isPattern input = false) : StandsFor files input input
  | matched {paths : List String} {path : String} (pattern : isPattern input = true)
    (expanded : (PathPattern.expand files input).run.run = .ok paths) (mem : path ∈ paths) :
    StandsFor files input path

/-- An input gives a text, where `bytes` are what is left of the standard input. -/
inductive GivesText (files : Files Id) (bytes : List UInt8) : String → InputText → Prop where
  | stdin {text : String} (decoded : Text.decodeUtf8? bytes = some text) :
    GivesText files bytes stdinName ⟨stdinOrigin, text⟩
  | file {input path text : String} {content : List UInt8} (other : input ≠ stdinName)
    (stands : StandsFor files input path) (read : (files.read path).run = .ok content)
    (decoded : Text.decodeUtf8? content = some text) :
    GivesText files bytes input ⟨path, text⟩

/-- An input has a fault that keeps it from giving its texts. -/
inductive TextFails (files : Files Id) (bytes : List UInt8) : String → InputFault → Prop where
  | stdin (decoded : Text.decodeUtf8? bytes = none) :
    TextFails files bytes stdinName .notTextAtStdin
  | pattern {input : String} {fault : ExpansionFault} (other : input ≠ stdinName)
    (pattern : isPattern input = true)
    (expanded : (PathPattern.expand files input).run.run = .error fault) :
    TextFails files bytes input (.pattern input fault)
  | noMatch {input : String} (other : input ≠ stdinName) (pattern : isPattern input = true)
    (expanded : (PathPattern.expand files input).run.run = .ok []) :
    TextFails files bytes input (.noMatch input)
  | unreadable {input path : String} {fault : ReadFault} (other : input ≠ stdinName)
    (stands : StandsFor files input path) (read : (files.read path).run = .error fault) :
    TextFails files bytes input (.unreadable path fault)
  | notText {input path : String} {content : List UInt8} (other : input ≠ stdinName)
    (stands : StandsFor files input path) (read : (files.read path).run = .ok content)
    (decoded : Text.decodeUtf8? content = none) :
    TextFails files bytes input (.notText path)

section

variable {files : Files Id} {bytes : List UInt8} {input : String}

theorem pathsOf_run :
  (pathsOf files input).run.run =
    if isPattern input then
      match (PathPattern.expand files input).run.run with
      | .error fault => .error (.pattern input fault)
      | .ok [] => .error (.noMatch input)
      | .ok paths => .ok paths
    else .ok [input]
  := by
  rw [pathsOf]
  split_ifs with hpattern
  · apply Eq.trans (run_lift_bind (PathPattern.expand files input).run _)
    rcases (PathPattern.expand files input).run.run with fault | _ | _ <;> rfl
  · rfl

theorem fileText_run {path : String} :
  (fileText files path).run.run =
    match (files.read path).run with
    | .error fault => .error (.unreadable path fault)
    | .ok content =>
      match Text.decodeUtf8? content with
      | none => .error (.notText path)
      | some text => .ok ⟨path, text⟩
  := by
  rw [fileText]
  apply Eq.trans (run_lift_bind (files.read path) _)
  cases (files.read path).run with
  | error fault => rfl
  | ok content =>
      dsimp only
      cases Text.decodeUtf8? content <;> rfl

/-- The paths of an input are those that it stands for. -/
theorem mem_iff_of_pathsOf {paths : List String} {path : String}
    (h : (pathsOf files input).run.run = .ok paths) :
  path ∈ paths ↔ StandsFor files input path
  := by
  rw [pathsOf_run] at h
  split_ifs at h with hpattern
  · have hexpanded : (PathPattern.expand files input).run.run = .ok paths := by
      split at h
      next => cases h
      next => cases h
      next hexpanded =>
        cases h
        exact hexpanded
    constructor
    · apply StandsFor.matched hpattern hexpanded
    · rintro (hplain | ⟨-, hpaths, hmem⟩)
      · rw [hpattern] at hplain
        cases hplain
      · cases hexpanded.symm.trans hpaths
        exact hmem
  · have hpattern : isPattern input = false := eq_false_of_ne_true hpattern
    cases h
    rw [List.mem_singleton]
    constructor
    · rintro rfl
      apply StandsFor.literal hpattern
    · rintro (- | ⟨hpattern', -, -⟩)
      · rfl
      · cases hpattern.symm.trans hpattern'

/-- An input that stands for no paths has a fault. -/
theorem textFails_of_pathsOf {fault : InputFault} (hother : input ≠ stdinName)
    (h : (pathsOf files input).run.run = .error fault) :
  TextFails files bytes input fault
  := by
  rw [pathsOf_run] at h
  split_ifs at h with hpattern
  split at h
  next hexpanded =>
    cases h
    apply TextFails.pattern hother hpattern hexpanded
  next hexpanded =>
    cases h
    apply TextFails.noMatch hother hpattern hexpanded
  next => cases h

/-- A file is read if it is there and is a text. -/
theorem fileText_eq_ok_iff {path : String} {t : InputText} :
  (fileText files path).run.run = .ok t ↔
    ∃ content text, (files.read path).run = .ok content ∧
      Text.decodeUtf8? content = some text ∧ t = ⟨path, text⟩
  := by
  rw [fileText_run]
  cases (files.read path).run with
  | error fault => simp
  | ok content => cases h : Text.decodeUtf8? content <;> simp [h, eq_comm]

/-- A path that an input stands for and that cannot be read is a fault of the input. -/
theorem textFails_of_fileText {path : String} {fault : InputFault} (hother : input ≠ stdinName)
    (hpath : StandsFor files input path) (h : (fileText files path).run.run = .error fault) :
  TextFails files bytes input fault
  := by
  rw [fileText_run] at h
  split at h
  next hread =>
    cases h
    apply TextFails.unreadable hother hpath hread
  next content hread =>
    split at h
    next hdecoded =>
      cases h
      apply TextFails.notText hother hpath hread hdecoded
    next => cases h

/-- An input that is a file or a pattern and has no texts has a fault. -/
theorem textFails_of_fileTexts {fault : InputFault} (hother : input ≠ stdinName)
    (h : (fileTexts files input).run.run = .error fault) :
  TextFails files bytes input fault
  := by
  rw [fileTexts, run_bind] at h
  obtain h | ⟨paths, hpaths, h⟩ := bind_eq_error_iff.mp h
  · apply textFails_of_pathsOf hother h
  · rw [run_mapM] at h
    obtain ⟨path, hpath, h⟩ := exists_of_mapM_eq_error h
    apply textFails_of_fileText hother ((mem_iff_of_pathsOf hpaths).mp hpath) h

/-- The texts of an input that is a file or a pattern are those that it gives. -/
theorem mem_iff_of_fileTexts {ts : List InputText} (hother : input ≠ stdinName)
    (h : (fileTexts files input).run.run = .ok ts) {t : InputText} :
  t ∈ ts ↔ GivesText files bytes input t
  := by
  rw [fileTexts, run_bind] at h
  obtain ⟨paths, hpaths, h⟩ := bind_eq_ok_iff.mp h
  rw [run_mapM] at h
  simp only [mem_iff_of_mapM_eq_ok h, mem_iff_of_pathsOf hpaths, fileText_eq_ok_iff]
  constructor
  · rintro ⟨path, hpath, content, text, hread, hdecoded, rfl⟩
    apply GivesText.file hother hpath hread hdecoded
  · rintro (- | ⟨-, hpath, hread, hdecoded⟩)
    · cases hother rfl
    · exact ⟨_, hpath, _, _, hread, hdecoded, rfl⟩

/-- An input that has its texts has no fault. -/
theorem not_textFails_of_fileTexts {ts : List InputText} (hother : input ≠ stdinName)
    (h : (fileTexts files input).run.run = .ok ts) {fault : InputFault} :
  ¬ TextFails files bytes input fault
  := by
  rw [fileTexts, run_bind] at h
  obtain ⟨paths, hpaths, h⟩ := bind_eq_ok_iff.mp h
  rw [run_mapM] at h
  have hread : ∀ path, StandsFor files input path → ∃ content text,
      (files.read path).run = .ok content ∧ Text.decodeUtf8? content = some text := by
    intro path hpath
    obtain ⟨t, -, ht⟩ := exists_of_mapM_eq_ok h ((mem_iff_of_pathsOf hpaths).mpr hpath)
    obtain ⟨content, text, hread, hdecoded, -⟩ := fileText_eq_ok_iff.mp ht
    use content, text
  rw [pathsOf_run] at hpaths
  rintro (- | ⟨-, hpattern, hexpanded⟩ | ⟨-, hpattern, hexpanded⟩ | ⟨-, hpath, hfault⟩ |
    ⟨-, hpath, hcontent, hnone⟩)
  · cases hother rfl
  · rw [if_pos hpattern, hexpanded] at hpaths
    cases hpaths
  · rw [if_pos hpattern, hexpanded] at hpaths
    cases hpaths
  · obtain ⟨content, text, hok, -⟩ := hread _ hpath
    cases hok.symm.trans hfault
  · obtain ⟨content, text, hok, hsome⟩ := hread _ hpath
    cases hok.symm.trans hcontent
    cases hsome.symm.trans hnone

/-! ## Lists of inputs -/

/-- The texts of an input, where `bytes` are what is left of the standard input. -/
def textsOf (files : Files Id) (bytes : List UInt8) (input : String) :
    Except InputFault (List InputText) :=
  if input = stdinName then
    match Text.decodeUtf8? bytes with
    | none => .error .notTextAtStdin
    | some text => .ok [⟨stdinOrigin, text⟩]
  else (fileTexts files input).run.run

theorem textFails_of_textsOf {fault : InputFault} (h : textsOf files bytes input = .error fault) :
  TextFails files bytes input fault
  := by
  rw [textsOf] at h
  split_ifs at h with hinput
  · subst hinput
    split at h
    next hdecoded =>
      cases h
      apply TextFails.stdin hdecoded
    next => cases h
  · apply textFails_of_fileTexts hinput h

theorem mem_iff_of_textsOf {ts : List InputText} (h : textsOf files bytes input = .ok ts)
    {t : InputText} :
  t ∈ ts ↔ GivesText files bytes input t
  := by
  rw [textsOf] at h
  split_ifs at h with hinput
  · subst hinput
    split at h
    next => cases h
    next text hdecoded =>
      cases h
      rw [List.mem_singleton]
      constructor
      · rintro rfl
        apply GivesText.stdin hdecoded
      · rintro (hdecoded' | ⟨hother⟩)
        · cases hdecoded.symm.trans hdecoded'
          rfl
        · cases hother rfl
  · apply mem_iff_of_fileTexts hinput h

theorem not_textFails_of_textsOf {ts : List InputText} (h : textsOf files bytes input = .ok ts)
    {fault : InputFault} :
  ¬ TextFails files bytes input fault
  := by
  rw [textsOf] at h
  split_ifs at h with hinput
  · subst hinput
    split at h
    next => cases h
    next text hdecoded =>
      rintro (hnone | ⟨hother⟩ | ⟨hother⟩ | ⟨hother⟩ | ⟨hother⟩)
      · cases hdecoded.symm.trans hnone
      all_goals cases hother rfl
  · apply not_textFails_of_fileTexts hinput h

end

/-- What is left of the standard input after some inputs. -/
def leftOver (stdin : List UInt8) (before : List String) : List UInt8 :=
  if stdinName ∈ before then [] else stdin

/-- An input is in a list, and `bytes` are what the inputs before it leave of the standard
input. -/
def Reached (stdin : List UInt8) (inputs : List String) (input : String)
    (bytes : List UInt8) : Prop :=
  ∃ before after, inputs = before ++ input :: after ∧ bytes = leftOver stdin before

section

variable {files : Files Id} {stdin : List UInt8} {inputs : List String}

theorem leftOver_cons {first : String} {before : List String} :
  leftOver stdin (first :: before) = leftOver (leftOver stdin [first]) before
  := by
  by_cases h : stdinName = first
  · simp [leftOver, h]
  · simp [leftOver, h]

theorem reached_cons_iff {first input : String} {bytes : List UInt8} :
  Reached stdin (first :: inputs) input bytes ↔
    (input = first ∧ bytes = stdin) ∨ Reached (leftOver stdin [first]) inputs input bytes
  := by
  constructor
  · rintro ⟨before, after, hinputs, rfl⟩
    cases before with
    | nil =>
        cases hinputs
        exact .inl ⟨rfl, rfl⟩
    | cons _ before =>
        cases hinputs
        exact .inr ⟨before, after, rfl, leftOver_cons⟩
  · rintro (⟨rfl, rfl⟩ | ⟨before, after, rfl, rfl⟩)
    · use [], inputs, rfl
      rfl
    · exact ⟨first :: before, after, rfl, leftOver_cons.symm⟩

theorem stdinText_run {bytes : List UInt8} :
  (@stdinText Id _ bytes).run.run =
    match Text.decodeUtf8? bytes with
    | none => .error .notTextAtStdin
    | some text => .ok ⟨stdinOrigin, text⟩
  := by
  rw [stdinText]
  apply Eq.trans (run_lift_bind bytes _)
  dsimp only [Id.run]
  cases Text.decodeUtf8? bytes <;> rfl

/-- The texts of the inputs are those of the first and those of the others, for which the
first may leave nothing of the standard input. -/
theorem inputTexts_cons_run {first : String} :
  (inputTexts files stdin (first :: inputs)).run.run =
    concat (textsOf files stdin first) (inputTexts files (leftOver stdin [first]) inputs).run.run
  := by
  rw [inputTexts, textsOf]
  split_ifs with hfirst
  · have hleft : leftOver stdin [first] = [] := by simp [leftOver, hfirst]
    rw [run_bind, stdinText_run, hleft]
    cases Text.decodeUtf8? stdin with
    | none => rfl
    | some text =>
        apply Eq.trans (run_bind (inputTexts files (pure []) inputs) _)
        change (inputTexts files [] inputs).run.run >>= _ = Except.map _ _
        cases (inputTexts files [] inputs).run.run <;> rfl
  · have hleft : leftOver stdin [first] = stdin := by simp [leftOver, Ne.symm hfirst]
    rw [run_bind, hleft]
    cases (fileTexts files first).run.run with
    | error fault => rfl
    | ok ts =>
        apply Eq.trans (run_bind (inputTexts files stdin inputs) _)
        change _ = Except.map _ _
        cases (inputTexts files stdin inputs).run.run <;> rfl

/-- Inputs that have no texts have a fault in one of them. -/
theorem textFails_of_inputTexts {fault : InputFault}
    (h : (inputTexts files stdin inputs).run.run = .error fault) :
  ∃ input bytes, Reached stdin inputs input bytes ∧ TextFails files bytes input fault
  := by
  induction inputs generalizing stdin with
  | nil => cases h
  | cons first rest ih =>
      rw [inputTexts_cons_run] at h
      obtain h | ⟨-, -, h⟩ := concat_eq_error_iff.mp h
      · use first, stdin, reached_cons_iff.mpr (.inl ⟨rfl, rfl⟩), textFails_of_textsOf h
      · obtain ⟨input, bytes, hreached, hfails⟩ := ih h
        use input, bytes, reached_cons_iff.mpr (.inr hreached), hfails

/-- The texts of inputs are those that one of them gives. -/
theorem mem_iff_of_inputTexts {ts : List InputText}
    (h : (inputTexts files stdin inputs).run.run = .ok ts) {t : InputText} :
  t ∈ ts ↔ ∃ input bytes, Reached stdin inputs input bytes ∧ GivesText files bytes input t
  := by
  induction inputs generalizing stdin ts with
  | nil =>
      cases h
      simp [Reached]
  | cons first rest ih =>
      rw [inputTexts_cons_run] at h
      obtain ⟨ts, ts', hts, hts', rfl⟩ := concat_eq_ok_iff.mp h
      simp only [List.mem_append, ih hts', reached_cons_iff]
      constructor
      · rintro (ht | ⟨input, bytes, hreached, hgives⟩)
        · use first, stdin, .inl ⟨rfl, rfl⟩, (mem_iff_of_textsOf hts).mp ht
        · use input, bytes, .inr hreached, hgives
      · rintro ⟨input, bytes, ⟨rfl, rfl⟩ | hreached, hgives⟩
        · exact .inl ((mem_iff_of_textsOf hts).mpr hgives)
        · exact .inr ⟨input, bytes, hreached, hgives⟩

/-- Inputs that have their texts have no fault in any of them. -/
theorem not_textFails_of_inputTexts {ts : List InputText}
    (h : (inputTexts files stdin inputs).run.run = .ok ts) {input : String} {bytes : List UInt8}
    (hreached : Reached stdin inputs input bytes) {fault : InputFault} :
  ¬ TextFails files bytes input fault
  := by
  induction inputs generalizing stdin ts with
  | nil => simp [Reached] at hreached
  | cons first rest ih =>
      rw [inputTexts_cons_run] at h
      obtain ⟨ts, ts', hts, hts', rfl⟩ := concat_eq_ok_iff.mp h
      obtain ⟨rfl, rfl⟩ | hreached := reached_cons_iff.mp hreached
      · apply not_textFails_of_textsOf hts
      · apply ih hts' hreached

end

end Assay.Command
