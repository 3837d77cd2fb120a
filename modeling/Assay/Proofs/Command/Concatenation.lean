import Assay.Proofs.Command.Lines

/-!
# One list of inputs behind another

All inputs are read before any of them is taken for documents.  The texts of two lists of inputs,
one behind the other, are those of the first and then those of the second, which finds what the
first leaves of the standard input (`inputTexts_append_run`), and so it is with the documents in two
lists of texts (`documentsOfTexts_append`).  As long as the standard input is read only once, both
lists may therefore as well be loaded on their own (`loadDocuments_append`).
-/

namespace Assay.Command

open Assay.Filter

section

variable {bound : Nat} {around : Surroundings} {files : Files Id} {stdin : List UInt8}
  {before after : List String}

/-! ## Texts -/

theorem inputTexts_append_run :
  (inputTexts files stdin (before ++ after)).run.run =
    concat (inputTexts files stdin before).run.run
      (inputTexts files (leftOver stdin before) after).run.run
  := by
  induction before generalizing stdin with
  | nil =>
      change _ = (inputTexts files stdin after).run.run.map _
      rw [List.nil_append]
      cases (inputTexts files stdin after).run.run <;> rfl
  | cons first rest ih =>
      rw [List.cons_append, inputTexts_cons_run, inputTexts_cons_run, ih, concat_assoc,
        ← leftOver_cons]

/-- Inputs among which the standard input is not have the same texts whatever it holds. -/
theorem inputTexts_congr {inputs : List String} (h : stdinName ∉ inputs)
    (stdin stdin' : List UInt8) :
  (inputTexts files stdin inputs).run.run = (inputTexts files stdin' inputs).run.run
  := by
  induction inputs generalizing stdin stdin' with
  | nil => rfl
  | cons first rest ih =>
      rw [List.mem_cons, not_or] at h
      obtain ⟨hfirst, hrest⟩ := h
      rw [inputTexts_cons_run, inputTexts_cons_run, textsOf, textsOf, if_neg (Ne.symm hfirst),
        if_neg (Ne.symm hfirst), ih hrest _ (leftOver stdin' [first])]

/-- If the standard input is among the inputs at most once, the second of two lists has the texts
that it has on its own. -/
theorem inputTexts_append_of_once (honce : (before ++ after).count stdinName ≤ 1) :
  (inputTexts files stdin (before ++ after)).run.run =
    concat (inputTexts files stdin before).run.run (inputTexts files stdin after).run.run
  := by
  have hafter : (inputTexts files (leftOver stdin before) after).run.run
      = (inputTexts files stdin after).run.run := by
    by_cases hbefore : stdinName ∈ before
    · have hcount := List.count_pos_iff.mpr hbefore
      rw [List.count_append] at honce
      apply inputTexts_congr
      apply List.count_eq_zero.mp
      omega
    · rw [leftOver, if_neg hbefore]
  rw [inputTexts_append_run, hafter]

/-! ## Documents -/

theorem documentsOfTexts_append {settings : InputSettings} (ts us : List InputText) :
  documentsOfTexts bound around settings (ts ++ us) =
    concat (documentsOfTexts bound around settings ts) (documentsOfTexts bound around settings us)
  := by
  rw [documentsOfTexts_eq, documentsOfTexts_eq, documentsOfTexts_eq, List.flatMap_append,
    mapM_append_eq_concat, concat_map_flatten]

/-- The documents that a list of inputs stands for, with the settings as given otherwise. -/
def documentsOf (bound : Nat) (around : Surroundings) (files : Files Id) (stdin : List UInt8)
    (settings : InputSettings) (inputs : List String) :
    Except (Obstacle InputFault) (List Document) :=
  (loadDocuments bound around files stdin { settings with input := inputs }).run.run

theorem documentsOf_eq (settings : InputSettings) (inputs : List String) :
  documentsOf bound around files stdin settings inputs =
    (inputTexts files stdin inputs).run.run.mapError .fault >>= documentsOfTexts bound around settings
  := loadDocuments_run

end

/-- If the standard input is among the inputs at most once, two lists of inputs have documents
exactly if each has, namely those of the first and then those of the second; and what keeps them
from having documents keeps one of the two from it.  This is so within every bound on filters, and
for what loading comes to as the bound grows. -/
theorem loadDocuments_append (around : Surroundings) (files : Files Id) (stdin : List UInt8)
    (settings : InputSettings) {before after : List String}
    (honce : (before ++ after).count stdinName ≤ 1) :
  (∀ bound ds, documentsOf bound around files stdin settings (before ++ after) = .ok ds ↔
      ∃ ds₁ ds₂, documentsOf bound around files stdin settings before = .ok ds₁ ∧
        documentsOf bound around files stdin settings after = .ok ds₂ ∧ ds = ds₁ ++ ds₂) ∧
    (∀ bound o, documentsOf bound around files stdin settings (before ++ after) = .error o →
      documentsOf bound around files stdin settings before = .error o ∨
        documentsOf bound around files stdin settings after = .error o) ∧
    ∀ ds, ComesTo (fun bound => documentsOf bound around files stdin settings (before ++ after))
        (.ok ds) ↔
      ∃ ds₁ ds₂,
        ComesTo (fun bound => documentsOf bound around files stdin settings before) (.ok ds₁) ∧
        ComesTo (fun bound => documentsOf bound around files stdin settings after) (.ok ds₂) ∧
        ds = ds₁ ++ ds₂
  := by
  have happend (bound : Nat) (ds : List Document) :
      documentsOf bound around files stdin settings (before ++ after) = .ok ds ↔
        ∃ ds₁ ds₂, documentsOf bound around files stdin settings before = .ok ds₁ ∧
          documentsOf bound around files stdin settings after = .ok ds₂ ∧ ds = ds₁ ++ ds₂ := by
    simp only [documentsOf_eq, inputTexts_append_of_once honce, concat_mapError]
    rw [concat_bind_eq_ok_iff documentsOfTexts_append, concat_eq_ok_iff]
  use happend
  constructor
  · intro bound o
    simp only [documentsOf_eq, inputTexts_append_of_once honce, concat_mapError]
    apply concat_bind_eq_error documentsOfTexts_append
  · intro ds
    constructor
    · rintro ⟨least, h⟩
      obtain ⟨ds₁, ds₂, hbefore, hafter, rfl⟩ := (happend least ds).mp (h least (Nat.le_refl least))
      exact ⟨ds₁, ds₂, .of_eq loadDocuments_monotone hbefore nofun,
        .of_eq loadDocuments_monotone hafter nofun, rfl⟩
    · rintro ⟨ds₁, ds₂, ⟨least₁, hbefore⟩, ⟨least₂, hafter⟩, rfl⟩
      use max least₁ least₂
      intro bound hbound
      have hbefore := hbefore bound (Nat.le_trans (Nat.le_max_left _ _) hbound)
      have hafter := hafter bound (Nat.le_trans (Nat.le_max_right _ _) hbound)
      exact (happend bound _).mpr ⟨ds₁, ds₂, hbefore, hafter, rfl⟩

theorem integral_number (n : UInt8) :
  (Json.number (.int n.toNat)).Integral
  := by
  have hn := n.toNat_lt
  constructor
  · rw [Word.least]
    omega
  · rw [Word.count]
    omega

/-- A line with a small number on it. -/
def numberRow (n : UInt8) : Row :=
  .value ⟨.number (.int n.toNat), integral_number n, Nat.zero_le 127, .number _⟩

/-- A single line with a small number on it. -/
def numberLine (n : UInt8) : Layout := ⟨[], numberRow n⟩

/-- Two numbers with a tab on the line between them. -/
def threeAndFour : Layout where
  lines := [(numberRow 3, .feed), (.blank ['\t'] (List.all_eq_true.mp rfl) (by decide), .feed)]
  last := numberRow 4

/-- Two numbers in one file, and two in files of similar names. -/
def scatteredNumbers : FileTree :=
  .directory [("l", .file (Text.utf8Bytes threeAndFour.text)),
    ("n1", .file (Text.utf8Bytes (numberLine 1).text)),
    ("n2", .file (Text.utf8Bytes (numberLine 2).text))]

theorem expand_scatteredNumbers :
  (PathPattern.expand scatteredNumbers.files "n*").run.run = .ok ["n1", "n2"]
  := by
  have hexpand : (PathPattern.expand scatteredNumbers.files "n*").run.run
      = ((PathPattern.sortNames ["l", "n1", "n2"]).flatMapM (fun name =>
          PathPattern.visit scatteredNumbers.files false 12293 [[.char 'n', .star]]
            (PathPattern.child "." name)) >>= fun regular => pure ([] ++ regular)).run.run := rfl
  have hsorted : PathPattern.sortNames ["l", "n1", "n2"] = ["l", "n1", "n2"] := by
    apply List.mergeSort_of_pairwise
    decide +kernel
  rw [hexpand, hsorted]
  decide +kernel

/-- The standard input, a pattern and a path. -/
theorem scatteredNumbers_loaded :
  (["-", "n*"] ++ ["l"]).count stdinName ≤ 1 ∧
    documentsOf 0 greenwich scatteredNumbers.files (Text.utf8Bytes (numberLine 5).text) ⟨true, none, none, []⟩
        (["-", "n*"] ++ ["l"])
      = .ok [⟨numbered stdinOrigin ":" 1, .number (.int 5)⟩,
          ⟨numbered "n1" ":" 1, .number (.int 1)⟩, ⟨numbered "n2" ":" 1, .number (.int 2)⟩,
          ⟨numbered "l" ":" 1, .number (.int 3)⟩, ⟨numbered "l" ":" 3, .number (.int 4)⟩]
  := by
  have honce : (["-", "n*"] ++ ["l"]).count stdinName ≤ 1 := by decide
  have hstdin : textsOf scatteredNumbers.files (Text.utf8Bytes (numberLine 5).text) "-"
      = .ok [⟨stdinOrigin, (numberLine 5).text⟩] := by
    rw [textsOf, if_pos (by decide), Text.decodeUtf8?_utf8Bytes]
  have hone : (fileText scatteredNumbers.files "n1").run.run = .ok ⟨"n1", (numberLine 1).text⟩ :=
    fileText_eq_ok_iff.mpr ⟨_, _, rfl, Text.decodeUtf8?_utf8Bytes _, rfl⟩
  have htwo : (fileText scatteredNumbers.files "n2").run.run = .ok ⟨"n2", (numberLine 2).text⟩ :=
    fileText_eq_ok_iff.mpr ⟨_, _, rfl, Text.decodeUtf8?_utf8Bytes _, rfl⟩
  have hpattern : textsOf scatteredNumbers.files [] "n*"
      = .ok [⟨"n1", (numberLine 1).text⟩, ⟨"n2", (numberLine 2).text⟩] := by
    rw [textsOf, if_neg (by decide), fileTexts, run_bind, pathsOf_run, if_pos (by decide),
      expand_scatteredNumbers]
    apply Eq.trans (run_mapM ["n1", "n2"] (fileText scatteredNumbers.files))
    rw [List.mapM_cons, List.mapM_cons, hone, htwo]
    rfl
  have hfirst : documentsOf 0 greenwich scatteredNumbers.files (Text.utf8Bytes (numberLine 5).text)
      ⟨true, none, none, []⟩ ["-", "n*"] = .ok [⟨numbered stdinOrigin ":" 1, .number (.int 5)⟩,
        ⟨numbered "n1" ":" 1, .number (.int 1)⟩, ⟨numbered "n2" ":" 1, .number (.int 2)⟩] := by
    have hleft : leftOver (Text.utf8Bytes (numberLine 5).text) ["-"] = [] := rfl
    rw [documentsOf_eq, inputTexts_cons_run, inputTexts_cons_run, hleft, hstdin, hpattern]
    change documentsOfTexts _ _ _ [_, _, _] = _
    rw [documentsOfTexts, List.mapM_cons, List.mapM_cons, List.mapM_cons, documentsOfText_layout,
      documentsOfText_layout, documentsOfText_layout]
    rfl
  have hsecond : documentsOf 0 greenwich scatteredNumbers.files (Text.utf8Bytes (numberLine 5).text)
      ⟨true, none, none, []⟩ ["l"]
      = .ok [⟨numbered "l" ":" 1, .number (.int 3)⟩, ⟨numbered "l" ":" 3, .number (.int 4)⟩] := by
    have hother : "l" ≠ stdinName := by decide
    have hread : (scatteredNumbers.files.read "l").run = .ok (Text.utf8Bytes threeAndFour.text) :=
      rfl
    exact loadDocuments_layout hother rfl hread
  use honce
  apply ((loadDocuments_append _ _ _ _ honce).1 0 _).mpr ⟨_, _, hfirst, hsecond, rfl⟩

end Assay.Command
