import ChoiceTemplate.CommandLine.Run
import ChoiceTemplate.Pattern.Basic
import ChoiceTemplate.Proofs.Lines

/-
  What a check of files collects.

  A check goes over the files, and over the lines of each, with a line number that it hands on. So what
  it collects is put together from parts that do not know of each other:

    1. The warnings about some lines do not depend on the lines before, but for their numbers
       (`lineWarnings_append`, `lineWarnings_raise`). As whole lines are read by themselves, the same
       holds of contents (`contentWarnings_append`).
    2. Only lines count: neither how they end (`lines_withReturns`) nor what is blank adds a warning
       (`contentWarnings_of_isBlank`).
    3. The warnings about several files are those about each (`fileWarnings_of_readable`), unless one of
       them cannot be read, wherever it stands (`fileWarnings_of_unreadable`). What was reported before
       that stays reported (`runCheck_reports`).

  `check_is_local` puts these together with the exit code.
-/
namespace ChoiceTemplate

namespace Text

/-- A text with a carriage return before each line feed. -/
def withReturns (t : Text) : Text := t.flatMap fun c => if c = '\n' then ['\r', '\n'] else [c]

section
variable {l t : Text}

/-! ## Line endings -/

theorem withReturns_of_not_mem (h : '\n' ∉ t) : withReturns t = t := by
  induction t with
  | nil => rfl
  | cons c t ih =>
    have hc : c ≠ '\n' := (List.ne_of_not_mem_cons h).symm
    have ht := ih (List.not_mem_of_not_mem_cons h)
    rw [withReturns, List.flatMap_cons, if_neg hc, ← withReturns, ht, List.singleton_append]

theorem withReturns_append_feed (h : '\n' ∉ l) (t : Text) :
    withReturns (l ++ '\n' :: t) = l ++ ['\r'] ++ '\n' :: withReturns t := by
  have hl := withReturns_of_not_mem h
  rw [withReturns] at hl
  rw [withReturns, List.flatMap_append, hl, List.flatMap_cons, if_pos rfl, withReturns,
    List.append_assoc]
  rfl

/-- A line ends in one byte or in two. -/
theorem lines_withReturns (h : '\r' ∉ t) : lines (withReturns t) = lines t := by
  induction t using lineInduction with
  | last t ht => rw [withReturns_of_not_mem ht]
  | more l t hl ih =>
    have hreturn : '\r' ∉ l := fun hmem => h (List.mem_append_left _ hmem)
    have ht : '\r' ∉ t := fun hmem => h (List.mem_append_right _ (List.mem_cons_of_mem _ hmem))
    have hlast : l.getLast? ≠ some '\r' := fun hlast => hreturn (List.mem_of_getLast? hlast)
    have hfeed : '\n' ∉ l ++ ['\r'] := by simpa using hl
    rw [withReturns_append_feed hl, lines_append_feed hfeed, lines_append_feed hl,
      dropFinalReturn_concat, dropFinalReturn_of_ne hlast, ih ht]

/-! ## Blank lines -/

theorem isBlank_append (s t : Text) : isBlank (s ++ t) = (isBlank s && isBlank t) :=
  List.all_append

theorem isBlank_of_mem_lines {line : Text} (h : isBlank t = true) (hline : line ∈ lines t) :
    isBlank line = true := by
  induction t using lineInduction with
  | last t ht =>
    by_cases hne : t = []
    · subst hne
      cases hline
    · rw [lines_of_not_mem ht hne, List.mem_singleton] at hline
      exact hline ▸ h
  | more l t hl ih =>
    rw [isBlank_append, Bool.and_eq_true] at h
    rw [lines_append_feed hl] at hline
    rcases List.mem_cons.mp hline with rfl | hline
    · obtain ⟨ending, heq, -⟩ := dropFinalReturn_append l
      rw [heq, isBlank_append, Bool.and_eq_true] at h
      exact h.1.1
    · have ht : isBlank t = true := by
        have hrest := h.2
        rw [← List.singleton_append, isBlank_append, Bool.and_eq_true] at hrest
        exact hrest.2
      exact ih ht hline

end

end Text

namespace CommandLine

/-- The warning about a line that has `n` more lines before it. -/
def FileWarning.raise (n : Nat) (w : FileWarning) : FileWarning := { w with line := n + w.line }

section
variable [PatternEngine] {options : MatchOptions} {file a b : Text}
  {read : Text → Except ReadError Text} {files : List Text}

/-! ## Lines -/

theorem lineWarnings_append (options : MatchOptions) (file : Text) (number : Nat)
    (lines more : List Text) :
    lineWarnings options file number (lines ++ more) =
      lineWarnings options file number lines ++
        lineWarnings options file (number + lines.length) more := by
  induction lines generalizing number with
  | nil => rfl
  | cons line lines ih =>
    have hnumber : number + 1 + lines.length = number + (line :: lines).length := by
      rw [List.length_cons]
      omega
    rw [List.cons_append, lineWarnings, lineWarnings, ih, hnumber, List.append_assoc]

theorem lineWarnings_raise (options : MatchOptions) (file : Text) (n number : Nat)
    (lines : List Text) :
    lineWarnings options file (n + number) lines =
      (lineWarnings options file number lines).map (FileWarning.raise n) := by
  induction lines generalizing number with
  | nil => rfl
  | cons line lines ih =>
    rw [lineWarnings, lineWarnings, Nat.add_assoc, ih, List.map_append]
    split
    · rfl
    · rw [List.map_map]
      rfl

theorem lineWarnings_of_blank {lines : List Text} (h : ∀ line ∈ lines, Text.isBlank line = true)
    (number : Nat) : lineWarnings options file number lines = [] := by
  induction lines generalizing number with
  | nil => rfl
  | cons line lines ih =>
    rw [lineWarnings, if_pos (h line List.mem_cons_self),
      ih (fun l hl => h l (List.mem_cons_of_mem line hl)), List.nil_append]

/-! ## Contents -/

theorem contentWarnings_append (h : Text.Ended a) (b : Text) :
    contentWarnings options file (a ++ b) =
      contentWarnings options file a ++
        (contentWarnings options file b).map (FileWarning.raise (a.count '\n')) := by
  rw [contentWarnings, Text.lines_append h, lineWarnings_append, Text.length_lines_of_ended h,
    Nat.add_comm 1, lineWarnings_raise, contentWarnings, contentWarnings]

theorem contentWarnings_withReturns (h : '\r' ∉ a) :
    contentWarnings options file (Text.withReturns a) = contentWarnings options file a := by
  rw [contentWarnings, Text.lines_withReturns h, contentWarnings]

theorem contentWarnings_of_isBlank (h : Text.isBlank b = true) :
    contentWarnings options file b = [] :=
  lineWarnings_of_blank (fun _ hline => Text.isBlank_of_mem_lines h hline) 1

/-! ## Files -/

theorem fileWarnings_of_readable {content : Text → Text} (h : ∀ f ∈ files, read f = .ok (content f)) :
    fileWarnings read options files =
      .ok (files.flatMap fun f => contentWarnings options f (content f)) := by
  induction files with
  | nil => rfl
  | cons f files ih =>
    have hrest := ih fun g hg => h g (List.mem_cons_of_mem f hg)
    simp only [fileWarnings, h f List.mem_cons_self, hrest]
    rfl

theorem fileWarnings_of_unreadable {f : Text} {reason : ReadError} (hmem : f ∈ files)
    (h : read f = .error reason) : ∃ u, fileWarnings read options files = .error u := by
  induction files with
  | nil => cases hmem
  | cons g files ih =>
    rw [fileWarnings]
    cases hg : read g with
    | error reason => exact ⟨⟨g, reason⟩, rfl⟩
    | ok content =>
      -- What was found in this file is given up when a later one fails.
      rcases List.mem_cons.mp hmem with rfl | hmem
      · rw [h] at hg
        cases hg
      · obtain ⟨u, hu⟩ := ih hmem
        exact ⟨u, by rw [hu]; rfl⟩

/-- The first file that cannot be read is the one that is named. -/
theorem fileWarnings_append_unreadable {content : Text → Text}
    (h : ∀ f ∈ files, read f = .ok (content f)) {f : Text} {reason : ReadError}
    (hf : read f = .error reason) (rest : List Text) :
    fileWarnings read options (files ++ f :: rest) = .error ⟨f, reason⟩ := by
  induction files with
  | nil => rw [List.nil_append, fileWarnings, hf]
  | cons g files ih =>
    have hrest := ih fun f hf => h f (List.mem_cons_of_mem g hf)
    rw [List.cons_append, fileWarnings, h g List.mem_cons_self, hrest]
    rfl

/-! ## Reports -/

theorem fileReports_append {content : Text → Text} (h : ∀ f ∈ files, read f = .ok (content f))
    (more : List Text) :
    fileReports read options (files ++ more) =
      (files.flatMap fun f => contentReports options f (content f)) ++
        fileReports read options more := by
  induction files with
  | nil => rfl
  | cons f files ih =>
    have hrest := ih fun g hg => h g (List.mem_cons_of_mem f hg)
    simp only [List.cons_append, fileReports, h f List.mem_cons_self, hrest]
    rw [List.flatMap_cons, List.append_assoc]

/-- Each warning is reported in its own words and under its own file, in order. -/
theorem contentReports_message (options : MatchOptions) (file content : Text) :
    (contentReports options file content).map (fun d => (d.path, d.message)) =
      (contentWarnings options file content).map fun w =>
        (w.file, "template warning: ".toList ++ w.warning.message) := by
  rw [contentReports, List.map_map]
  rfl

/-- **Warnings are reported as they are found.** Unless they are asked for as JSON, a check reports
each warning about the files that it can read, in order, and those found before a file that cannot be
read are reported all the same; then nothing but the reason is written. -/
theorem runCheck_reports {content : Text → Text} (h : ∀ f ∈ files, read f = .ok (content f))
    (color : ColorChoice) :
    let reports := files.flatMap fun f => contentReports options f (content f)
    (runCheck read color files options false).reports = reports ∧
    ∀ (f : Text) (reason : ReadError) (rest : List Text), read f = .error reason →
      runCheck read color (files ++ f :: rest) options false =
        ⟨66, [], reports, line ("Cannot read ".toList ++ f ++ [':', ' '] ++ reason.message)⟩ := by
  intro reports
  refine ⟨?_, ?_⟩
  · have hreports : fileReports read options (files ++ []) =
        reports ++ fileReports read options [] := fileReports_append h []
    rw [List.append_nil, fileReports, List.append_nil] at hreports
    have hfound : fileWarnings read options files =
        .ok (files.flatMap fun f => contentWarnings options f (content f)) :=
      fileWarnings_of_readable h
    rw [runCheck, hfound]
    exact hreports
  · intro f reason rest hf
    have hreports : fileReports read options (files ++ f :: rest) = reports := by
      rw [fileReports_append h, fileReports, hf]
      exact List.append_nil _
    rw [runCheck, fileWarnings_append_unreadable h hf rest, ← hreports]
    rfl

end

/-- **A check is local to files and lines.** Of files that can all be read it collects the warnings
about each, in order, and its exit code says whether there are any. If one of them cannot be read, the
exit code says so, and nothing is written to the standard output. The warnings about whole lines and
what follows them are those about each, the latter with their line numbers raised by the number of
lines before. It makes no difference whether lines end in a line feed or also in a carriage return.
Blank lines add no warning, and count. -/
theorem check_is_local [PatternEngine] (read : Text → Except ReadError Text) (options : MatchOptions) :
    (∀ (files : List Text) (content : Text → Text), (∀ f ∈ files, read f = .ok (content f)) →
      let found := files.flatMap fun f => contentWarnings options f (content f)
      fileWarnings read options files = .ok found ∧
      ∀ color json,
        ((runCheck read color files options json).exitCode = 0 ↔ found = []) ∧
        (found ≠ [] → (runCheck read color files options json).exitCode = 1)) ∧
    (∀ (files : List Text) (f : Text) (reason : ReadError), f ∈ files → read f = .error reason →
      ∀ color json,
        (runCheck read color files options json).exitCode = 66 ∧
        (runCheck read color files options json).stdout = []) ∧
    ∀ file : Text,
      (∀ a b, Text.Ended a →
        contentWarnings options file (a ++ b) =
          contentWarnings options file a ++
            (contentWarnings options file b).map (FileWarning.raise (a.count '\n'))) ∧
      (∀ a, '\r' ∉ a →
        contentWarnings options file (Text.withReturns a) = contentWarnings options file a) ∧
      ∀ a b, Text.Ended a → Text.isBlank b = true →
        contentWarnings options file (a ++ b) = contentWarnings options file a ∧
        (Text.Ended b → ∀ c, contentWarnings options file (a ++ (b ++ c)) =
          contentWarnings options file a ++
            (contentWarnings options file c).map
              (FileWarning.raise (a.count '\n' + b.count '\n'))) := by
  refine ⟨?_, ?_, ?_⟩
  · intro files content h found
    have hfound : fileWarnings read options files = .ok found := fileWarnings_of_readable h
    refine ⟨hfound, ?_⟩
    intro color json
    have hcode : (runCheck read color files options json).exitCode =
        if found.isEmpty then 0 else 1 := by
      rw [runCheck, hfound]
      rfl
    rw [hcode]
    by_cases hnone : found = [] <;> simp [hnone]
  · intro files f reason hmem h color json
    obtain ⟨u, hu⟩ := fileWarnings_of_unreadable hmem h
    rw [runCheck, hu]
    exact ⟨rfl, rfl⟩
  · intro file
    refine ⟨fun a b ha => contentWarnings_append ha b, fun a ha => contentWarnings_withReturns ha, ?_⟩
    intro a b ha hb
    have hnone : contentWarnings options file b = [] := contentWarnings_of_isBlank hb
    refine ⟨?_, ?_⟩
    · rw [contentWarnings_append ha, hnone, List.map_nil, List.append_nil]
    · intro hended c
      have hraise : FileWarning.raise (a.count '\n') ∘ FileWarning.raise (b.count '\n') =
          FileWarning.raise (a.count '\n' + b.count '\n') := by
        funext w
        simp [FileWarning.raise, Nat.add_assoc]
      rw [contentWarnings_append ha, contentWarnings_append hended, hnone, List.nil_append,
        List.map_map, hraise]

/-- The beginning of a file: lines that end in two ways, with blank ones among them. -/
def endedLines : Text := "1#one\r\n \t\r\n\n".toList

/-- The files of a check. The last line of the second one does not end. -/
def checkedFiles : List (Text × Text) :=
  [("a".toList, endedLines ++ "<x#y\n".toList), ("b".toList, "\noops".toList)]

/-- The content that a file has if it is one of the files of the check. -/
def checkedContent (file : Text) : Text :=
  ((checkedFiles.find? (·.1 = file)).map Prod.snd).getD []

theorem checkedFiles_are_local :
    let read := (Directory.ofList checkedFiles).read
    let found := [⟨"a".toList, 4, .unparsableBound 0 "<x".toList⟩,
      ⟨"b".toList, 2, .missingSeparator 0 "oops".toList⟩]
    (fileWarnings read .standard ["a".toList, "b".toList] = .ok found ∧
      (runCheck read .auto ["a".toList, "b".toList] .standard false).exitCode = 1) ∧
    (read "c".toList = .error .notFound ∧
      (runCheck read .auto ["a".toList, "c".toList] .standard true).exitCode = 66 ∧
      (runCheck read .auto ["a".toList, "c".toList] .standard true).stdout = []) ∧
    Text.Ended endedLines ∧
    contentWarnings .standard "a".toList (endedLines ++ "<x#y\n".toList) =
      [FileWarning.raise 3 ⟨"a".toList, 1, .unparsableBound 0 "<x".toList⟩] := by
  intro read found
  obtain ⟨hreadable, hunreadable, hlines⟩ := check_is_local read .standard
  have hread : ∀ f ∈ ["a".toList, "b".toList], read f = .ok (checkedContent f) := by decide
  have hmissing : read "c".toList = .error .notFound := by decide
  obtain ⟨hfound, hcode⟩ := hreadable _ checkedContent hread
  have hwarnings : (["a".toList, "b".toList].flatMap fun f =>
      contentWarnings .standard f (checkedContent f)) = found := by decide +kernel
  rw [hwarnings] at hfound hcode
  have hended : Text.Ended endedLines := Or.inr (by decide)
  have hfirst : contentWarnings .standard "a".toList endedLines = [] := by decide +kernel
  have hlast : contentWarnings .standard "a".toList "<x#y\n".toList =
      [⟨"a".toList, 1, .unparsableBound 0 "<x".toList⟩] := by decide +kernel
  refine ⟨⟨hfound, (hcode .auto false).2 (List.cons_ne_nil _ _)⟩,
    ⟨hmissing, hunreadable _ "c".toList .notFound (by decide) hmissing .auto true⟩, hended, ?_⟩
  rw [(hlines "a".toList).1 endedLines _ hended, hfirst, hlast]
  rfl

end CommandLine

end ChoiceTemplate
