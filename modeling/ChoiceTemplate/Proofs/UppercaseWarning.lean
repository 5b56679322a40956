import ChoiceTemplate.Message
import ChoiceTemplate.Proofs.LetterCase
import ChoiceTemplate.Proofs.Linting
import ChoiceTemplate.Proofs.Resolution
import ChoiceTemplate.Proofs.Searching

/-
  When a selector with upper-case letters never matches.

  The warning about upper-case letters says that a selector never matches a text reference, for
  references are put into lower case. It is given for the letters themselves, whatever they do in the
  pattern. What counts is whether every text that the pattern matches has an upper-case letter, and
  `Expr.DemandsUpper` reads that off the expression.

    1. Where it holds, nothing without an upper-case letter can be read (`not_noUpper_of_reads`).
    2. Where it does not hold and the pattern asks for no places, some text without an upper-case
       letter is matched as a whole (`exists_noUpper_matchesWhole`): take a shortest one that can be
       read, since what is preferred to it can be read as well and cannot be shorter.
    3. So the warning is right for the patterns of the first kind, and only for these as long as
       places are left aside (`uppercase_warning_right_iff_demanded`). It is wrong for the letter
       that names a class (`property_name_matches_lower_case`).
-/
namespace ChoiceTemplate.Pattern

namespace Expr

/-- Whether every match of an expression reads an upper-case letter, places that it asks for aside. -/
def DemandsUpper : Expr → Prop
  | .empty => False
  | .one _ set => ∀ c, set.contains c = true → c.isUpper = true
  | .look _ => False
  | .seq a b => a.DemandsUpper ∨ b.DemandsUpper
  | .alt a b => a.DemandsUpper ∧ b.DemandsUpper
  | .exactly n e => 0 < n ∧ e.DemandsUpper
  | .upTo _ _ _ => False
  | .plus _ e => e.DemandsUpper
  | .again _ _ => False

/-- Whether an expression asks for no place. -/
def lookFree : Expr → Bool
  | .empty => true
  | .one _ _ => true
  | .look _ => false
  | .seq a b => a.lookFree && b.lookFree
  | .alt a b => a.lookFree && b.lookFree
  | .exactly _ e => e.lookFree
  | .upTo _ _ e => e.lookFree
  | .plus _ e => e.lookFree
  | .again _ e => e.lookFree

end Expr

/-! ## Upper-case letters that must be read -/

/-- Some expression of a way demands an upper-case letter. -/
def Demands (way : List Expr) : Prop := ∃ e ∈ way, e.DemandsUpper

section
variable {ctx : Context} {before : Option Char} {e : Expr} {way next after : List Expr}
  {th : Thread} {t rest : Text}

theorem demands_cons : Demands (e :: after) ↔ e.DemandsUpper ∨ Demands after :=
  List.exists_mem_cons_iff _ _ _

theorem Demands.step (hstep : Step ctx way next) (h : Demands way) : Demands next := by
  cases hstep <;> simp only [demands_cons, Expr.DemandsUpper] at h ⊢
  all_goals tauto

theorem Demands.leads (hleads : Leads ctx way th) (h : Demands way) :
    ∃ set next, th = .reading set next ∧
      ((∀ c, set.contains c = true → c.isUpper = true) ∨ Demands next) := by
  induction hleads with
  | ends hend =>
    cases hend with
    | done => obtain ⟨e, he, -⟩ := h; exact absurd he List.not_mem_nil
    | reading => exact ⟨_, _, rfl, demands_cons.mp h⟩
  | step hstep _ ih => exact ih (h.step hstep)

/-- What demands an upper-case letter reads nothing without one. -/
theorem not_noUpper_of_reads (hreads : Reads before way t rest) (h : Demands way) :
    ¬Text.NoUpper t := by
  induction hreads with
  | done hleads =>
    obtain ⟨set, next, hth, -⟩ := h.leads hleads
    cases hth
  | @read _ _ _ _ c t _ hleads hc _ ih =>
    obtain ⟨set, next, hth, hset | hnext⟩ := h.leads hleads
    · cases hth
      intro hno
      exact Bool.false_ne_true ((hno c List.mem_cons_self).symm.trans (hset c hc))
    · cases hth
      exact fun hno => ih hnext fun d hd => hno d (List.mem_cons_of_mem c hd)

end

/-! ## Texts without upper-case letters that can be read -/

/-- No expression of a way asks for a place. -/
def LookFree (way : List Expr) : Prop := ∀ e ∈ way, e.lookFree = true

/-- A way can read some text without upper-case letters, whatever stands before it. -/
def ReadsNoUpper (way : List Expr) : Prop :=
  ∀ before, ∃ t, Text.NoUpper t ∧ Reads before way t []

section
variable {ctx : Context} {e : Expr} {way next after : List Expr} {th : Thread} {t rest : Text}

theorem lookFree_cons : LookFree (e :: after) ↔ e.lookFree = true ∧ LookFree after :=
  List.forall_mem_cons

theorem LookFree.step (hstep : Step ctx way next) (h : LookFree way) : LookFree next := by
  cases hstep <;> simp only [lookFree_cons, Expr.lookFree, Bool.and_eq_true] at h ⊢
  all_goals tauto

theorem Step.of_lookFree (hstep : Step ctx way next) (h : LookFree way) (ctx' : Context) :
    Step ctx' way next := by
  cases hstep
  case look => exact absurd (lookFree_cons.mp h).1 Bool.false_ne_true
  all_goals constructor

theorem Leads.of_lookFree (hleads : Leads ctx way th) (h : LookFree way) (ctx' : Context) :
    Leads ctx' way th ∧ ∀ set next, th = .reading set next → LookFree next := by
  induction hleads with
  | ends hend =>
    refine ⟨.ends hend, fun set next hth => ?_⟩
    subst hth
    cases hend
    exact (lookFree_cons.mp h).2
  | step hstep _ ih => exact (ih (h.step hstep)).imp_left (.step (hstep.of_lookFree h ctx'))

/-- Without places, what is around a text does not matter. -/
theorem Reads.of_lookFree {before : Option Char} (hreads : Reads before way t rest)
    (h : LookFree way) (before' : Option Char) (rest' : Text) : Reads before' way t rest' := by
  induction hreads generalizing before' with
  | done hleads => exact .done (hleads.of_lookFree h _).1
  | read hleads hc _ ih =>
    obtain ⟨hleads', hnext⟩ := hleads.of_lookFree h ⟨before', _⟩
    exact .read hleads' hc (ih (hnext _ _ rfl) _)

theorem ReadsNoUpper.step (hstep : ∀ ctx, Step ctx way next) (h : ReadsNoUpper next) :
    ReadsNoUpper way := by
  intro before
  obtain ⟨t, ht, hreads⟩ := h before
  exact ⟨t, ht, hreads.step (hstep _)⟩

/-- What demands no upper-case letter can be read without one. -/
theorem readsNoUpper_of_not_demandsUpper (e : Expr) (hlook : e.lookFree = true)
    (hdemands : ¬e.DemandsUpper) :
    ∀ {after : List Expr}, ReadsNoUpper after → ReadsNoUpper (e :: after) := by
  induction e with
  | empty => exact fun h => h.step fun _ => .empty
  | one place set =>
    intro after h before
    obtain ⟨c, hc, hupper⟩ : ∃ c, set.contains c = true ∧ c.isUpper = false := by
      simpa [Expr.DemandsUpper] using hdemands
    obtain ⟨t, ht, hreads⟩ := h (some c)
    exact ⟨c :: t, List.forall_mem_cons.mpr ⟨hupper, ht⟩, .one hc hreads⟩
  | look place => exact absurd hlook Bool.false_ne_true
  | seq a b iha ihb =>
    intro after h
    obtain ⟨ha, hb⟩ := Bool.and_eq_true_iff.mp hlook
    obtain ⟨hnota, hnotb⟩ := not_or.mp hdemands
    exact (iha ha hnota (ihb hb hnotb h)).step fun _ => .seq
  | alt a b iha ihb =>
    intro after h
    obtain ⟨ha, hb⟩ := Bool.and_eq_true_iff.mp hlook
    rcases not_and_or.mp hdemands with hnot | hnot
    · exact (iha ha hnot h).step fun _ => .altLeft
    · exact (ihb hb hnot h).step fun _ => .altRight
  | exactly n e ih =>
    intro after h
    induction n with
    | zero => exact h.step fun _ => .exactlyStop
    | succ n ihn =>
      have hnot : ¬e.DemandsUpper := fun he => hdemands ⟨Nat.succ_pos n, he⟩
      exact (ih hlook hnot (ihn hlook fun he => hnot he.2)).step fun _ => .exactlyMore
  | upTo greedy n e ih => exact fun h => h.step fun _ => .upToStop
  | plus greedy e ih =>
    intro after h
    exact (ih hlook hdemands (h.step fun _ => .againStop)).step fun _ => .plus
  | again greedy e ih => exact fun h => h.step fun _ => .againStop

end

section
variable {p : PatternEngine.Compiled}

/-- A shortest text without upper-case letters that can be read is matched as a whole. -/
theorem exists_noUpper_matchesWhole (hlook : p.expr.lookFree = true)
    (hdemands : ¬p.expr.DemandsUpper) : ∃ t, Text.NoUpper t ∧ p.matchesWhole t = true := by
  have hfree : LookFree [p.expr] := by simpa [LookFree] using hlook
  have hnil : ReadsNoUpper [] := fun _ => ⟨[], by simp [Text.NoUpper], reads_nil.mpr rfl⟩
  obtain ⟨t, ht, hreads⟩ := readsNoUpper_of_not_demandsUpper p.expr hlook hdemands hnil none
  induction hn : t.length using Nat.strongRecOn generalizing t with
  | ind n ih =>
    have hsome := matchAt_of_reads hreads
    rw [List.append_nil] at hsome
    obtain ⟨w, hw⟩ := Option.isSome_iff_exists.mp hsome
    obtain ⟨rest, rfl, hreadsw⟩ := reads_of_matchAt hw
    cases rest with
    | nil =>
      rw [List.append_nil] at hw ht
      exact ⟨w, ht, matchesWhole_iff.mpr hw⟩
    | cons c rest =>
      have hshorter : w.length < n := by
        rw [← hn, List.length_append, List.length_cons]
        omega
      exact ih w.length hshorter w ht.left (hreadsw.of_lookFree hfree none []) rfl

theorem not_matchesWhole_lowercase (h : p.expr.DemandsUpper) (r : Text) :
    p.matchesWhole (Text.lowercase r) = false := by
  rw [Bool.eq_false_iff]
  intro hmatches
  exact not_noUpper_of_reads (reads_of_matchesWhole hmatches)
    ⟨p.expr, List.mem_singleton_self _, h⟩ (Text.noUpper_lowercase r)

end

end ChoiceTemplate.Pattern

namespace ChoiceTemplate

/-! ## The patterns of a template -/

namespace PatternSet

section
variable [PatternEngine] {c : Choices} {options : MatchOptions} {t selector : Text}
  {p : PatternEngine.Compiled} {i : Nat}

theorem findWhole_compile (c : Choices) (options : MatchOptions) (t : Text) :
    (compile c options).findWhole? t =
      c.selectors.findIdx? fun s => (selectorPattern? s options).any fun p => p.matchesWhole t := by
  rw [findWhole?, compile, find_compileFrom]
  simp only [Nat.add_zero, Option.map_id']

theorem matchesWhole_of_findWhole (hselector : c.selectors[i]? = some selector)
    (hp : selectorPattern? selector options = some p)
    (hfind : (compile c options).findWhole? t = some i) : p.matchesWhole t = true := by
  rw [findWhole_compile, List.findIdx?_eq_some_iff_getElem] at hfind
  obtain ⟨hi, hmatches, -⟩ := hfind
  obtain rfl : c.selectors[i] = selector := by
    simpa [List.getElem?_eq_getElem hi] using hselector
  simpa [hp] using hmatches

/-- A pattern that matches the whole of a text is found, unless one before it is. -/
theorem exists_findWhole_le (hselector : c.selectors[i]? = some selector)
    (hp : selectorPattern? selector options = some p) (hmatches : p.matchesWhole t = true) :
    ∃ j ≤ i, (compile c options).findWhole? t = some j := by
  obtain ⟨hi, hget⟩ := List.getElem?_eq_some_iff.mp hselector
  have hle : (c.selectors.findIdx fun s =>
      (selectorPattern? s options).any fun p => p.matchesWhole t) ≤ i := by
    refine Nat.le_of_not_lt fun hlt => ?_
    have hnot := List.not_of_lt_findIdx hlt
    simp [hget, hp, hmatches] at hnot
  refine ⟨_, hle, ?_⟩
  rw [findWhole_compile]
  exact List.findIdx?_eq_some_iff_findIdx_eq.mpr ⟨Nat.lt_of_le_of_lt hle hi, rfl⟩

end

end PatternSet

/-- **The warning about upper-case letters is right where a match demands one.** A selector that is
warned about is compiled. If every match of it reads an upper-case letter, no text reference is ever
matched by it, so its entry is never found. If that is not so, and the pattern asks for no places,
there is a text reference that it does match, and then its entry is found unless one before it is. -/
theorem uppercase_warning_right_iff_demanded (template : Text) (options : MatchOptions) (i : Nat)
    (selector : Text) (h : .uppercasePattern i selector ∈ lint template options) :
    ∃ p, compileSelector selector options = .ok p ∧
      (p.expr.DemandsUpper → ∀ r : Text,
        (PatternSet.compile (Choices.parse template) options).findWhole? (Text.lowercase r) ≠
          some i) ∧
      (p.expr.lookFree = true → ¬p.expr.DemandsUpper → ∃ r : Text,
        p.matchesWhole (Text.lowercase r) = true ∧
        ∃ j ≤ i, (PatternSet.compile (Choices.parse template) options).findWhole?
          (Text.lowercase r) = some j) := by
  obtain ⟨hselector, hne, -, -, p, hp⟩ := Lint.of_uppercasePattern_mem_lint h
  have hpattern := selectorPattern?_eq_some.mpr ⟨hne, hp⟩
  refine ⟨p, hp, fun hdemands r hfind => ?_, fun hlook hdemands => ?_⟩
  · have hmatches := PatternSet.matchesWhole_of_findWhole hselector hpattern hfind
    rw [Pattern.not_matchesWhole_lowercase hdemands] at hmatches
    exact Bool.false_ne_true hmatches
  · obtain ⟨t, ht, hmatches⟩ := Pattern.exists_noUpper_matchesWhole hlook hdemands
    rw [← Text.lowercase_of_noUpper ht] at hmatches
    exact ⟨t, hmatches, PatternSet.exists_findWhole_le hselector hpattern hmatches⟩

/-- `Male#m|#d`, whose first selector begins with an upper-case letter that it matches. -/
def capitalTemplate : Text := "Male#m|#d".toList

theorem capitalTemplate_warning_right :
    .uppercasePattern 0 "Male".toList ∈ lint capitalTemplate .standard ∧
    ∃ p, compileSelector "Male".toList .standard = .ok p ∧ p.expr.DemandsUpper ∧
      (PatternSet.compile (Choices.parse capitalTemplate) .standard).findWhole?
        (Text.lowercase "Male".toList) ≠ some 0 := by
  have h : .uppercasePattern 0 "Male".toList ∈ lint capitalTemplate .standard := by decide
  obtain ⟨p, hp, hnever, -⟩ := uppercase_warning_right_iff_demanded capitalTemplate .standard 0
    "Male".toList h
  have hdemands : p.expr.DemandsUpper := by
    cases hp
    refine Or.inl fun c hc => ?_
    replace hc : (Pattern.CharSet.single 'M').contains c = true := hc
    rw [Pattern.CharSet.contains_single, beq_iff_eq] at hc
    subst hc
    rfl
  exact ⟨h, p, hp, hdemands, hnever hdemands "Male".toList⟩

/-- A template whose first selector is the class of all letters. The upper-case letter is the name
of the class, and the class has letters of both cases. -/
def letterClassTemplate : Text := ['\\', 'p', '\x7b', 'L', '\x7d', '#', 'x', '|', '#', 'd']

theorem property_name_matches_lower_case :
    .uppercasePattern 0 ['\\', 'p', '\x7b', 'L', '\x7d'] ∈ lint letterClassTemplate .standard ∧
    (PatternSet.compile (Choices.parse letterClassTemplate) .standard).findWhole?
      (Text.lowercase ['a']) = some 0 := by
  decide +kernel

end ChoiceTemplate
