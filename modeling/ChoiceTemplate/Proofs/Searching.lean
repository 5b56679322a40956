import ChoiceTemplate.Pattern.Basic

/-
  What a search finds.

  `Step` says how an expression goes on without reading a character, one move at a time and with no
  regard to what was tried before, and `Reads` how a way reads a text. The search keeps lists of the
  ways that it has entered and enters none twice. This file

    1. shows that it reports no thread that the moves do not lead to (`expandAll_leads`);
    2. shows that it misses none: when a way has been followed to its end, every way that was entered
       has been explored, its moves lead to ways that were entered too, and so what they lead to has
       been reported (`expandAll_covers`). A way whose expansion is still going on is the one
       exception; `Completes` takes the list of those as `pending`;
    3. lifts both from one place to a whole text: the search matches at a place exactly where `Reads`
       says that a beginning of the text can be read (`reads_of_matchAt`, `matchAt_of_reads`,
       `reads_of_matchesWhole`).
-/
namespace ChoiceTemplate.Pattern

/-! ## Moves -/

/-- One way of going on becomes another one at a place, without a character being read. -/
inductive Step (ctx : Context) : List Expr → List Expr → Prop
  | empty {after : List Expr} : Step ctx (.empty :: after) after
  | look {place : Look} {after : List Expr} :
      place.holds ctx = true → Step ctx (.look place :: after) after
  | seq {a b : Expr} {after : List Expr} : Step ctx (.seq a b :: after) (a :: b :: after)
  | altLeft {a b : Expr} {after : List Expr} : Step ctx (.alt a b :: after) (a :: after)
  | altRight {a b : Expr} {after : List Expr} : Step ctx (.alt a b :: after) (b :: after)
  | exactlyStop {e : Expr} {after : List Expr} : Step ctx (.exactly 0 e :: after) after
  | exactlyMore {n : Nat} {e : Expr} {after : List Expr} :
      Step ctx (.exactly (n + 1) e :: after) (e :: .exactly n e :: after)
  | upToStop {greedy : Bool} {n : Nat} {e : Expr} {after : List Expr} :
      Step ctx (.upTo greedy n e :: after) after
  | upToMore {greedy : Bool} {n : Nat} {e : Expr} {after : List Expr} :
      Step ctx (.upTo greedy (n + 1) e :: after) (e :: .upTo greedy n e :: after)
  | plus {greedy : Bool} {e : Expr} {after : List Expr} :
      Step ctx (.plus greedy e :: after) (e :: .again greedy e :: after)
  | againStop {greedy : Bool} {e : Expr} {after : List Expr} :
      Step ctx (.again greedy e :: after) after
  | againMore {greedy : Bool} {e : Expr} {after : List Expr} :
      Step ctx (.again greedy e :: after) (e :: .again greedy e :: after)

/-- The thread that a way is when no move is left. -/
inductive Ends : List Expr → Thread → Prop
  | done : Ends [] .done
  | reading {place : Nat} {set : CharSet} {after : List Expr} :
      Ends (.one place set :: after) (.reading set after)

/-- Some moves lead from a way to a thread. -/
inductive Leads (ctx : Context) : List Expr → Thread → Prop
  | ends {way : List Expr} {th : Thread} : Ends way th → Leads ctx way th
  | step {way next : List Expr} {th : Thread} :
      Step ctx way next → Leads ctx next th → Leads ctx way th

/-- A way can read `t` after the character `before`, with `rest` behind it. -/
inductive Reads : (before : Option Char) → (way : List Expr) → (t rest : Text) → Prop
  | done {before : Option Char} {way : List Expr} {rest : Text} :
      Leads ⟨before, rest.head?⟩ way .done → Reads before way [] rest
  | read {before : Option Char} {way next : List Expr} {set : CharSet} {c : Char} {t rest : Text} :
      Leads ⟨before, some c⟩ way (.reading set next) → set.contains c = true →
      Reads (some c) next t rest → Reads before way (c :: t) rest

section
variable {ctx : Context} {before : Option Char} {way next after : List Expr} {th : Thread}
  {t rest : Text}

theorem Reads.step (hstep : Step ⟨before, (t ++ rest).head?⟩ way next)
    (h : Reads before next t rest) : Reads before way t rest := by
  cases h with
  | done hleads => exact .done (.step hstep hleads)
  | read hleads hc hnext => exact .read (.step hstep hleads) hc hnext

theorem Reads.one {place : Nat} {set : CharSet} {c : Char} (hc : set.contains c = true)
    (h : Reads (some c) after t rest) : Reads before (.one place set :: after) (c :: t) rest :=
  .read (.ends .reading) hc h

theorem reads_nil : Reads before [] t rest ↔ t = [] := by
  constructor
  · intro h
    cases h with
    | done _ => rfl
    | read hleads _ _ =>
      cases hleads with
      | ends hend => cases hend
      | step hstep _ => cases hstep
  · rintro rfl
    exact .done (.ends .done)

theorem leads_one {place : Nat} {set : CharSet} :
    Leads ctx (.one place set :: after) th ↔ th = .reading set after := by
  constructor
  · intro h
    cases h with
    | ends hend => cases hend; rfl
    | step hstep _ => cases hstep
  · rintro rfl
    exact .ends .reading

theorem leads_seq {a b : Expr} :
    Leads ctx (.seq a b :: after) th ↔ Leads ctx (a :: b :: after) th := by
  constructor
  · intro h
    cases h with
    | ends hend => cases hend
    | step hstep hnext => cases hstep; exact hnext
  · exact .step .seq

end

section
variable {before : Option Char} {after : List Expr} {t rest : Text}

theorem of_reads_one {place : Nat} {set : CharSet}
    (h : Reads before (.one place set :: after) t rest) :
    ∃ c u, t = c :: u ∧ set.contains c = true ∧ Reads (some c) after u rest := by
  cases h with
  | done hleads => cases leads_one.mp hleads
  | read hleads hc hnext =>
    cases leads_one.mp hleads
    exact ⟨_, _, rfl, hc, hnext⟩

theorem of_reads_seq {a b : Expr} (h : Reads before (.seq a b :: after) t rest) :
    Reads before (a :: b :: after) t rest := by
  cases h with
  | done hleads => exact .done (leads_seq.mp hleads)
  | read hleads hc hnext => exact .read (leads_seq.mp hleads) hc hnext

end

/-! ## Nothing is found that is not there -/

/-- Whatever `go` finds in addition, moves lead to it from a way. -/
def OnlyLeads (ctx : Context) (way : List Expr) (go : Sweep → Sweep) : Prop :=
  ∀ s, ∀ th ∈ (go s).threads, th ∈ s.threads ∨ Leads ctx way th

section
variable {ctx : Context} {way next after : List Expr} {go pass : Sweep → Sweep} {e : Expr}

theorem OnlyLeads.enter (h : OnlyLeads ctx way go) (entry : List Expr) :
    OnlyLeads ctx way (Sweep.enter entry go) := by
  intro s th hth
  rw [Sweep.enter] at hth
  split at hth
  · exact Or.inl hth
  · exact h { s with entered := entry :: s.entered } th hth

theorem OnlyLeads.comp {go' : Sweep → Sweep} (h : OnlyLeads ctx way go)
    (h' : OnlyLeads ctx way go') : OnlyLeads ctx way fun s => go' (go s) := by
  intro s th hth
  rcases h' (go s) th hth with hth | hth
  · exact h s th hth
  · exact Or.inr hth

theorem OnlyLeads.step (hstep : Step ctx way next) (h : OnlyLeads ctx next go) :
    OnlyLeads ctx way go :=
  fun s th hth => (h s th hth).imp_right (.step hstep)

theorem OnlyLeads.id : OnlyLeads ctx way id := fun _ _ hth => Or.inl hth

/-- What is reported when an expression is followed is what moves lead to, provided that this holds
of what follows it. -/
theorem expand_leads (e : Expr) : ∀ {after : List Expr} {pass : Sweep → Sweep},
    OnlyLeads ctx after pass → OnlyLeads ctx (e :: after) (e.expand ctx after pass) := by
  induction e with
  | empty =>
    intro after pass h
    exact (OnlyLeads.step .empty h).enter _
  | one place set =>
    intro after pass _
    refine OnlyLeads.enter ?_ _
    intro s th hth
    rcases List.mem_cons.mp hth with rfl | hth
    · exact Or.inr (.ends .reading)
    · exact Or.inl hth
  | look place =>
    intro after pass h
    refine OnlyLeads.enter ?_ _
    show OnlyLeads ctx _ (if place.holds ctx then pass else id)
    split
    · next hp => exact h.step (.look hp)
    · exact .id
  | seq a b iha ihb =>
    intro after pass h
    exact ((iha (ihb h)).step .seq).enter _
  | alt a b iha ihb =>
    intro after pass h
    exact (((iha h).step .altLeft).comp ((ihb h).step .altRight)).enter _
  | exactly n e ih =>
    intro after pass h
    refine OnlyLeads.enter ?_ _
    induction n with
    | zero => exact h.step .exactlyStop
    | succ n ihn => exact (ih (ihn.enter _)).step .exactlyMore
  | upTo greedy n e ih =>
    intro after pass h
    refine OnlyLeads.enter ?_ _
    induction n with
    | zero => exact h.step .upToStop
    | succ n ihn =>
      have honce : OnlyLeads ctx (.upTo greedy (n + 1) e :: after) _ :=
        (ih (ihn.enter (.upTo greedy n e :: after))).step .upToMore
      have hpass : OnlyLeads ctx (.upTo greedy (n + 1) e :: after) pass := h.step .upToStop
      cases greedy with
      | true => exact honce.comp hpass
      | false => exact hpass.comp honce
  | plus greedy e ih =>
    intro after pass h
    exact ((ih ((h.step .againStop).enter _)).step .plus).enter _
  | again greedy e ih =>
    intro after pass h
    have honce : OnlyLeads ctx (.again greedy e :: after) _ := (ih .id).step .againMore
    have hpass : OnlyLeads ctx (.again greedy e :: after) pass := h.step .againStop
    refine OnlyLeads.enter ?_ _
    cases greedy with
    | true => exact honce.comp hpass
    | false => exact hpass.comp honce

theorem expandAll_leads (way : List Expr) : OnlyLeads ctx way (expandAll ctx way) := by
  induction way with
  | nil =>
    refine OnlyLeads.enter ?_ _
    intro s th hth
    rcases List.mem_cons.mp hth with rfl | hth
    · exact Or.inr (.ends .done)
    · exact Or.inl hth
  | cons e after ih => exact expand_leads e ih

end

/-! ## Nothing that is there is missed -/

/-- What was found before is still there. -/
structure Sweep.Extends (s s' : Sweep) : Prop where
  entered : s.entered ⊆ s'.entered
  threads : s.threads ⊆ s'.threads

/-- Every move of a way leads to one that was entered, and the thread that it is was reported. -/
structure Explored (ctx : Context) (s : Sweep) (way : List Expr) : Prop where
  moves : ∀ next, Step ctx way next → next ∈ s.entered
  threads : ∀ th, Ends way th → th ∈ s.threads

/-- When `go` is done, `goal` holds, and each way that `go` entered has been explored. The ways in
`pending` were entered before; `go` may rely on it that they will be explored. -/
def Completes (ctx : Context) (pending : List (List Expr)) (go : Sweep → Sweep)
    (goal : Sweep → Prop) : Prop :=
  ∀ s, pending ⊆ s.entered → s.Extends (go s) ∧ goal (go s) ∧
    ∀ x ∈ (go s).entered, x ∈ s.entered ∨ Explored ctx (go s) x

/-- When `go` is done, a way has been entered. -/
def Covers (ctx : Context) (pending : List (List Expr)) (go : Sweep → Sweep)
    (way : List Expr) : Prop :=
  Completes ctx pending go fun s => way ∈ s.entered

theorem Sweep.Extends.rfl {s : Sweep} : s.Extends s := ⟨List.Subset.refl _, List.Subset.refl _⟩

theorem Sweep.Extends.trans {s s' s'' : Sweep} (h : s.Extends s') (h' : s'.Extends s'') :
    s.Extends s'' :=
  ⟨List.Subset.trans h.entered h'.entered, List.Subset.trans h.threads h'.threads⟩

section
variable {ctx : Context} {s s' : Sweep} {way after : List Expr} {pending : List (List Expr)}
  {go go' pass : Sweep → Sweep} {goal goal' : Sweep → Prop}

theorem Explored.extend (h : Explored ctx s way) (he : s.Extends s') : Explored ctx s' way :=
  ⟨fun next hstep => he.entered (h.moves next hstep), fun th hend => he.threads (h.threads th hend)⟩

theorem Completes.mono {pending' : List (List Expr)} (h : Completes ctx pending go goal)
    (hsub : pending ⊆ pending') : Completes ctx pending' go goal :=
  fun s hs => h s (List.Subset.trans hsub hs)

theorem Completes.imp (h : Completes ctx pending go goal)
    (himp : ∀ s, pending ⊆ s.entered → goal s → goal' s) : Completes ctx pending go goal' := by
  intro s hs
  obtain ⟨hext, hgoal, hnew⟩ := h s hs
  exact ⟨hext, himp _ (List.Subset.trans hs hext.entered) hgoal, hnew⟩

theorem Completes.id (h : ∀ s : Sweep, pending ⊆ s.entered → goal s) :
    Completes ctx pending id goal :=
  fun s hs => ⟨.rfl, h s hs, fun _ hx => Or.inl hx⟩

theorem Covers.comp {way' : List Expr} (h : Covers ctx pending go way)
    (h' : Covers ctx pending go' way') :
    Completes ctx pending (fun s => go' (go s)) fun s => way ∈ s.entered ∧ way' ∈ s.entered := by
  intro s hs
  obtain ⟨hext, hway, hnew⟩ := h s hs
  obtain ⟨hext', hway', hnew'⟩ := h' (go s) (List.Subset.trans hs hext.entered)
  refine ⟨hext.trans hext', ⟨hext'.entered hway, hway'⟩, fun x hx => ?_⟩
  rcases hnew' x hx with hx | hx
  · exact (hnew x hx).imp_right fun he => he.extend hext'
  · exact Or.inr hx

/-- A way that is entered counts as pending until it has been explored. -/
theorem Completes.enter (h : Completes ctx (way :: pending) go fun s => Explored ctx s way) :
    Covers ctx pending (Sweep.enter way go) way := by
  intro s hs
  rw [Sweep.enter]
  split
  · next hin => exact ⟨.rfl, by simpa using hin, fun _ hx => Or.inl hx⟩
  · have hfirst : s.Extends { s with entered := way :: s.entered } :=
      ⟨List.subset_cons_self _ _, List.Subset.refl _⟩
    obtain ⟨hext, hway, hnew⟩ := h { s with entered := way :: s.entered } (List.cons_subset_cons _ hs)
    refine ⟨hfirst.trans hext, hext.entered List.mem_cons_self, fun x hx => ?_⟩
    rcases hnew x hx with hx | hx
    · rcases List.mem_cons.mp hx with rfl | hx
      · exact Or.inr hway
      · exact Or.inl hx
    · exact Or.inr hx

theorem Completes.add {th : Thread} (hmoves : ∀ next, ¬Step ctx way next)
    (hends : ∀ th', Ends way th' → th' = th) :
    Completes ctx pending (Sweep.add th) fun s => Explored ctx s way := by
  intro s _
  refine ⟨⟨List.Subset.refl _, List.subset_cons_self _ _⟩, ⟨fun next h => ?_, fun th' h => ?_⟩,
    fun _ hx => Or.inl hx⟩
  · exact absurd h (hmoves next)
  · exact hends th' h ▸ List.mem_cons_self

/-- A way with a single move has been explored when the way that it leads to is entered. -/
theorem Covers.explored {next : List Expr} (h : Covers ctx pending go next)
    (hmoves : ∀ x, Step ctx way x → x = next) (hends : ∀ th, ¬Ends way th) :
    Completes ctx pending go fun s => Explored ctx s way :=
  h.imp fun _ _ hnext => ⟨fun x hx => hmoves x hx ▸ hnext, fun th hth => absurd hth (hends th)⟩

/-- A way with two moves has been explored when both have been followed, in whatever order. -/
theorem Covers.explored_both {a b : List Expr} (h : Covers ctx pending go a)
    (h' : Covers ctx pending go' b) (hmoves : ∀ x, Step ctx way x → x = a ∨ x = b)
    (hends : ∀ th, ¬Ends way th) :
    Completes ctx pending (fun s => go' (go s)) fun s => Explored ctx s way := by
  refine (h.comp h').imp fun s _ hboth =>
    ⟨fun x hx => ?_, fun th hth => absurd hth (hends th)⟩
  rcases hmoves x hx with rfl | rfl
  · exact hboth.1
  · exact hboth.2

theorem expandExactly_completes {follow : Expansion} {e : Expr}
    (hfollow : ∀ {pending after pass}, Covers ctx ((e :: after) :: pending) pass after →
      Covers ctx pending (follow after pass) (e :: after)) (n : Nat) :
    ∀ {pending : List (List Expr)}, Covers ctx pending pass after →
      Completes ctx pending (expandExactly follow e n after pass)
        fun s => Explored ctx s (.exactly n e :: after) := by
  induction n with
  | zero => exact fun h => h.explored (fun _ hx => by cases hx; rfl) nofun
  | succ n ih =>
    intro pending h
    have hrest : Covers ctx ((e :: .exactly n e :: after) :: pending) _ (.exactly n e :: after) :=
      (ih (h.mono fun x hx => List.mem_cons_of_mem _ (List.mem_cons_of_mem _ hx))).enter
    exact (hfollow hrest).explored (fun _ hx => by cases hx; rfl) nofun

theorem expandUpTo_completes {follow : Expansion} {greedy : Bool} {e : Expr}
    (hfollow : ∀ {pending after pass}, Covers ctx ((e :: after) :: pending) pass after →
      Covers ctx pending (follow after pass) (e :: after)) (n : Nat) :
    ∀ {pending : List (List Expr)}, Covers ctx pending pass after →
      Completes ctx pending (expandUpTo follow greedy e n after pass)
        fun s => Explored ctx s (.upTo greedy n e :: after) := by
  induction n with
  | zero => exact fun h => h.explored (fun _ hx => by cases hx; rfl) nofun
  | succ n ih =>
    intro pending h
    have hrest : Covers ctx ((e :: .upTo greedy n e :: after) :: pending) _
        (.upTo greedy n e :: after) :=
      (ih (h.mono fun x hx => List.mem_cons_of_mem _ (List.mem_cons_of_mem _ hx))).enter
    have honce : Covers ctx pending _ (e :: .upTo greedy n e :: after) := hfollow hrest
    cases greedy with
    | true => exact honce.explored_both h (fun _ hx => by cases hx <;> simp) nofun
    | false => exact h.explored_both honce (fun _ hx => by cases hx <;> simp) nofun

/-- Following an expression explores every way that it enters, provided that what follows the
expression does so too. -/
theorem expand_covers (e : Expr) : ∀ {pending : List (List Expr)} {after : List Expr}
    {pass : Sweep → Sweep}, Covers ctx ((e :: after) :: pending) pass after →
    Covers ctx pending (e.expand ctx after pass) (e :: after) := by
  induction e with
  | empty => exact fun h => Completes.enter (h.explored (fun _ hx => by cases hx; rfl) nofun)
  | one place set =>
    intro pending after pass _
    exact (Completes.add (fun _ h => by cases h) fun th' h => by cases h; rfl).enter
  | look place =>
    intro pending after pass h
    refine Completes.enter ?_
    show Completes ctx _ (if place.holds ctx then pass else id) _
    split
    · exact h.explored (fun _ hx => by cases hx; rfl) nofun
    · next hp =>
      -- The place is not as asked for, so there is no move.
      refine Completes.id fun s _ => ⟨fun next hstep => ?_, nofun⟩
      cases hstep with
      | look hholds => exact absurd hholds hp
  | seq a b iha ihb =>
    intro pending after pass h
    have hb : Covers ctx ((a :: b :: after) :: (.seq a b :: after) :: pending) _ (b :: after) :=
      ihb (h.mono fun x hx => List.mem_cons_of_mem _ (List.mem_cons_of_mem _ hx))
    exact Completes.enter ((iha hb).explored (fun _ hx => by cases hx; rfl) nofun)
  | alt a b iha ihb =>
    intro pending after pass h
    have ha : Covers ctx ((.alt a b :: after) :: pending) _ (a :: after) :=
      iha (h.mono fun x hx => List.mem_cons_of_mem _ hx)
    have hb : Covers ctx ((.alt a b :: after) :: pending) _ (b :: after) :=
      ihb (h.mono fun x hx => List.mem_cons_of_mem _ hx)
    exact Completes.enter (ha.explored_both hb (fun _ hx => by cases hx <;> simp) nofun)
  | exactly n e ih => exact fun h => (expandExactly_completes ih n h).enter
  | upTo greedy n e ih => exact fun h => (expandUpTo_completes ih n h).enter
  | plus greedy e ih =>
    intro pending after pass h
    -- The loop is entered after a first pass, whose beginning is where the loop leads back to.
    have hloop : Completes ctx ((.again greedy e :: after) :: (e :: .again greedy e :: after) ::
        (.plus greedy e :: after) :: pending) pass
        fun s => Explored ctx s (.again greedy e :: after) := by
      refine Completes.imp
        (h.mono fun x hx => List.mem_cons_of_mem _ (List.mem_cons_of_mem _ hx))
        fun s hs hafter => ⟨fun next hstep => ?_, nofun⟩
      cases hstep
      · exact hafter
      · exact hs (by simp)
    exact Completes.enter ((ih hloop.enter).explored (fun _ hx => by cases hx; rfl) nofun)
  | again greedy e ih =>
    intro pending after pass h
    -- A pass leads back to the loop itself, which is pending.
    have honce : Covers ctx ((.again greedy e :: after) :: pending) _
        (e :: .again greedy e :: after) := ih (Completes.id fun s hs => hs (by simp))
    refine Completes.enter ?_
    cases greedy with
    | true => exact honce.explored_both h (fun _ hx => by cases hx <;> simp) nofun
    | false => exact h.explored_both honce (fun _ hx => by cases hx <;> simp) nofun

theorem expandAll_covers (way : List Expr) : Covers ctx [] (expandAll ctx way) way := by
  induction way with
  | nil => exact (Completes.add (fun _ h => by cases h) fun th' h => by cases h; rfl).enter
  | cons e after ih => exact expand_covers e (ih.mono (List.nil_subset _))

/-- Nothing that was entered is still to be explored. -/
def Sweep.Closed (ctx : Context) (s : Sweep) : Prop := ∀ x ∈ s.entered, Explored ctx s x

theorem Sweep.closed_start : Sweep.start.Closed ctx := nofun

theorem Sweep.Closed.expandAll (h : s.Closed ctx) (way : List Expr) :
    (expandAll ctx way s).Closed ctx := by
  obtain ⟨hext, -, hnew⟩ := expandAll_covers way s (List.nil_subset _)
  intro x hx
  rcases hnew x hx with hx | hx
  · exact (h x hx).extend hext
  · exact hx

/-- Where nothing is left to be explored, all threads have been reported. -/
theorem Sweep.Closed.reports {th : Thread} (h : s.Closed ctx) (hleads : Leads ctx way th)
    (hway : way ∈ s.entered) : th ∈ s.threads := by
  induction hleads with
  | ends hend => exact (h _ hway).threads _ hend
  | step hstep _ ih => exact ih ((h _ hway).moves _ hstep)

end

/-! ## From a place to a text -/

section
variable {ctx : Context} {c : Char} {threads : List Thread} {s : Sweep}

/-- The threads of a way are those that moves lead to. -/
theorem mem_threadsOf {way : List Expr} {th : Thread} :
    th ∈ threadsOf ctx way ↔ Leads ctx way th := by
  rw [threadsOf, List.mem_reverse]
  constructor
  · intro h
    exact (expandAll_leads way _ th h).resolve_left List.not_mem_nil
  · intro h
    have hway := (@expandAll_covers ctx way Sweep.start (List.nil_subset _)).2.1
    exact (Sweep.closed_start.expandAll way).reports h hway

theorem of_mem_advanceFrom {th : Thread} (h : th ∈ (advanceFrom ctx c threads s).threads) :
    th ∈ s.threads ∨
      ∃ set next, .reading set next ∈ threads ∧ set.contains c = true ∧ Leads ctx next th := by
  induction threads generalizing s with
  | nil => exact Or.inl h
  | cons first threads ih =>
    cases first with
    | done => exact Or.inl h
    | reading set next =>
      rcases ih h with h | ⟨set', next', hmem, hc, hleads⟩
      · by_cases hc : set.contains c = true
        · rw [if_pos hc] at h
          exact (expandAll_leads next s th h).imp_right fun hleads =>
            ⟨set, next, List.mem_cons_self, hc, hleads⟩
        · rw [if_neg hc] at h
          exact Or.inl h
      · exact Or.inr ⟨set', next', List.mem_cons_of_mem _ hmem, hc, hleads⟩

theorem advanceFrom_extends (h : Thread.done ∉ threads) : s.Extends (advanceFrom ctx c threads s) := by
  induction threads generalizing s with
  | nil => exact .rfl
  | cons first threads ih =>
    cases first with
    | done => exact absurd List.mem_cons_self h
    | reading set next =>
      have hrest : Thread.done ∉ threads := fun hmem => h (List.mem_cons_of_mem _ hmem)
      rw [advanceFrom]
      split
      · exact (expandAll_covers next s (List.nil_subset _)).1.trans (ih hrest)
      · exact ih hrest

theorem mem_advanceFrom {set : CharSet} {next : List Expr} {th : Thread} (hclosed : s.Closed ctx)
    (hdone : .done ∉ threads) (hmem : .reading set next ∈ threads) (hc : set.contains c = true)
    (hleads : Leads ctx next th) : th ∈ (advanceFrom ctx c threads s).threads := by
  induction threads generalizing s with
  | nil => exact absurd hmem List.not_mem_nil
  | cons first threads ih =>
    have hrest : Thread.done ∉ threads := fun h => hdone (List.mem_cons_of_mem _ h)
    cases first with
    | done => exact absurd List.mem_cons_self hdone
    | reading set' next' =>
      rw [advanceFrom]
      rcases List.mem_cons.mp hmem with heq | hmem
      · obtain ⟨rfl, rfl⟩ : set = set' ∧ next = next' := by simpa using heq
        rw [if_pos hc]
        have hway := (@expandAll_covers ctx next s (List.nil_subset _)).2.1
        exact (advanceFrom_extends hrest).threads ((hclosed.expandAll next).reports hleads hway)
      · refine ih ?_ hrest hmem
        split
        · exact hclosed.expandAll next'
        · exact hclosed

end

/-- One of some threads can read `t`, with `rest` behind it. -/
def Accepts (threads : List Thread) (t rest : Text) : Prop :=
  match t with
  | [] => .done ∈ threads
  | c :: t => ∃ set next, .reading set next ∈ threads ∧ set.contains c = true ∧
      Reads (some c) next t rest

section
variable {before : Option Char} {way : List Expr} {threads : List Thread} {c : Char}
  {t rest : Text}

theorem reads_iff_accepts :
    Reads before way t rest ↔ Accepts (threadsOf ⟨before, (t ++ rest).head?⟩ way) t rest := by
  constructor
  · intro h
    cases h with
    | done h => exact mem_threadsOf.mpr h
    | read h hc hnext => exact ⟨_, _, mem_threadsOf.mpr h, hc, hnext⟩
  · intro h
    cases t with
    | nil => exact .done (mem_threadsOf.mp h)
    | cons c t =>
      obtain ⟨set, next, hmem, hc, hnext⟩ := h
      exact .read (mem_threadsOf.mp hmem) hc hnext

theorem of_accepts_advanceThreads
    (h : Accepts (advanceThreads ⟨some c, (t ++ rest).head?⟩ c threads) t rest) :
    Accepts threads (c :: t) rest := by
  have hback : ∀ th ∈ advanceThreads ⟨some c, (t ++ rest).head?⟩ c threads,
      ∃ set next, .reading set next ∈ threads ∧ set.contains c = true ∧
        th ∈ threadsOf ⟨some c, (t ++ rest).head?⟩ next := by
    intro th hth
    obtain ⟨set, next, hmem, hc, hleads⟩ :=
      (of_mem_advanceFrom (List.mem_reverse.mp hth)).resolve_left List.not_mem_nil
    exact ⟨set, next, hmem, hc, mem_threadsOf.mpr hleads⟩
  cases t with
  | nil =>
    obtain ⟨set, next, hmem, hc, hth⟩ := hback .done h
    exact ⟨set, next, hmem, hc, reads_iff_accepts.mpr hth⟩
  | cons d t =>
    obtain ⟨set', next', hmem', hd, hnext'⟩ := h
    obtain ⟨set, next, hmem, hc, hth⟩ := hback _ hmem'
    exact ⟨set, next, hmem, hc, reads_iff_accepts.mpr ⟨set', next', hth, hd, hnext'⟩⟩

theorem accepts_advanceThreads (hdone : .done ∉ threads) (h : Accepts threads (c :: t) rest) :
    Accepts (advanceThreads ⟨some c, (t ++ rest).head?⟩ c threads) t rest := by
  obtain ⟨set, next, hmem, hc, hnext⟩ := h
  have hforth : ∀ th ∈ threadsOf ⟨some c, (t ++ rest).head?⟩ next,
      th ∈ advanceThreads ⟨some c, (t ++ rest).head?⟩ c threads := fun th hth =>
    List.mem_reverse.mpr
      (mem_advanceFrom Sweep.closed_start hdone hmem hc (mem_threadsOf.mp hth))
  have hway := reads_iff_accepts.mp hnext
  cases t with
  | nil => exact hforth _ hway
  | cons d t =>
    obtain ⟨set', next', hmem', hd, hnext'⟩ := hway
    exact ⟨set', next', hforth _ hmem', hd, hnext'⟩

theorem of_runThreads_eq_some {u read w : Text} {best : Option Text}
    (h : runThreads threads read best u = some w) :
    best = some w ∨
      ∃ t rest, u = t ++ rest ∧ w = read.reverse ++ t ∧ Accepts threads t rest := by
  induction u generalizing threads read best with
  | nil =>
    rw [runThreads] at h
    split at h
    · next hdone =>
      exact Or.inr ⟨[], [], rfl, by simpa using h.symm, List.contains_iff_mem.mp hdone⟩
    · exact Or.inl h
  | cons c u ih =>
    -- What was best before this place stays, unless a thread is done here.
    have hbest : (if threads.contains .done then some read.reverse else best) = some w →
        best = some w ∨
          ∃ t rest, c :: u = t ++ rest ∧ w = read.reverse ++ t ∧ Accepts threads t rest := by
      intro h
      split at h
      · next hdone =>
        exact Or.inr ⟨[], c :: u, rfl, by simpa using h.symm, List.contains_iff_mem.mp hdone⟩
      · exact Or.inl h
    rw [runThreads] at h
    split at h
    · exact hbest h
    · rcases ih h with h | ⟨t, rest, rfl, rfl, hacc⟩
      · exact hbest h
      · exact Or.inr ⟨c :: t, rest, rfl, by simp, of_accepts_advanceThreads hacc⟩

theorem runThreads_isSome_of_best {u read w : Text} :
    (runThreads threads read (some w) u).isSome = true := by
  induction u generalizing threads read w with
  | nil => rw [runThreads]; split <;> rfl
  | cons c u ih =>
    rw [runThreads]
    split
    · split <;> rfl
    · split <;> exact ih

theorem runThreads_isSome_of_done {u read : Text} {best : Option Text}
    (h : .done ∈ threads) : (runThreads threads read best u).isSome = true := by
  cases u with
  | nil => simp [runThreads, h]
  | cons c u =>
    have hne : threads.isEmpty = false := by
      cases threads with
      | nil => exact absurd h List.not_mem_nil
      | cons th threads => rfl
    simp only [runThreads, List.contains_eq_mem, h, decide_true, hne, if_true]
    exact runThreads_isSome_of_best

theorem runThreads_isSome {read : Text} {best : Option Text} (h : Accepts threads t rest) :
    (runThreads threads read best (t ++ rest)).isSome = true := by
  induction t generalizing threads read best with
  | nil => exact runThreads_isSome_of_done h
  | cons c t ih =>
    by_cases hdone : Thread.done ∈ threads
    · exact runThreads_isSome_of_done hdone
    · have hne : threads.isEmpty = false := by
        obtain ⟨set, next, hmem, -⟩ := h
        cases threads with
        | nil => exact absurd hmem List.not_mem_nil
        | cons th threads => rfl
      simp only [List.cons_append, runThreads, List.contains_eq_mem, hdone, decide_false, hne]
      exact ih (accepts_advanceThreads hdone h)

end

/-! ## Matches -/

section
variable {e : Expr} {before : Option Char}

/-- **What matches can be read.** -/
theorem reads_of_matchAt {u w : Text} (h : e.matchAt? before u = some w) :
    ∃ rest, u = w ++ rest ∧ Reads before [e] w rest := by
  rcases of_runThreads_eq_some h with h | ⟨t, rest, rfl, rfl, hacc⟩
  · cases h
  · exact ⟨rest, rfl, reads_iff_accepts.mpr hacc⟩

/-- **Where something can be read, something matches.** It need not be the same text, since another
one may be preferred. -/
theorem matchAt_of_reads {t rest : Text} (h : Reads before [e] t rest) :
    (e.matchAt? before (t ++ rest)).isSome = true :=
  runThreads_isSome (reads_iff_accepts.mp h)

theorem length_covered_of_findFrom {passed t : Text} {m : Match}
    (h : e.findFrom? passed t = some m) : m.covered.length ≤ t.length := by
  have hmatch : ∀ {b u w}, e.matchAt? b u = some w → w.length ≤ u.length := by
    intro b u w h
    obtain ⟨rest, rfl, -⟩ := reads_of_matchAt h
    simp
  induction t generalizing passed with
  | nil =>
    obtain ⟨w, hw, rfl⟩ := Option.map_eq_some_iff.mp h
    exact hmatch hw
  | cons c t ih =>
    rw [Expr.findFrom?] at h
    split at h
    · next w hw =>
      cases h
      exact hmatch hw
    · have := ih h
      simp only [List.length_cons]
      omega

theorem find_of_matchAt {t w : Text} (h : e.matchAt? none t = some w) :
    e.find? t = some ⟨[], w⟩ := by
  cases t <;> simp [Expr.find?, Expr.findFrom?, h]

theorem length_covered_lt_of_find {t : Text} {m : Match} (h : e.matchAt? none t = none)
    (hm : e.find? t = some m) : m.covered.length < t.length := by
  cases t with
  | nil => simp [Expr.find?, Expr.findFrom?, h] at hm
  | cons c t =>
    simp only [Expr.find?, Expr.findFrom?, List.head?_nil, h] at hm
    exact Nat.lt_succ_of_le (length_covered_of_findFrom hm)

end

section
variable {p : PatternEngine.Compiled} {t : Text}

/-- The first match is the whole text exactly when what matches at its beginning is: a match that
begins further on is shorter. -/
theorem matchesWhole_iff : p.matchesWhole t = true ↔ p.expr.matchAt? none t = some t := by
  have hsearch : PatternEngine.search p t = p.expr.find? t := rfl
  rw [PatternEngine.Compiled.matchesWhole, hsearch]
  cases hw : p.expr.matchAt? none t with
  | some w => simp [find_of_matchAt hw]
  | none =>
    cases hm : p.expr.find? t with
    | none => simp
    | some m =>
      have hlt := length_covered_lt_of_find hw hm
      have hne : m.covered ≠ t := by
        rintro rfl
        exact Nat.lt_irrefl _ hlt
      simp [hne]

theorem reads_of_matchesWhole (h : p.matchesWhole t = true) : Reads none [p.expr] t [] := by
  obtain ⟨rest, heq, hreads⟩ := reads_of_matchAt (matchesWhole_iff.mp h)
  obtain rfl : rest = [] := by simpa using heq
  exact hreads

end

end ChoiceTemplate.Pattern
