import ChoiceTemplate.Placeholder
import ChoiceTemplate.Proofs.Splitting
import Mathlib.Data.List.Find
import Mathlib.Data.List.Nodup

/-
  Placeholders filled one after another and all at once.

  `fill` replaces one placeholder after another, each time in the text that the values before have
  left. `fillAtOnce` reads the original text a single time and writes a value wherever a
  placeholder occurs there for the first time. This file

    1. cuts a text in which no brace opens while another one is open at its placeholders
       (`segmented_of_neverNests`);
    2. shows that both ways of filling take the first placeholder `p {key} t` apart in the same
       manner: `p` stays, the placeholder becomes its value if it has one, and what follows is
       filled with the other entries (`foldl_fillOne_placeholder`, `fillAtOnce_placeholder`). A
       value that opens no brace starts no placeholder, neither by itself nor with its neighbours;
    3. concludes that they agree, in whatever order the entries are taken and however they are
       divided into two passes (`fill_is_simultaneous`).
-/
namespace ChoiceTemplate

/-! ## One pass over the original text -/

/-- Where the first occurrence of `part` in a text begins. -/
def Text.firstPlace? (part t : Text) : Option Nat := (Text.splitAt? part t).map fun cut => cut.1.length

/-- The entry whose placeholder occurs in a text for the first time at `place`. -/
def entryAt? (entries : List (Text × Text)) (t : Text) (place : Nat) : Option (Text × Text) :=
  entries.find? fun e => Text.firstPlace? (placeholder e.1) t = some place

/-- The rest of a text from `place` on with the values of those entries that `found?` puts there.
The first `skip` characters belong to a placeholder whose value is written already. -/
def writeFrom (found? : Nat → Option (Text × Text)) (place : Nat) : (skip : Nat) → Text → Text
  | _, [] => []
  | skip + 1, _ :: t => writeFrom found? (place + 1) skip t
  | 0, c :: t =>
    match found? place with
    | some (key, value) => value ++ writeFrom found? (place + 1) (key.length + 1) t
    | none => c :: writeFrom found? (place + 1) 0 t

/-- A text in which, for each entry, the placeholder that occurs first is replaced by the value
and every other character is left alone. -/
def fillAtOnce (entries : List (Text × Text)) (t : Text) : Text :=
  writeFrom (entryAt? entries t) 0 0 t

/-! ## Texts cut at their placeholders -/

namespace Text

/-- Between any two opening braces there is a closing one. -/
def NeverNests (t : Text) : Prop :=
  ∀ a b c : Text, t = a ++ '\x7b' :: b ++ '\x7b' :: c → '\x7d' ∈ b

/-- Whether a text opens no brace while another one is open. `isOpen` says whether one is open at
its beginning. -/
def neverNestsFrom (isOpen : Bool) : Text → Bool
  | [] => true
  | c :: t =>
    if c = '\x7b' then !isOpen && neverNestsFrom true t
    else neverNestsFrom (isOpen && c ≠ '\x7d') t

theorem neverNestsFrom_iff (isOpen : Bool) (t : Text) :
    neverNestsFrom isOpen t = true ↔
      NeverNests t ∧ (isOpen = true → ∀ b c, t = b ++ '\x7b' :: c → '\x7d' ∈ b) := by
  induction t generalizing isOpen with
  | nil => simp [neverNestsFrom, NeverNests]
  | cons d t ih =>
    rw [neverNestsFrom]
    by_cases hd : d = '\x7b'
    · subst hd
      rw [if_pos rfl, Bool.and_eq_true, Bool.not_eq_true', ih]
      constructor
      · rintro ⟨rfl, hnest, hclose⟩
        refine ⟨?_, fun h => absurd h (by simp)⟩
        intro a b c heq
        cases a with
        | nil => exact hclose rfl b c (List.cons.inj heq).2
        | cons _ a => exact hnest a b c (List.cons.inj heq).2
      · rintro ⟨hnest, hclose⟩
        refine ⟨?_, ?_, ?_⟩
        · cases isOpen with
          | false => rfl
          | true => exact absurd (hclose rfl [] t rfl) List.not_mem_nil
        · exact fun a b c heq => hnest ('\x7b' :: a) b c (by simp [heq])
        · exact fun _ b c heq => hnest [] b c (by simp [heq])
    · rw [if_neg hd, ih]
      constructor
      · rintro ⟨hnest, hclose⟩
        refine ⟨?_, ?_⟩
        · intro a b c heq
          cases a with
          | nil => exact absurd (List.cons.inj heq).1 hd
          | cons _ a => exact hnest a b c (List.cons.inj heq).2
        · intro hopen b c heq
          cases b with
          | nil => exact absurd (List.cons.inj heq).1 hd
          | cons e b =>
            obtain ⟨rfl, rfl⟩ := List.cons.inj heq
            by_cases he : d = '\x7d'
            · simp [he]
            · exact List.mem_cons_of_mem _ (hclose (by simp [hopen, he]) b c rfl)
      · rintro ⟨hnest, hclose⟩
        refine ⟨fun a b c heq => hnest (d :: a) b c (by simp [heq]), ?_⟩
        intro hopen b c heq
        rw [Bool.and_eq_true, decide_eq_true_eq] at hopen
        rcases List.mem_cons.mp (hclose hopen.1 (d :: b) c (by simp [heq])) with he | he
        · exact absurd he.symm hopen.2
        · exact he

instance (t : Text) : Decidable (NeverNests t) :=
  decidable_of_iff (neverNestsFrom false t = true) <| by simp [neverNestsFrom_iff]

/-- A text cut at its placeholders, of which the last part contains none. -/
inductive Segmented : Text → Prop
  | last (t : Text) : (∀ key, splitAt? (placeholder key) t = none) → Segmented t
  | next (p key t : Text) : '\x7b' ∉ p → '\x7b' ∉ key → '\x7d' ∉ key → Segmented t →
      Segmented (p ++ (placeholder key ++ t))

section
variable {c : Char} {p q s t a b key other : Text}

theorem eq_of_splitAt? (h : splitAt? s t = some (a, b)) : t = a ++ (s ++ b) := by
  induction t generalizing a with
  | nil =>
    rw [splitAt?] at h
    split at h
    · next hs =>
      obtain ⟨rfl, rfl⟩ := Prod.mk.inj (Option.some.inj h)
      simp [hs]
    · cases h
  | cons d t ih =>
    rw [splitAt?] at h
    split at h
    · next rest hrest =>
      obtain ⟨rfl, rfl⟩ := Prod.mk.inj (Option.some.inj h)
      have heq := afterStart?_eq_some.mp hrest
      exact heq
    · obtain ⟨⟨x, y⟩, hxy, hab⟩ := Option.map_eq_some_iff.mp h
      obtain ⟨rfl, rfl⟩ := Prod.mk.inj hab
      rw [ih hxy]
      rfl

theorem splitAt?_append_of_not_mem (h : c ∉ p) (t : Text) :
    splitAt? (c :: s) (p ++ t) = (splitAt? (c :: s) t).map fun cut => (p ++ cut.1, cut.2) := by
  induction p with
  | nil => simp
  | cons d p ih =>
    have hd : c ≠ d := List.ne_of_not_mem_cons h
    have hstart : afterStart? (c :: s) (d :: (p ++ t)) = none := by simp [afterStart?, hd]
    rw [List.cons_append, splitAt?, hstart, ih (List.not_mem_of_not_mem_cons h)]
    simp only [Option.map_map]
    rfl

theorem placeholder_append (key t : Text) :
    placeholder key ++ t = '\x7b' :: (key ++ '\x7d' :: t) := by simp [placeholder]

theorem length_placeholder (key : Text) : (placeholder key).length = key.length + 2 := by
  simp [placeholder]

theorem splitAt?_placeholder_self (hp : '\x7b' ∉ p) (key t : Text) :
    splitAt? (placeholder key) (p ++ (placeholder key ++ t)) = some (p, t) := by
  have hstart : afterStart? (placeholder key) (placeholder key ++ t) = some t :=
    afterStart?_eq_some.mpr rfl
  have hcut : splitAt? (placeholder key) (placeholder key ++ t) = some ([], t) := by
    rw [placeholder_append, splitAt?, ← placeholder_append, hstart]
  rw [placeholder, List.cons_append, splitAt?_append_of_not_mem hp, ← List.cons_append, ← placeholder, hcut]
  simp

/-- A placeholder hides no other one, not even partly. -/
theorem splitAt?_placeholder_ne (hp : '\x7b' ∉ p) (hopen : '\x7b' ∉ key) (hkey : '\x7d' ∉ key)
    (hother : '\x7d' ∉ other) (hne : other ≠ key) (t : Text) :
    splitAt? (placeholder other) (p ++ (placeholder key ++ t)) =
      (splitAt? (placeholder other) t).map fun cut => (p ++ (placeholder key ++ cut.1), cut.2) := by
  have hstart : afterStart? (placeholder other) (placeholder key ++ t) = none := by
    cases hs : afterStart? (placeholder other) (placeholder key ++ t) with
    | none => rfl
    | some rest =>
      have heq := afterStart?_eq_some.mp hs
      rw [placeholder_append, placeholder_append] at heq
      have hcut := splitOnce_append hkey t
      rw [(List.cons.inj heq).2, splitOnce_append hother] at hcut
      exact absurd (Prod.mk.inj (Option.some.inj hcut)).1 hne
  have hrest : '\x7b' ∉ key ++ ['\x7d'] := by simp [hopen]
  have hnext : splitAt? (placeholder other) (placeholder key ++ t) =
      (splitAt? (placeholder other) t).map fun cut => (placeholder key ++ cut.1, cut.2) := by
    have hbody : key ++ '\x7d' :: t = (key ++ ['\x7d']) ++ t := by simp
    rw [placeholder_append] at hstart ⊢
    rw [splitAt?, hstart, hbody]
    show ((splitAt? ('\x7b' :: (other ++ ['\x7d'])) ((key ++ ['\x7d']) ++ t)).map _) = _
    rw [splitAt?_append_of_not_mem hrest, Option.map_map]
    rfl
  show splitAt? ('\x7b' :: (other ++ ['\x7d'])) _ = _
  rw [splitAt?_append_of_not_mem hp]
  show Option.map _ (splitAt? (placeholder other) _) = _
  rw [hnext, Option.map_map]
  rfl

/-- Behind the first opening brace stands whatever closes a placeholder. -/
theorem close_mem_of_placeholder (hp : '\x7b' ∉ p)
    (h : p ++ '\x7b' :: q = a ++ '\x7b' :: (key ++ '\x7d' :: b)) : '\x7d' ∈ q := by
  rcases List.append_eq_append_iff.mp h with ⟨d, -, hd⟩ | ⟨d, rfl, hd⟩
  · cases d with
    | nil => rw [(List.cons.inj hd).2]; simp
    | cons e d => rw [(List.cons.inj hd).2]; simp
  · cases d with
    | nil => rw [← (List.cons.inj hd).2]; simp
    | cons e d =>
      rw [← (List.cons.inj hd).1] at hp
      exact absurd (by simp) hp

/-- A text without nested braces is cut at its first opening brace. If no closing brace follows
that one, the text contains no placeholder. -/
theorem segmented_of_neverNests (t : Text) (h : NeverNests t) : Segmented t := by
  by_cases hopen : '\x7b' ∈ t
  · obtain ⟨p, q, rfl, hp⟩ := List.eq_append_cons_of_mem hopen
    by_cases hclose : '\x7d' ∈ q
    · obtain ⟨key, rest, rfl, hkey⟩ := List.eq_append_cons_of_mem hclose
      have hinner : '\x7b' ∉ key := by
        intro hm
        obtain ⟨b, c, rfl⟩ := List.append_of_mem hm
        have hb := h p b (c ++ '\x7d' :: rest) (by simp)
        exact hkey (List.mem_append_left _ hb)
      have hrest : NeverNests rest := by
        intro a b c heq
        exact h (p ++ '\x7b' :: key ++ '\x7d' :: a) b c (by simp [heq])
      have hnext := Segmented.next p key rest hp hinner hkey (segmented_of_neverNests rest hrest)
      rwa [placeholder_append] at hnext
    · refine .last _ fun key => ?_
      cases hs : splitAt? (placeholder key) (p ++ '\x7b' :: q) with
      | none => rfl
      | some cut =>
        have heq := eq_of_splitAt? hs
        rw [placeholder_append] at heq
        exact absurd (close_mem_of_placeholder hp heq) hclose
  · refine .last t fun key => ?_
    cases hs : splitAt? (placeholder key) t with
    | none => rfl
    | some cut =>
      have heq := eq_of_splitAt? hs
      rw [placeholder_append] at heq
      exact absurd (by simp [heq]) hopen
termination_by t.length
decreasing_by subst_vars; simp; omega

end

end Text

/-! ## One placeholder after another -/

/-- What entries make of the placeholder for a key. -/
def filled (entries : List (Text × Text)) (key : Text) : Text :=
  ((entries.find? fun e => e.1 = key).map Prod.snd).getD (placeholder key)

/-- The entries with another key. -/
def without (key : Text) (entries : List (Text × Text)) : List (Text × Text) :=
  entries.filter fun e => e.1 ≠ key

/-- Entries as a map has them, one for each key, whose keys close no brace and whose values open
none. -/
structure Unambiguous (entries : List (Text × Text)) : Prop where
  distinct : (entries.map Prod.fst).Nodup
  key_close : ∀ e ∈ entries, '\x7d' ∉ e.1
  value_open : ∀ e ∈ entries, '\x7b' ∉ e.2

section
variable {entries entries' : List (Text × Text)} {e : Text × Text} {p key other value t : Text}

theorem Unambiguous.tail (h : Unambiguous (e :: entries)) : Unambiguous entries where
  distinct := (List.nodup_cons.mp h.distinct).2
  key_close := fun e he => h.key_close e (List.mem_cons_of_mem _ he)
  value_open := fun e he => h.value_open e (List.mem_cons_of_mem _ he)

theorem Unambiguous.without (h : Unambiguous entries) (key : Text) :
    Unambiguous (without key entries) where
  distinct := h.distinct.sublist (List.filter_sublist.map Prod.fst)
  key_close := fun e he => h.key_close e ((List.mem_filter.mp he).1)
  value_open := fun e he => h.value_open e ((List.mem_filter.mp he).1)

theorem Unambiguous.perm (h : Unambiguous entries) (hp : entries'.Perm entries) :
    Unambiguous entries' where
  distinct := (hp.map Prod.fst).nodup_iff.mpr h.distinct
  key_close := fun e he => h.key_close e (hp.mem_iff.mp he)
  value_open := fun e he => h.value_open e (hp.mem_iff.mp he)

theorem filled_cons_self : filled ((key, value) :: entries) key = value := by simp [filled]

theorem filled_cons_of_ne (h : other ≠ key) :
    filled ((other, value) :: entries) key = filled entries key := by simp [filled, h]

theorem without_cons_of_ne (h : other ≠ key) :
    without key ((other, value) :: entries) = (other, value) :: without key entries := by
  simp [without, h]

theorem without_cons_self (h : key ∉ entries.map Prod.fst) :
    without key ((key, value) :: entries) = entries := by
  have hall : ∀ e ∈ entries, decide (e.1 ≠ key) = true :=
    fun e he => decide_eq_true fun heq => h (heq ▸ List.mem_map_of_mem he)
  rw [without, List.filter_cons_of_neg (by simp), List.filter_eq_self.mpr hall]

theorem without_perm (hp : entries'.Perm entries) (key : Text) :
    (without key entries').Perm (without key entries) := hp.filter _

theorem filled_perm (h : Unambiguous entries) (hp : entries'.Perm entries) (key : Text) :
    filled entries' key = filled entries key := by
  have hsub : {e ∈ entries' | decide (e.1 = key) = true}.Subsingleton := by
    rintro e ⟨he, hkey⟩ f ⟨hf, hkey'⟩
    exact List.inj_on_of_nodup_map (h.perm hp).distinct he hf
      ((of_decide_eq_true hkey).trans (of_decide_eq_true hkey').symm)
  rw [filled, filled, List.find?_eq_find?_of_perm hp hsub]

theorem fillOne_self (hp : '\x7b' ∉ p) (t : Text) :
    fillOne (p ++ (placeholder key ++ t)) (key, value) = p ++ (value ++ t) := by
  simp [fillOne, Text.replaceFirst, Text.splitAt?_placeholder_self hp]

theorem fillOne_of_ne (hp : '\x7b' ∉ p) (hopen : '\x7b' ∉ key) (hkey : '\x7d' ∉ key)
    (hother : '\x7d' ∉ other) (hne : other ≠ key) (t : Text) :
    fillOne (p ++ (placeholder key ++ t)) (other, value) =
      p ++ (placeholder key ++ fillOne t (other, value)) := by
  simp only [fillOne, Text.replaceFirst, Text.splitAt?_placeholder_ne hp hopen hkey hother hne]
  cases Text.splitAt? (placeholder other) t <;> simp

/-- No placeholder begins before the first opening brace. -/
theorem fillOne_append (hp : '\x7b' ∉ p) (t : Text) (e : Text × Text) :
    fillOne (p ++ t) e = p ++ fillOne t e := by
  have hcut := Text.splitAt?_append_of_not_mem hp (s := e.1 ++ ['\x7d']) t
  simp only [fillOne, Text.replaceFirst, placeholder, List.cons_append, hcut]
  cases Text.splitAt? ('\x7b' :: (e.1 ++ ['\x7d'])) t <;> simp

theorem foldl_fillOne_append (hp : '\x7b' ∉ p) (t : Text) :
    entries.foldl fillOne (p ++ t) = p ++ entries.foldl fillOne t := by
  induction entries generalizing t with
  | nil => rfl
  | cons e entries ih => rw [List.foldl_cons, fillOne_append hp, ih, List.foldl_cons]

theorem foldl_fillOne_of_none (h : ∀ key, Text.splitAt? (placeholder key) t = none) :
    entries.foldl fillOne t = t := by
  induction entries with
  | nil => rfl
  | cons e entries ih => rw [List.foldl_cons, fillOne, Text.replaceFirst, h, ih]

theorem fill_nil (values : Values) : fill [] values = [] :=
  foldl_fillOne_of_none fun _ => rfl

theorem fill_of_isEmpty {values : Values} (h : values.isEmpty = true) (t : Text) :
    fill t values = t := by
  rw [fill, List.isEmpty_iff.mp h]
  rfl

/-- Filling in turn: the entry with the key of the first placeholder replaces it, whenever its turn
comes, and all others work on what follows. -/
theorem foldl_fillOne_placeholder (h : Unambiguous entries) (hp : '\x7b' ∉ p)
    (hopen : '\x7b' ∉ key) (hkey : '\x7d' ∉ key) (t : Text) :
    entries.foldl fillOne (p ++ (placeholder key ++ t)) =
      p ++ (filled entries key ++ (without key entries).foldl fillOne t) := by
  induction entries generalizing t with
  | nil => rfl
  | cons e entries ih =>
    obtain ⟨other, value⟩ := e
    rw [List.foldl_cons]
    by_cases hk : other = key
    · subst hk
      have hrest : other ∉ entries.map Prod.fst := (List.nodup_cons.mp h.distinct).1
      have hvalue : '\x7b' ∉ value := h.value_open (other, value) List.mem_cons_self
      rw [fillOne_self hp, filled_cons_self, without_cons_self hrest, foldl_fillOne_append hp,
        foldl_fillOne_append hvalue]
    · have hother : '\x7d' ∉ other := h.key_close (other, value) List.mem_cons_self
      rw [fillOne_of_ne hp hopen hkey hother hk, ih h.tail, filled_cons_of_ne hk,
        without_cons_of_ne hk, List.foldl_cons]

/-! ## All at once -/

theorem writeFrom_append {found? : Nat → Option (Text × Text)} {place : Nat}
    (h : ∀ i, i < p.length → found? (place + i) = none) (t : Text) :
    writeFrom found? place 0 (p ++ t) = p ++ writeFrom found? (place + p.length) 0 t := by
  induction p generalizing place with
  | nil => rfl
  | cons c p ih =>
    have hfirst : found? place = none := h 0 (by simp)
    have hrest : ∀ i, i < p.length → found? (place + 1 + i) = none := by
      intro i hi
      have := h (i + 1) (by simpa using hi)
      rwa [Nat.add_assoc, Nat.add_comm 1 i]
    rw [List.cons_append, writeFrom, hfirst]
    simp only [ih hrest, List.cons_append, List.length_cons, Nat.add_assoc, Nat.add_comm 1]

theorem writeFrom_skip (found? : Nat → Option (Text × Text)) (place : Nat) (p t : Text) :
    writeFrom found? place p.length (p ++ t) = writeFrom found? (place + p.length) 0 t := by
  induction p generalizing place with
  | nil => rfl
  | cons c p ih =>
    rw [List.length_cons, List.cons_append, writeFrom, ih, Nat.add_assoc, Nat.add_comm 1]

/-- Where a text begins in a longer one makes no difference. -/
theorem writeFrom_shift {f g : Nat → Option (Text × Text)} {d : Nat}
    (h : ∀ i, f (d + i) = g i) (place skip : Nat) (t : Text) :
    writeFrom f (d + place) skip t = writeFrom g place skip t := by
  induction t generalizing place skip with
  | nil => cases skip <;> rfl
  | cons c t ih =>
    cases skip with
    | succ skip => rw [writeFrom, writeFrom, Nat.add_assoc, ih]
    | zero =>
      rw [writeFrom, writeFrom, h place]
      cases g place <;> simp only [Nat.add_assoc, ih]

theorem fillAtOnce_of_none (h : ∀ key, Text.splitAt? (placeholder key) t = none) :
    fillAtOnce entries t = t := by
  have hnone : ∀ i, entryAt? entries t i = none := by
    intro i
    simp [entryAt?, Text.firstPlace?, h]
  have hall : writeFrom (entryAt? entries t) 0 0 (t ++ []) = _ :=
    writeFrom_append (fun i _ => hnone (0 + i)) []
  simpa [fillAtOnce, writeFrom] using hall

theorem firstPlace_self (hp : '\x7b' ∉ p) :
    Text.firstPlace? (placeholder key) (p ++ (placeholder key ++ t)) = some p.length := by
  rw [Text.firstPlace?, Text.splitAt?_placeholder_self hp]
  rfl

theorem firstPlace_of_ne (hp : '\x7b' ∉ p) (hopen : '\x7b' ∉ key) (hkey : '\x7d' ∉ key)
    (hother : '\x7d' ∉ other) (hne : other ≠ key) :
    Text.firstPlace? (placeholder other) (p ++ (placeholder key ++ t)) =
      (Text.firstPlace? (placeholder other) t).map (p.length + (placeholder key).length + ·) := by
  rw [Text.firstPlace?, Text.splitAt?_placeholder_ne hp hopen hkey hother hne, Text.firstPlace?,
    Option.map_map, Option.map_map]
  congr 1
  funext cut
  simp [Nat.add_assoc]

/-- The entries in the text from the first placeholder on. -/
theorem entryAt_self (h : Unambiguous entries) (hp : '\x7b' ∉ p) (hopen : '\x7b' ∉ key)
    (hkey : '\x7d' ∉ key) :
    entryAt? entries (p ++ (placeholder key ++ t)) p.length =
      entries.find? fun e => e.1 = key := by
  refine List.find?_congr fun e he => ?_
  by_cases hk : e.1 = key
  · simp [hk, firstPlace_self hp]
  · rw [firstPlace_of_ne hp hopen hkey (h.key_close e he) hk]
    have hlen := Text.length_placeholder key
    cases Text.firstPlace? (placeholder e.1) t with
    | none => simp [hk]
    | some i =>
      simp [hk]
      omega

theorem entryAt_before (h : Unambiguous entries) (hp : '\x7b' ∉ p) (hopen : '\x7b' ∉ key)
    (hkey : '\x7d' ∉ key) {i : Nat} (hi : i < p.length + (placeholder key).length)
    (hne : i ≠ p.length) : entryAt? entries (p ++ (placeholder key ++ t)) i = none := by
  refine List.find?_eq_none.mpr fun e he => ?_
  by_cases hk : e.1 = key
  · simp [hk, firstPlace_self hp, Ne.symm hne]
  · rw [firstPlace_of_ne hp hopen hkey (h.key_close e he) hk]
    cases Text.firstPlace? (placeholder e.1) t with
    | none => simp
    | some j =>
      simp
      omega

theorem entryAt_after (h : Unambiguous entries) (hp : '\x7b' ∉ p) (hopen : '\x7b' ∉ key)
    (hkey : '\x7d' ∉ key) (i : Nat) :
    entryAt? entries (p ++ (placeholder key ++ t)) (p.length + (placeholder key).length + i) =
      entryAt? (without key entries) t i := by
  rw [entryAt?, entryAt?, without, List.find?_filter]
  refine List.find?_congr fun e he => ?_
  by_cases hk : e.1 = key
  · have hlen := Text.length_placeholder key
    simp [hk, firstPlace_self hp]
    omega
  · rw [firstPlace_of_ne hp hopen hkey (h.key_close e he) hk]
    cases Text.firstPlace? (placeholder e.1) t <;> simp [hk]

/-- Filling at once takes the first placeholder apart in the same manner. -/
theorem fillAtOnce_placeholder (h : Unambiguous entries) (hp : '\x7b' ∉ p)
    (hopen : '\x7b' ∉ key) (hkey : '\x7d' ∉ key) (t : Text) :
    fillAtOnce entries (p ++ (placeholder key ++ t)) =
      p ++ (filled entries key ++ fillAtOnce (without key entries) t) := by
  have hlen := Text.length_placeholder key
  have hbefore : ∀ i, i < p.length →
      entryAt? entries (p ++ (placeholder key ++ t)) (0 + i) = none := by
    intro i hi
    exact entryAt_before h hp hopen hkey (by omega) (by omega)
  have hafter : writeFrom (entryAt? entries (p ++ (placeholder key ++ t)))
      (p.length + (placeholder key).length) 0 t = fillAtOnce (without key entries) t :=
    writeFrom_shift (entryAt_after h hp hopen hkey) 0 0 t
  have hself := entryAt_self (t := t) h hp hopen hkey
  rw [fillAtOnce, writeFrom_append hbefore, Nat.zero_add, filled]
  congr 1
  cases hfind : entries.find? fun e => e.1 = key with
  | none =>
    -- the placeholder has no value and is copied
    have hcopy : ∀ i, i < (placeholder key).length →
        entryAt? entries (p ++ (placeholder key ++ t)) (p.length + i) = none := by
      intro i hi
      by_cases hzero : i = 0
      · rw [hzero, Nat.add_zero, hself, hfind]
      · exact entryAt_before h hp hopen hkey (by omega) (by omega)
    rw [writeFrom_append hcopy, hafter]
    rfl
  | some e =>
    obtain ⟨found, value⟩ := e
    have hfound : found = key := by simpa using List.find?_some hfind
    subst hfound
    have hskip := writeFrom_skip (entryAt? entries (p ++ (placeholder found ++ t)))
      (p.length + 1) (found ++ ['\x7d']) t
    rw [hfind] at hself
    have hplace : p.length + 1 + (found ++ ['\x7d']).length =
        p.length + (placeholder found).length := by
      simp [placeholder, Nat.add_comm, Nat.add_left_comm]
    rw [hplace, hafter, List.append_assoc, List.singleton_append, List.length_append] at hskip
    rw [Text.placeholder_append, writeFrom, ← Text.placeholder_append, hself]
    exact congrArg (value ++ ·) hskip

/-! ## The two agree -/

theorem foldl_fillOne_eq (ht : t.Segmented) (h : Unambiguous entries) :
    entries.foldl fillOne t = fillAtOnce entries t := by
  induction ht generalizing entries with
  | last t hnone => rw [foldl_fillOne_of_none hnone, fillAtOnce_of_none hnone]
  | next p key t hp hopen hkey _ ih =>
    rw [foldl_fillOne_placeholder h hp hopen hkey, fillAtOnce_placeholder h hp hopen hkey,
      ih (h.without key)]

theorem fillAtOnce_perm (ht : t.Segmented) (h : Unambiguous entries)
    (hperm : entries'.Perm entries) : fillAtOnce entries' t = fillAtOnce entries t := by
  induction ht generalizing entries entries' with
  | last t hnone => rw [fillAtOnce_of_none hnone, fillAtOnce_of_none hnone]
  | next p key t hp hopen hkey _ ih =>
    rw [fillAtOnce_placeholder (h.perm hperm) hp hopen hkey,
      fillAtOnce_placeholder h hp hopen hkey, filled_perm h hperm,
      ih (h.without key) (without_perm hperm key)]

/-- **Filling in turn is filling at once.** In a text that never opens a brace while another one is
open, and with values that open none, filling one placeholder after another gives what a single pass
over the original text gives: the first placeholder of each key becomes its value, and everything
else stays. So the entries may be taken in any order, and divided into any two passes. -/
theorem fill_is_simultaneous {values : Values} (ht : t.NeverNests)
    (h : Unambiguous values.entries) :
    fill t values = fillAtOnce values.entries t ∧
    (∀ order : List (Text × Text), order.Perm values.entries →
      order.foldl fillOne t = fillAtOnce values.entries t) ∧
    ∀ first second : Values, (first.entries ++ second.entries).Perm values.entries →
      fill (fill t first) second = fillAtOnce values.entries t := by
  have hcut := Text.segmented_of_neverNests t ht
  have horder : ∀ order : List (Text × Text), order.Perm values.entries →
      order.foldl fillOne t = fillAtOnce values.entries t := by
    intro order hperm
    rw [foldl_fillOne_eq hcut (h.perm hperm), fillAtOnce_perm hcut h hperm]
  refine ⟨horder values.entries (.refl _), horder, ?_⟩
  intro first second hperm
  rw [fill, fill, ← List.foldl_append]
  exact horder _ hperm

end

/-- A closing brace to spare, an empty key, a key that comes twice, and a brace that stays open. -/
def bracedText : Text :=
  placeholder ['a'] ++ ('\x7d' :: placeholder [] ++ (placeholder ['a'] ++ ['\x7b']))

/-- A value that closes a brace, and one for the empty key. -/
def bracedValues : Values := ⟨[([], ['1', '\x7d']), (['a'], ['2'])]⟩

theorem bracedText_filled_in_two_passes :
    bracedText.NeverNests ∧ Unambiguous bracedValues.entries ∧
    fill bracedText bracedValues = fillAtOnce bracedValues.entries bracedText ∧
    fill (fill bracedText ⟨[(['a'], ['2'])]⟩) ⟨[([], ['1', '\x7d'])]⟩ =
      fillAtOnce bracedValues.entries bracedText ∧
    fillAtOnce bracedValues.entries bracedText =
      ['2', '\x7d', '1', '\x7d'] ++ placeholder ['a'] ++ ['\x7b'] := by
  have ht : bracedText.NeverNests := by decide
  have h : Unambiguous bracedValues.entries := by constructor <;> decide
  obtain ⟨hfill, -, hpasses⟩ := fill_is_simultaneous ht h
  exact ⟨ht, h, hfill, hpasses ⟨[(['a'], ['2'])]⟩ ⟨[([], ['1', '\x7d'])]⟩ (by decide), by decide⟩

end ChoiceTemplate
