import ChoiceTemplate.CommandLine.Run
import ChoiceTemplate.Proofs.LastValues
import ChoiceTemplate.Proofs.Splitting

/-
  Where values come from.

  1. A program hands over pairs, a map or a JSON object. What each of them holds for a key decides the
     values (`ofList_congr`), so sources that hold the same give the same values (`Offers.values_eq`), in
     whatever order they are gone through.
  2. The command line inserts the pairs of its arguments over the members of a JSON file. An argument is
     cut at its first `=` (`readPairs_eq`), and a key has the text of its last argument, or without any
     that of its last member (`given_iff`).
-/
namespace ChoiceTemplate.Values

/-! ## The text of a JSON member -/

/-- How a JSON value reads as a text. -/
inductive HasText : Json → Text → Prop
  | string (t : Text) : HasText (.string t) t
  | null : HasText .null []
  | other {value : Json} : (∀ t, value ≠ .string t) → value ≠ .null →
      HasText value value.sorted.compact

section
variable {json value : Json} {t key : Text}

theorem hasText_iff : HasText value t ↔ value.memberText = t := by
  constructor
  · intro h
    cases h with
    | string => rfl
    | null => rfl
    | other hstring hnull => exact Json.memberText.eq_3 value hstring hnull
  · rintro rfl
    by_cases hstring : ∃ t, value = .string t
    · obtain ⟨t, rfl⟩ := hstring
      exact .string t
    · by_cases hnull : value = .null
      · subst hnull
        exact .null
      · have hother : ∀ t, value ≠ .string t := fun t h => hstring ⟨t, h⟩
        rw [Json.memberText.eq_3 value hother hnull]
        exact .other hother hnull

theorem toValues_of_not_object (h : ¬∃ members, json = .object members) :
    json.toValues = empty :=
  Json.toValues.eq_2 json fun members hobject => h ⟨members, hobject⟩

theorem ascending_toValues (json : Json) : Ascending json.toValues.entries := by
  by_cases h : ∃ members, json = .object members
  · obtain ⟨members, rfl⟩ := h
    exact ascending_ofList _
  · rw [toValues_of_not_object h]
    exact ascending_empty

/-- The members of an object, the last one of each key, and nothing in any other JSON value. -/
theorem get?_toValues_eq_some_iff : json.toValues.get? key = some t ↔
    ∃ members member, json = .object members ∧ lastFor? members key = some member ∧
      HasText member t := by
  by_cases h : ∃ members, json = .object members
  · obtain ⟨members, rfl⟩ := h
    rw [Json.toValues, get?_ofList, lastFor?_map, Option.map_eq_some_iff]
    constructor
    · rintro ⟨member, hlast, htext⟩
      exact ⟨members, member, rfl, hlast, hasText_iff.mpr htext⟩
    · rintro ⟨_, member, ⟨⟩, hlast, htext⟩
      exact ⟨member, hlast, hasText_iff.mp htext⟩
  · rw [toValues_of_not_object h]
    constructor
    · intro hnone
      cases hnone
    · rintro ⟨members, member, hobject, -⟩
      exact absurd ⟨members, hobject⟩ h

end

/-! ## Sources that a program hands over -/

/-- What values can be taken from. A map stands for its entries in the order in which it is gone
through: that of the keys if it is sorted, and any order if it is hashed. -/
inductive Source
  | slice (pairs : List (Text × Text))
  | array {n : Nat} (pairs : Vector (Text × Text) n)
  | map (entries : List (Text × Text)) (distinct : (entries.map Prod.fst).Nodup)
  | json (value : Json)

/-- The values of a source. -/
def Source.values : Source → Values
  | .slice pairs => ofList pairs
  | .array pairs => ofList pairs.toList
  | .map entries _ => ofList entries
  | .json value => value.toValues

/-- Whether pairs are others in another order, in which those of one key still follow one another as
before. -/
def Reorders (pairs others : List (Text × Text)) : Prop :=
  ∀ key, (pairs.filter fun p => p.1 = key) = others.filter fun p => p.1 = key

/-- Whether a source has the same pairs as a list, or holds for each key what its last pair does. -/
inductive Offers (pairs : List (Text × Text)) : Source → Prop
  | slice {others : List (Text × Text)} : Reorders others pairs → Offers pairs (.slice others)
  | array {n : Nat} {others : Vector (Text × Text) n} : Reorders others.toList pairs →
      Offers pairs (.array others)
  | map {entries : List (Text × Text)} {distinct : (entries.map Prod.fst).Nodup} :
      (∀ key value, (key, value) ∈ entries ↔ lastFor? pairs key = some value) →
      Offers pairs (.map entries distinct)
  | json {members : List (Text × Json)} :
      (∀ key value, (∃ member, lastFor? members key = some member ∧ HasText member value) ↔
        lastFor? pairs key = some value) →
      Offers pairs (.json (.object members))

/-- Values with one entry for each key of some pairs, in ascending order of the bytes of the keys, with
the text of the last pair of the key. -/
structure KeepsLast (pairs : List (Text × Text)) (v : Values) : Prop where
  ascending : v.entries.Pairwise fun a b => Text.utf8 a.1 < Text.utf8 b.1
  holds : ∀ key value, (key, value) ∈ v.entries ↔ lastFor? pairs key = some value

section
variable {pairs others : List (Text × Text)} {v : Values} {source : Source}

theorem ascending_utf8 (h : Ascending v.entries) :
    v.entries.Pairwise fun a b => Text.utf8 a.1 < Text.utf8 b.1 :=
  h.imp Text.before_iff.mp

theorem keepsLast_ofList (pairs : List (Text × Text)) : KeepsLast pairs (ofList pairs) where
  ascending := ascending_utf8 (ascending_ofList pairs)
  holds key value := by rw [mem_entries_iff (ascending_ofList pairs), get?_ofList]

theorem Reorders.ofList_eq (h : Reorders others pairs) : ofList others = ofList pairs := by
  apply ofList_congr
  intro key
  rw [lastFor?, lastFor?, h key]

theorem Offers.values_eq (h : Offers pairs source) : source.values = ofList pairs := by
  cases h with
  | slice horder => exact horder.ofList_eq
  | array horder => exact horder.ofList_eq
  | @map entries distinct hmem =>
    apply ofList_congr
    intro key
    apply Option.ext
    intro value
    rw [lastFor?_eq_some_iff distinct, hmem]
  | @json members hmem =>
    apply ext_get? (ascending_toValues (.object members)) (ascending_ofList pairs)
    intro key
    apply Option.ext
    intro value
    rw [get?_ofList, ← hmem, get?_toValues_eq_some_iff]
    constructor
    · rintro ⟨_, member, ⟨⟩, hmember⟩
      exact ⟨member, hmember⟩
    · rintro ⟨member, hmember⟩
      exact ⟨members, member, rfl, hmember⟩

/-- An object with the texts of pairs as strings offers the pairs. -/
theorem offers_strings (pairs : List (Text × Text)) :
    Offers pairs (.json (.object (pairs.map fun p => (p.1, .string p.2)))) := by
  apply Offers.json
  intro key value
  rw [lastFor?_map]
  constructor
  · rintro ⟨member, hlast, htext⟩
    obtain ⟨text, hsome, rfl⟩ := Option.map_eq_some_iff.mp hlast
    rw [hasText_iff] at htext
    exact htext ▸ hsome
  · intro hlast
    exact ⟨.string value, by rw [hlast, Option.map_some], .string value⟩

end

/-! ## Arguments over a file -/

section
open CommandLine
variable {read : Text → Except ReadError Text} {path content key value : Text} {json : Json}
  {arguments : List Text}

/-- What stands before the first `=` of an argument. -/
def keyPart (argument : Text) : Text := argument.takeWhile (· ≠ '=')

/-- What stands after the first `=` of an argument. -/
def valuePart (argument : Text) : Text := (argument.dropWhile (· ≠ '=')).tail

/-- The text that a key has after a JSON file and arguments were read. -/
inductive Given (json : Json) (arguments : List Text) (key : Text) : Text → Prop
  | argument {argument : Text} :
      (arguments.filter fun a => keyPart a = key).getLast? = some argument →
      Given json arguments key (valuePart argument)
  | member {members : List (Text × Json)} {member : Json} {value : Text} :
      (∀ a ∈ arguments, keyPart a ≠ key) → json = .object members →
      lastFor? members key = some member → HasText member value →
      Given json arguments key value

theorem splitOnce_argument {argument : Text} (h : '=' ∈ argument) :
    Text.splitOnce '=' argument = some (keyPart argument, valuePart argument) := by
  induction argument with
  | nil => cases h
  | cons c t ih =>
    by_cases hc : c = '='
    · simp [Text.splitOnce, keyPart, valuePart, hc]
    · have hmem : '=' ∈ t := List.mem_of_ne_of_mem (Ne.symm hc) h
      simp [Text.splitOnce, keyPart, valuePart, hc, ih hmem]

theorem readPairs_eq (h : ∀ a ∈ arguments, '=' ∈ a) :
    readPairs arguments = .ok (arguments.map fun a => (keyPart a, valuePart a)) := by
  induction arguments with
  | nil => rfl
  | cons argument rest ih =>
    obtain ⟨hfirst, hrest⟩ := List.forall_mem_cons.mp h
    rw [readPairs, splitOnce_argument hfirst, ih hrest]
    rfl

theorem loadValues_eq (hread : read path = .ok content) (hjson : Json.read? content = some json)
    (pairs : List (Text × Text)) :
    loadValues read ⟨some path, pairs⟩ = .ok (json.toValues.insertAll pairs) := by
  simp only [loadValues, hread, hjson]
  rfl

theorem lastFor?_arguments (arguments : List Text) (key : Text) :
    lastFor? (arguments.map fun a => (keyPart a, valuePart a)) key =
      (arguments.filter fun a => keyPart a = key).getLast?.map valuePart := by
  rw [lastFor?, List.filter_map, List.getLast?_map, Option.map_map]
  rfl

/-- Inserting the pairs of the arguments gives each key what it should have. -/
theorem given_iff : Given json arguments key value ↔
    (json.toValues.insertAll (arguments.map fun a => (keyPart a, valuePart a))).get? key =
      some value := by
  rw [get?_insertAll, lastFor?_arguments, Option.or_eq_some_iff, Option.map_eq_some_iff,
    Option.map_eq_none_iff, List.getLast?_eq_none_iff, List.filter_eq_nil_iff,
    get?_toValues_eq_some_iff]
  constructor
  · intro h
    cases h with
    | argument hlast => exact Or.inl ⟨_, hlast, rfl⟩
    | member hnone hobject hlast htext =>
      refine Or.inr ⟨?_, _, _, hobject, hlast, htext⟩
      simpa using hnone
  · rintro (⟨argument, hlast, rfl⟩ | ⟨hnone, members, member, hobject, hlast, htext⟩)
    · exact .argument hlast
    · exact .member (by simpa using hnone) hobject hlast htext

end

/-- **The last value of a key wins.** Pairs, maps and JSON objects that hold the same give the same
values, and so the same texts: an entry for each key, in the order of the bytes, with the last text of
the key. On the command line the last argument with a key wins over the others and over the
members of the file. -/
theorem last_value_wins [PatternEngine] :
    (∀ pairs : List (Text × Text), KeepsLast pairs (ofList pairs) ∧
      ∀ source, Offers pairs source →
        source.values = ofList pairs ∧
        ∀ m : Message, m.format source.values = m.format (ofList pairs) ∧
          ∀ reference, m.formatChoice reference source.values =
            m.formatChoice reference (ofList pairs)) ∧
    ∀ (read : Text → Except CommandLine.ReadError Text) (path content : Text) (json : Json)
      (arguments : List Text), read path = .ok content → Json.read? content = some json →
      (∀ a ∈ arguments, '=' ∈ a) →
      ∃ pairs v, CommandLine.readPairs arguments = .ok pairs ∧
        CommandLine.loadValues read ⟨some path, pairs⟩ = .ok v ∧
        (v.entries.Pairwise fun a b => Text.utf8 a.1 < Text.utf8 b.1) ∧
        ∀ key value, (key, value) ∈ v.entries ↔ Given json arguments key value := by
  constructor
  · intro pairs
    refine ⟨keepsLast_ofList pairs, ?_⟩
    intro source hoffers
    rw [hoffers.values_eq]
    exact ⟨rfl, fun m => ⟨rfl, fun reference => rfl⟩⟩
  · intro read path content json arguments hread hjson harguments
    have hascending :=
      ascending_insertAll (ascending_toValues json)
        (arguments.map fun a => (keyPart a, valuePart a))
    refine ⟨_, _, readPairs_eq harguments, loadValues_eq hread hjson _,
      ascending_utf8 hascending, ?_⟩
    intro key value
    rw [mem_entries_iff hascending, given_iff]

/-- Pairs with a key twice, a key that is not ASCII, and an empty key. -/
def repeatedKeys : List (Text × Text) :=
  [(['b'], ['1']), (['é'], ['2']), ([], ['3']), (['b'], ['4'])]

/-- A file with a member that `overridingArguments` leave and one that they replace. -/
def overriddenFile : Text := "\x7b\"a\":[true,null],\"b\":\"x\"\x7d".toList

/-- Arguments with a key twice, and with a second `=`. -/
def overridingArguments : List Text := ["c=y=z".toList, "b=1".toList, "b=".toList]

theorem repeatedKeys_from_every_source :
    (Source.slice [([], ['3']), (['b'], ['1']), (['b'], ['4']), (['é'], ['2'])]).values =
      ofList repeatedKeys ∧
    (Source.map [(['é'], ['2']), (['b'], ['4']), ([], ['3'])] (by decide)).values =
      ofList repeatedKeys ∧
    (Source.json (.object (repeatedKeys.map fun p => (p.1, .string p.2)))).values =
      ofList repeatedKeys ∧
    ∃ pairs v, CommandLine.readPairs overridingArguments = .ok pairs ∧
      CommandLine.loadValues (fun _ => .ok overriddenFile) ⟨some ['v'], pairs⟩ = .ok v ∧
      (['a'], "[true,null]".toList) ∈ v.entries ∧ (['b'], []) ∈ v.entries ∧
      (['c'], "y=z".toList) ∈ v.entries := by
  have hentries :
      (ofList repeatedKeys).entries = [([], ['3']), (['b'], ['4']), (['é'], ['2'])] := by
    decide
  obtain ⟨hkeeps, hsources⟩ := last_value_wins.1 repeatedKeys
  refine ⟨(hsources _ (.slice ?_)).1, (hsources _ (.map ?_)).1,
    (hsources _ (offers_strings repeatedKeys)).1, ?_⟩
  · intro key
    by_cases hempty : [] = key
    · subst hempty
      decide
    · by_cases haccent : ['é'] = key
      · subst haccent
        decide
      · simp [repeatedKeys, hempty, haccent, List.filter_cons]
  · intro key value
    rw [← hkeeps.holds, hentries, ← List.mem_reverse]
    rfl
  · have hjson : Json.read? overriddenFile =
        some (.object [(['a'], .array [.boolean true, .null]), (['b'], .string ['x'])]) := by
      cbv
    obtain ⟨pairs, v, hpairs, hload, -, hholds⟩ :=
      last_value_wins.2 (fun _ => .ok overriddenFile) ['v'] overriddenFile _ overridingArguments rfl
        hjson (by decide)
    refine ⟨pairs, v, hpairs, hload, (hholds _ _).mpr ?_, ?_, ?_⟩
    · exact .member (by decide) rfl rfl (.other (by simp) (by simp))
    · exact (hholds ['b'] (valuePart "b=".toList)).mpr (.argument (by decide))
    · exact (hholds ['c'] (valuePart "c=y=z".toList)).mpr (.argument (by decide))

end ChoiceTemplate.Values
