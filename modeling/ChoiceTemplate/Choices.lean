import ChoiceTemplate.Text.Split

/-
  Choice templates: entries `selector#text` joined by `|`.

  `Choices` holds the selectors and the texts of a template in order, together with the default text
  and the index of the entry it comes from, which is the last entry with an empty selector
  (`Choices.push`). There are always as many texts as selectors, so they make up pairs.
  `Choices.parse` accepts every template: an entry without `#` is a selector with an empty text.
  `Choices.parseStrict` refuses the first such entry. `Choices.render` writes pairs back as a
  template; the comma that it ends each entry with keeps an empty text from being lost and a
  final comma of the text from being taken off.
-/
namespace ChoiceTemplate

/-- A selector and the text that it governs. -/
structure Choice where
  selector : Text
  text : Text
  deriving DecidableEq

/-- The selectors and the texts of a template, in order, and its default. -/
structure Choices where
  selectors : List Text
  texts : List Text
  defaultText : Text
  defaultIndex : Option Nat
  /-- Each selector governs the text at its place. -/
  length_texts : texts.length = selectors.length
  deriving DecidableEq

/-- Why a template was refused. -/
inductive TemplateError where
  /-- The entry at `index` has no `#`. -/
  | missingSeparator (index : Nat) (entry : Text)
  deriving DecidableEq

namespace Choices

/-- No choice at all, and an empty default text. -/
def empty : Choices := ⟨[], [], [], none, rfl⟩

/-- The choices with one more at the end. An empty selector makes it the default, whose index is the
number of selectors before it. -/
def push (c : Choices) (selector text : Text) : Choices where
  selectors := c.selectors ++ [selector]
  texts := c.texts ++ [text]
  defaultText := if selector = [] then text else c.defaultText
  defaultIndex := if selector = [] then some c.selectors.length else c.defaultIndex
  length_texts := by rw [List.length_append, List.length_append, c.length_texts]; rfl

/-- The choices with more of them at the end, one after another. -/
def pushAll (c : Choices) (items : List Choice) : Choices :=
  items.foldl (fun c i => c.push i.selector i.text) c

/-- The choices that consist of the given pairs. -/
def ofList (items : List Choice) : Choices := empty.pushAll items

/-- The pairs of a selector and its text, in order. -/
def items (c : Choices) : List Choice :=
  (c.selectors.zip c.texts).map fun (selector, text) => ⟨selector, text⟩

def size (c : Choices) : Nat := c.selectors.length

def isEmpty (c : Choices) : Bool := c.selectors.isEmpty

/-- The text of the first choice that `matching` accepts, or the default text. -/
def select (c : Choices) (matching : Text → Bool) : Text :=
  match c.items.find? fun i => matching i.selector with
  | some i => i.text
  | none => c.defaultText

/-- The cleaned entries of a template, without the empty ones. -/
def entries (template : Text) : List Text := Text.split template ['|']

/-- The selector and the text of an entry. Without a `#` all of it is the selector. -/
def ofEntry (entry : Text) : Choice :=
  match Text.splitOnce '#' entry with
  | some (selector, text) => ⟨selector, text⟩
  | none => ⟨entry, []⟩

/-- The choices of a template. -/
def parse (template : Text) : Choices := ofList ((entries template).map ofEntry)

/-- The pairs of entries that are numbered from `index`, unless one of them has no `#`. -/
def pairs? (index : Nat) : List Text → Except TemplateError (List Choice)
  | [] => .ok []
  | entry :: rest =>
    match Text.splitOnce '#' entry with
    | none => .error (.missingSeparator index entry)
    | some (selector, text) => (pairs? (index + 1) rest).map (⟨selector, text⟩ :: ·)

/-- The choices of a template all of whose entries have a `#`. -/
def parseStrict (template : Text) : Except TemplateError Choices :=
  (pairs? 0 (entries template)).map ofList

/-- One pair as an entry. -/
def renderChoice (i : Choice) : Text := i.selector ++ '#' :: i.text ++ [',']

/-- The template that `parse` reads as the given pairs. -/
def render (items : List Choice) : Text := Text.join ['|'] (items.map renderChoice)

end Choices

/-- The wording of a refusal. -/
def TemplateError.message : TemplateError → Text
  | .missingSeparator index entry =>
    "choice ".toList ++ Text.ofNat index ++ " has no '#' separator: '".toList ++ entry ++ "'".toList

end ChoiceTemplate
