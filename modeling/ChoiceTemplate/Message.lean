import ChoiceTemplate.Lint
import ChoiceTemplate.Placeholder
import ChoiceTemplate.Reference

/-
  Messages: template texts with their options.

  A message is filled with values, or resolved as a choice against a reference, which gives the
  selected text as a new message with the same options. Its choices are parsed and its patterns
  compiled when they are first asked for, and kept: each operation that may do so (`choicesKept`,
  `patternsKept`, `choiceKept`) gives the message back with what it keeps now. What is kept never
  shows in an answer, so the answers are also defined without it (`choices`, `choice?`,
  `formatChoice`).
-/
namespace ChoiceTemplate

-- Powers are the core library's, whatever else is imported.
attribute [local instance (high)] instPowNat

variable [PatternEngine]

/-- A template text, its options, and what was computed from them before. -/
structure Message where
  text : Text
  options : MatchOptions
  keptChoices : Option Choices
  keptPatterns : Option PatternSet

namespace Message

/-- A message for which nothing was computed before. -/
def ofText (text : Text) (options : MatchOptions) : Message := ⟨text, options, none, none⟩

/-- The greatest length that is told. -/
def lengthLimit : Nat := 2 ^ (31 : Nat) - 1

/-- The length of the text in bytes, at most `lengthLimit`. -/
def length (m : Message) : Nat := min (Text.byteLength m.text) lengthLimit

def isEmpty (m : Message) : Bool := m.text.isEmpty

/-- Whether two messages have the same text and the same options. -/
def same (m n : Message) : Bool := m.text == n.text && m.options == n.options

/-- The choices of the text, and the message that keeps them. -/
def choicesKept (m : Message) : Choices × Message :=
  match m.keptChoices with
  | some choices => (choices, m)
  | none =>
    let choices := Choices.parse m.text
    (choices, { m with keptChoices := some choices })

/-- The choices, parsed again, and the message that keeps them and nothing else. -/
def reparse (m : Message) : Choices × Message :=
  choicesKept { m with keptChoices := none, keptPatterns := none }

/-- The patterns of the choices, and the message that keeps both. -/
def patternsKept (m : Message) : PatternSet × Message :=
  match m.keptPatterns with
  | some patterns => (patterns, m)
  | none =>
    let (choices, m) := m.choicesKept
    let patterns := PatternSet.compile choices m.options
    (patterns, { m with keptPatterns := some patterns })

/-- The text that a reference selects, and the message with what it keeps now. Only a text
reference needs patterns. -/
def selectKept (m : Message) (reference : Reference) : Text × Message :=
  let (choices, m) := m.choicesKept
  match reference with
  | .boolean value => (choices.selectBoolean value, m)
  | .number value => (choices.selectNumeric value, m)
  | .text value =>
    let (patterns, m) := m.patternsKept
    (choices.selectText patterns value, m)

/-- The chosen message, unless the text is empty, and the message with what it keeps now. -/
def choiceKept (m : Message) (reference : Reference) : Option Message × Message :=
  if m.text = [] then (none, m)
  else
    let (text, kept) := m.selectKept reference
    (some (ofText text m.options), kept)

/-- The chosen text with values filled in, and the message with what it keeps now. It is empty
for an empty text. -/
def formatChoiceKept (m : Message) (reference : Reference) (values : Values) : Text × Message :=
  let (chosen, kept) := m.choiceKept reference
  match chosen with
  | none => ([], kept)
  | some chosen => (if values.isEmpty then chosen.text else fill chosen.text values, kept)

/-- The choices of the text. -/
def choices (m : Message) : Choices := m.choicesKept.1

/-- The message that a reference chooses, unless the text is empty. -/
def choice? (m : Message) (reference : Reference) : Option Message := (m.choiceKept reference).1

/-- The chosen text with values filled in. -/
def formatChoice (m : Message) (reference : Reference) (values : Values) : Text :=
  (m.formatChoiceKept reference values).1

/-- The text with values filled in. -/
def format (m : Message) (values : Values) : Text := fill m.text values

/-- The warnings about the text. -/
def lint (m : Message) : List Warning := ChoiceTemplate.lint m.text m.options

end Message

/-- A text with values filled in. -/
def format (template : Text) (values : Values) : Text :=
  (Message.ofText template .standard).format values

/-- The text that a reference chooses, with values filled in. -/
def formatChoice (template : Text) (reference : Reference) (values : Values) : Text :=
  (Message.ofText template .standard).formatChoice reference values

/-- The text that a reference chooses. -/
def choose (template : Text) (reference : Reference) : Text :=
  formatChoice template reference .empty

/-- The text that a count chooses, with values filled in. -/
def formatChoiceCount (template : Text) (count : Int) (values : Values) : Text :=
  formatChoice template (.ofCount count) values

end ChoiceTemplate
