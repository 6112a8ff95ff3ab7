/-!
What a TOML library does for a program.

A document is read as a tree (`Tree`), which other notations for settings have in common with TOML,
and it is written from named sections of keys with values. A library is a reader and a writer
(`Toml.Library`), and what a program may rely on is said by `Toml.Library.Faithful`: a document that
was written is read as the sections it was made of, and an integer outside the 64 bits with a sign
that TOML has is neither written nor read.
-/
namespace ClimateBus

/-- Data as written in a text. -/
inductive Tree where
  /-- Nothing, where a notation has a word for it. -/
  | absent
  | flag (b : Bool)
  | whole (i : Int)
  /-- A number with a point or an exponent, or none at all. -/
  | real
  /-- A date, a time, or both. -/
  | moment
  | text (s : String)
  | list (items : List Tree)
  | table (entries : List (String × Tree))
  deriving Repr, Inhabited

/-- A flag, an integer or a text. -/
def Tree.Elementary : Tree → Prop
  | .flag _ | .whole _ | .text _ => True
  | _ => False

namespace Toml

/-- Integers have 64 bits and a sign. -/
def fits (i : Int) : Bool := Int64.minValue.toInt ≤ i ∧ i ≤ Int64.maxValue.toInt

/-- All integers in a tree fit. -/
inductive IntegersFit : Tree → Prop
  | absent : IntegersFit .absent
  | flag (b : Bool) : IntegersFit (.flag b)
  | whole {i : Int} (h : fits i = true) : IntegersFit (.whole i)
  | real : IntegersFit .real
  | moment : IntegersFit .moment
  | text (s : String) : IntegersFit (.text s)
  | list {ts : List Tree} (h : ∀ t ∈ ts, IntegersFit t) : IntegersFit (.list ts)
  | table {entries : List (String × Tree)} (h : ∀ e ∈ entries, IntegersFit e.2) :
      IntegersFit (.table entries)

/-- A section: its name, and its keys with their values. -/
abbrev Section := String × List (String × Tree)

def isKeyChar (c : Char) : Bool := c.isAlphanum || c == '-' || c == '_'

/-- A name that needs no quotes to be a key. -/
def Bare (name : String) : Prop :=
  name.toList ≠ [] ∧ ∀ c ∈ name.toList, isKeyChar c = true

/-- The names in a document are bare, none stands twice in one place, and no value has parts. -/
structure WellFormed (sections : List Section) : Prop where
  names : (sections.map Prod.fst).Nodup
  bare : ∀ s ∈ sections, Bare s.1
  keys : ∀ s ∈ sections, (s.2.map Prod.fst).Nodup
  bareKeys : ∀ s ∈ sections, ∀ e ∈ s.2, Bare e.1
  values : ∀ s ∈ sections, ∀ e ∈ s.2, e.2.Elementary

/-- Reads documents and writes them. -/
class Library where
  /-- The tree of a document, if the text is one. -/
  read : String → Option Tree
  /-- A document of these sections, if all their values have a written form. -/
  write : List Section → Option String

/-- What a program relies on. -/
structure Library.Faithful (lib : Library) : Prop where
  /-- What is written is read back. -/
  read_write {sections : List Section} {text : String} (h : WellFormed sections)
    (hwrite : lib.write sections = some text) :
    lib.read text = some (.table (sections.map fun s => (s.1, .table s.2)))
  /-- Flags, texts and integers that fit have a written form, and other integers have none. -/
  write_isSome {sections : List Section} (h : WellFormed sections) :
    (lib.write sections).isSome ↔ ∀ s ∈ sections, ∀ e ∈ s.2, IntegersFit e.2
  /-- An integer that is read fits. -/
  integersFit {text : String} {t : Tree} (h : lib.read text = some t) : IntegersFit t

end Toml

end ClimateBus
