/-!
Reading options from the words of a command line.

The words of one level are read from the left up to the first that is neither an option nor the
value of one. A level is given by its options, each of which says what it does to the record that
is being filled in.
-/
namespace ClimateBus.Console

/-- Why a command line is not carried out. -/
inductive Stop where
  | usage
  | help
  | version
  deriving DecidableEq, Repr

/-- What an option does to the record of its level. -/
inductive Effect (σ : Type) where
  | flag (set : σ → Except Stop σ)
  /-- With `negative`, the value may be a number with a minus sign. -/
  | value (negative : Bool) (set : String → σ → Except Stop σ)

structure Opt (σ : Type) where
  long : String
  short : Option Char := none
  effect : Effect σ

namespace Opt

variable {σ τ α : Type}

/-- A flag that may be given once. -/
def once (long : String) (short : Option Char) (get : σ → Bool) (set : σ → σ) : Opt σ where
  long := long
  short := short
  effect := .flag fun s => if get s then .error .usage else .ok (set s)

/-- An option that may be given once, with a value that `read` accepts. -/
def single (long : String) (short : Option Char) (negative : Bool) (read : String → Option α)
    (get : σ → Option α) (set : σ → α → σ) : Opt σ where
  long := long
  short := short
  effect := .value negative fun text s =>
    match get s, read text with
    | none, some v => .ok (set s v)
    | _, _ => .error .usage

/-- An option that may be given several times. -/
def repeated (long : String) (short : Option Char) (read : String → Option α)
    (add : σ → α → σ) : Opt σ where
  long := long
  short := short
  effect := .value false fun text s =>
    match read text with
    | some v => .ok (add s v)
    | none => .error .usage

def stopping (long : String) (short : Option Char) (stop : Stop) : Opt σ where
  long := long
  short := short
  effect := .flag fun _ => .error stop

/-- The same option on a part of a larger record. -/
def on (get : τ → σ) (set : τ → σ → τ) (o : Opt σ) : Opt τ where
  long := o.long
  short := o.short
  effect := match o.effect with
    | .flag f => .flag fun t => (f (get t)).map (set t)
    | .value negative f => .value negative fun text t => (f text (get t)).map (set t)

end Opt

/-- A word of a command line by the way it is written. -/
inductive Word where
  /-- Two hyphens: what follows are no options. -/
  | close
  | long (name : List Char) (value : Option (List Char))
  | short (letters : List Char)
  | plain

def Word.ofChars : List Char → Word
  | ['-', '-'] => .close
  | '-' :: '-' :: rest =>
    match rest.dropWhile (· != '=') with
    | '=' :: value => .long (rest.takeWhile (· != '=')) (some value)
    | _ => .long rest none
  | '-' :: c :: rest => .short (c :: rest)
  | _ => .plain

/-- A number as it may follow a minus sign: digits, with a point and an exponent that do not come
first or last, the point before the exponent. -/
def isNumber (cs : List Char) : Bool :=
  let rest (cs : List Char) := cs.dropWhile Char.isDigit
  let exponent : List Char → Bool
    | [] => true
    | 'e' :: digits => !digits.isEmpty && digits.all Char.isDigit
    | _ => false
  match cs with
  | c :: _ =>
    c.isDigit && match rest cs with
      | '.' :: cs => exponent (rest cs)
      | cs => exponent cs
  | [] => false

/-- The word can be the value of the option before it. -/
def isValue (negative : Bool) (word : String) : Bool :=
  match Word.ofChars word.toList with
  | .plain => true
  | .short letters => negative && isNumber letters
  | _ => false

/-- What is left to do after an option has been read. -/
inductive Step (σ : Type) where
  | done (s : σ)
  | awaiting (negative : Bool) (set : String → σ → Except Stop σ) (s : σ)

variable {σ : Type}

/-- Reads letters behind one hyphen: flags, then perhaps an option with its value. -/
def readLetters (opts : List (Opt σ)) : List Char → σ → Except Stop (Step σ)
  | [], s => .ok (.done s)
  | c :: rest, s =>
    match opts.find? (·.short = some c) with
    | none => .error .usage
    | some o =>
      match o.effect with
      | .flag set => do readLetters opts rest (← set s)
      | .value negative set =>
        match rest with
        | [] => .ok (.awaiting negative set s)
        | '=' :: value => .done <$> set (String.ofList value) s
        | value => .done <$> set (String.ofList value) s

def readLong (opts : List (Opt σ)) (name : List Char) (value : Option (List Char)) (s : σ) :
    Except Stop (Step σ) :=
  match opts.find? (·.long = String.ofList name) with
  | none => .error .usage
  | some o =>
    match o.effect, value with
    | .flag set, none => .done <$> set s
    | .flag _, some _ => .error .usage
    | .value negative set, none => .ok (.awaiting negative set s)
    | .value _ set, some value => .done <$> set (String.ofList value) s

/-- Reads the options at the front of a command line; gives the first other word, if there is one,
and what stands behind it. -/
def readLevel (opts : List (Opt σ)) : List String → σ → Except Stop (σ × Option (String × List String))
  | [], s => .ok (s, none)
  | word :: rest, s => do
    let finish (step : Step σ) : Except Stop (σ × Option (String × List String)) :=
      match step, rest with
      | .done s, rest => readLevel opts rest s
      | .awaiting negative set s, value :: rest =>
        if isValue negative value then do readLevel opts rest (← set value s)
        else .error .usage
      | .awaiting _ _ _, [] => .error .usage
    match Word.ofChars word.toList with
    | .plain => .ok (s, some (word, rest))
    | .close => if rest.isEmpty then .ok (s, none) else .error .usage
    | .long name value => do finish (← readLong opts name value s)
    | .short letters => do finish (← readLetters opts letters s)

end ClimateBus.Console
