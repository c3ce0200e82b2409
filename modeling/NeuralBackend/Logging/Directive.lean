import NeuralBackend.Pattern.WellFormed
import NeuralBackend.Text.Bytes
import NeuralBackend.Text.Numeral
import NeuralBackend.Trace.Level

/-!
# Directives

A directive says how much is shown of what it applies to.  It is a level alone, or an address, or
the name of a span or a field in brackets, with or without an address before them.  An equals sign
and a level may follow all but the first; a directive without a level shows everything it applies
to.

* `threshold?` reads a level, by name or by number.
* `Directive.parse?` reads a directive.  Its form is found in the text without blanks at either end,
  and the text itself is then cut at the same distances in bytes from its own beginning;
  `Directive.Outline` holds the two side by side.  So blanks after a directive are part of a level
  or an address there, and blanks before it move every cut.
-/

namespace NeuralBackend

/-- How much is shown: nothing, or the levels up to one. -/
abbrev Threshold := Option Level

/-- Whether a threshold shows a level. -/
def Threshold.shows (t : Threshold) (level : Level) : Bool :=
  match t with
  | none => false
  | some limit => level.detail ≤ limit.detail

/-- The threshold that a number stands for, if any. -/
def thresholdOfNumber? : Nat → Option Threshold
  | 0 => some none
  | 1 => some (some .error)
  | 2 => some (some .warn)
  | 3 => some (some .info)
  | 4 => some (some .debug)
  | 5 => some (some .trace)
  | _ => none

/-- The threshold that a text stands for, if any.  Capital letters are as good as small ones. -/
def threshold? (s : List Char) : Option Threshold :=
  match Text.count? s with
  | some n => thresholdOfNumber? n
  | none =>
      match String.ofList (s.map Char.toLower) with
      | "off" => some none
      | "error" => some (some .error)
      | "warn" => some (some .warn)
      | "info" => some (some .info)
      | "debug" => some (some .debug)
      | "trace" => some (some .trace)
      | _ => none

/-- One directive of a filter. -/
structure Directive where
  address : Option String := none
  span : Option String := none
  /-- A field that an event must have. -/
  field : Option String := none
  /-- Whether the field must have a certain value. -/
  comparesValue : Bool := false
  threshold : Threshold := some .trace
  deriving DecidableEq, Repr, Inhabited

namespace Directive

/-! ## Reading -/

/-- What is left to read of a directive. -/
structure Outline where
  /-- What is left of the text without blanks at either end. -/
  form : List Char
  /-- What is left of the text itself, from the same number of bytes on. -/
  text : List Char
  deriving DecidableEq, Repr, Inhabited

namespace Outline

/-- The outline of a whole directive. -/
def ofText (s : List Char) : Outline := ⟨Text.trim s, s⟩

/-- The piece of the text before the next character of the form that satisfies `stops`, and the
rest. -/
def cut (o : Outline) (stops : Char → Bool) : List Char × Outline :=
  let n := Text.byteLength (o.form.takeWhile fun c => !stops c)
  (Text.takeBytes n o.text, ⟨o.form.dropWhile fun c => !stops c, Text.dropBytes n o.text⟩)

/-- Leaves out a character of one byte. -/
def next (o : Outline) : Outline := ⟨o.form.drop 1, Text.dropBytes 1 o.text⟩

end Outline

/-- Whether an address can begin with a character. -/
def isAddressStart (c : Char) : Bool := c ∈ ['-', ':', '_'] || Text.isAlphanumeric c

/-- The threshold after an equals sign; everything if none is written. -/
def level? (s : List Char) : Option Threshold :=
  if s = [] then some (some .trace) else threshold? s

/-- The directive with the threshold that may follow. -/
def withLevel? (d : Directive) (o : Outline) : Option Directive :=
  match o.form with
  | [] => some d
  | '=' :: _ => do
      let threshold ← level? o.next.text
      return { d with threshold }
  | _ => none

/-- Whether the value of a field can be looked for: a number, or else a pattern. -/
def isValue (s : List Char) : Bool := Pattern.isWellFormed s || Text.isDecimal s

/-- The directive with a field, and a value of it that an equals sign may introduce.  What follows a
second equals sign is left out. -/
def withField? (d : Directive) (s : List Char) : Option Directive :=
  let field := String.ofList (s.takeWhile (· != '='))
  match s.dropWhile (· != '=') with
  | _ :: value =>
      if isValue (value.takeWhile (· != '=')) then some { d with field, comparesValue := true }
      else none
  | [] => if s = [] then none else some { d with field }

/-- The directive with what stands in brackets after its address: the name of a span, or a field in
braces, or both. -/
def withBrackets? (d : Directive) (o : Outline) : Option Directive :=
  let (span, rest) := o.cut fun c => c == ']' || c == '\x7b'
  match rest.form with
  | ']' :: _ => { d with span := some (String.ofList span) }.withLevel? rest.next
  | '\x7b' :: _ =>
      let (field, rest) := rest.next.cut (· == '\x7d')
      match rest.form with
      | '\x7d' :: ']' :: _ => do
          let d := { d with span := if span = [] then none else some (String.ofList span) }
          let d ← d.withField? field
          d.withLevel? rest.next.next
      | _ => none
  | _ => none

/-- One directive.  A word alone is a level if it can be, and an address otherwise. -/
def parse? (s : List Char) : Option Directive :=
  let o := Outline.ofText s
  match o.form with
  | [] => none
  | '[' :: _ => withBrackets? {} o.next
  | first :: _ =>
      if isAddressStart first then
        let (address, rest) := o.cut fun c => c == '=' || c == '['
        let d : Directive := { address := some (String.ofList address) }
        match rest.form with
        | [] =>
            match threshold? o.text with
            | some threshold => some { threshold }
            | none => some { address := some (String.ofList o.text) }
        | '[' :: _ => d.withBrackets? rest.next
        | _ => d.withLevel? rest
      else none

/-! ## What a directive applies to -/

/-- Whether a directive looks at the surroundings of an event and not only at the event. -/
def isContextual (d : Directive) : Bool := d.span.isSome || d.comparesValue

/-- Whether a directive names a span by itself, whatever the span's fields. -/
def namesSpan (d : Directive) (name : String) : Bool := d.field.isNone && d.span == some name

/-- Whether the directive's address, if it has one, is a beginning of `address`. -/
def admitsAddress (d : Directive) (address : String) : Bool :=
  match d.address with
  | none => true
  | some start => address.startsWith start

/-- How much of an address a directive asks for. -/
def addressLength (d : Directive) : Nat :=
  match d.address with
  | none => 0
  | some start => start.length + 1

/-- Whether the field of a directive is at least as precise as that of another: any field is more
precise than none, and of two fields the one that comes later in a dictionary is. -/
def fieldAtLeast (d e : Directive) : Bool :=
  match e.field, d.field with
  | none, _ => true
  | some _, none => false
  | some f, some g => decide (f ≤ g)

/-- Whether a directive is at least as precise as another: by the length of its address, and then by
its field. -/
def atLeast (d e : Directive) : Bool :=
  decide (e.addressLength < d.addressLength) ||
    (e.addressLength == d.addressLength && d.fieldAtLeast e)

end Directive

end NeuralBackend
