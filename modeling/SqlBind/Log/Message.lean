import SqlBind.Log.Directive

/-!
# Messages

The message of a log record is a template with arguments. Without arguments the template is the
message as it stands. Otherwise every percent sign begins a conversion (`SqlBind.Log.Directive`),
which takes the next argument; a doubled percent sign stands for one. A star in place of a width or
a precision takes an argument of its own. The arguments have to be as many as are taken.

If the only argument is a mapping that is not empty, conversions may name a key in parentheses and
take its value. A conversion without a key takes the mapping itself, or what is left of the value of
the key before; nothing need be taken at all. A mapping with a default keeps the keys that it was
asked for, so that the next message with the same arguments may look different.

## Main definitions

* `Supply`: the arguments that are left.
* `Cursor`: a place in a template, with the arguments left there.
* `Cursor.directive`: reads a conversion.
* `renderMessage`: the message of a template and its arguments.
* `argumentsAfter`: what becomes of the arguments.
-/

namespace SqlBind.Log

open Number Text

/-- The arguments that are left: a list, or a mapping with the one value that can be taken. -/
inductive Supply where
  | list (args : List Value)
  | mapping (m : Value) (available : Option Value)

namespace Supply

/-- Takes the next argument. -/
def next : Supply → Outcome (Value × Supply)
  | .list (v :: rest) => .ok (v, .list rest)
  | .mapping m (some v) => .ok (v, .mapping m none)
  | .list [] | .mapping _ none => templateFault .argumentsMissing

/-- Whether the template may end with these arguments left. -/
def mayEnd : Supply → Bool
  | .list args => args.isEmpty
  | .mapping .. => true

end Supply

/-- A place in a template: what is left of it, the offset, and the arguments left. -/
structure Cursor where
  rest : List Char
  index : Nat
  supply : Supply

namespace Cursor

/-- Passes over characters. -/
def skip (c : Cursor) (count : Nat) : Cursor :=
  { c with rest := c.rest.drop count, index := c.index + count }

/-- The length of a key up to the parenthesis that closes it, where `depth` are open. -/
def keyLength? (depth : Nat) : List Char → Option Nat
  | [] => none
  | c :: rest =>
    if c = ')' then if depth = 0 then some 0 else (keyLength? (depth - 1) rest).map (· + 1)
    else (keyLength? (if c = '(' then depth + 1 else depth) rest).map (· + 1)

/-- Reads a key in parentheses, if there is one, and makes its value the next argument; yields the
keys that were asked for, too. -/
def key (c : Cursor) : Outcome (Cursor × List String) :=
  match c.rest, c.supply with
  | '(' :: _, .list _ => templateFault .noMapping
  | '(' :: rest, .mapping m _ =>
    match keyLength? 0 rest with
    | none => templateFault .incompleteKey
    | some length =>
      let name := String.ofList (rest.take length)
      match m.fetch? (.str name) with
      | none => templateFault (.missingKey name)
      | some v => .ok ({ c.skip (length + 2) with supply := .mapping m (some v) }, [name])
  | _, _ => .ok (c, [])

/-- The greatest measure: that of a width, or of a precision. -/
def maxMeasure (isWidth : Bool) : Nat := twoTo (if isWidth then 63 else 31) - 1

/-- Takes a width or a precision from the arguments. -/
def takenMeasure (isWidth : Bool) (c : Cursor) : Outcome (Int × Cursor) := do
  let (v, supply) ← c.supply.next
  match v.integer? with
  | none => templateFault .measureNoInteger
  | some i =>
    if i ≤ maxMeasure isWidth && -(maxMeasure isWidth : Int) - 1 ≤ i then
      return (i, { c with supply })
    else templateFault (.measureBeyond isWidth)

/-- Reads a width or a precision: a star, digits, or nothing. -/
def measure (isWidth : Bool) (c : Cursor) : Outcome (Option Int × Cursor) :=
  match c.rest with
  | '*' :: _ => do
    let (i, c) ← takenMeasure isWidth (c.skip 1)
    return (some i, c)
  | rest =>
    let digits := rest.takeWhile Char.isDigit
    if digits.isEmpty then .ok (none, c)
    else if maxMeasure isWidth < digitsValue digits then templateFault (.measureTooBig isWidth)
    else .ok (some (digitsValue digits), c.skip digits.length)

/-- Reads a precision behind a point, if there is one. A negative one counts as zero. -/
def precision (c : Cursor) : Outcome (Option Nat × Cursor) :=
  match c.rest with
  | '.' :: _ => do
    let (i, c) ← (c.skip 1).measure false
    return (some (i.getD 0).toNat, c)
  | _ => .ok (none, c)

/-- Passes over one letter that says how large an argument is, which means nothing here. -/
def skipSize (c : Cursor) : Cursor :=
  match c.rest with
  | 'h' :: _ | 'l' :: _ | 'L' :: _ => c.skip 1
  | _ => c

/-- The characters that are flags. -/
def flagChars : List Char := ['-', '+', ' ', '#', '0']

/-- The size of a width. The least one has no opposite and counts as none. -/
def widthSize (width : Int) : Nat :=
  if width < -(maxMeasure true : Int) then 0 else width.natAbs

/-- Reads a conversion from behind its key: flags, width, precision, letter. A negative width fills
up on the right. -/
def directive (c : Cursor) : Outcome (Directive × Cursor) := do
  let flags := c.rest.takeWhile flagChars.contains
  let (width, c) ← (c.skip flags.length).measure true
  let (precision, c) ← c.precision
  let c := c.skipSize
  match c.rest with
  | [] => templateFault .incompleteConversion
  | letter :: _ =>
    let width := width.getD 0
    let d : Directive :=
      { left := flags.contains '-' || width < 0
        plus := flags.contains '+'
        blank := flags.contains ' '
        full := flags.contains '#'
        zeros := flags.contains '0'
        width := widthSize width
        precision, letter }
    return (d, c.skip 1)

/-- Reads a conversion from behind its key, and converts the next argument. -/
def converted (c : Cursor) : Outcome (CodeText × Cursor) := do
  let (d, c) ← c.directive
  let (v, supply) ← c.supply.next
  return (← d.convert (c.index - 1) v, { c with supply })

end Cursor

/-- What comes of filling a template: the text, and the keys that were asked for on the way. -/
structure Filled where
  text : Outcome CodeText
  asked : List String

/-- Puts a text in front of what was filled, after some keys were asked for. -/
def Filled.after (f : Filled) (asked : List String) (front : CodeText) : Filled :=
  ⟨f.text.map (front ++ ·), asked ++ f.asked⟩

/-- Fills a template from a place on, in at most `fuel` conversions. -/
def fillWithin : Nat → Cursor → Filled
  | 0, _ => ⟨.ok [], []⟩
  | fuel + 1, c =>
    let text := c.rest.takeWhile (· != '%')
    let front := CodeText.ofChars text
    let c := c.skip text.length
    match c.rest with
    | [] => ⟨if c.supply.mayEnd then .ok front else templateFault .argumentsLeft, []⟩
    | _ :: '%' :: _ => (fillWithin fuel (c.skip 2)).after [] (front ++ .ofChars ['%'])
    | _ =>
      match (c.skip 1).key with
      | .error fault => ⟨.error fault, []⟩
      | .ok (c, asked) =>
        match c.converted with
        | .error fault => ⟨.error fault, asked⟩
        | .ok (converted, c) => (fillWithin fuel c).after asked (front ++ converted)

/-- The arguments as a supply: a single mapping that is not empty supplies values by key. -/
def Supply.ofArgs (args : List Value) : Supply :=
  match args with
  | [v] => if v.isMapping && v.isTruthy then .mapping v (some v) else .list args
  | args => .list args

/-- What comes of filling a template with arguments. -/
def fill (template : String) (args : List Value) : Filled :=
  if args.isEmpty then ⟨.ok (.ofString template), []⟩
  else fillWithin (template.length + 1) ⟨template.toList, 0, .ofArgs args⟩

/-- The message of a template and its arguments. -/
def renderMessage (template : String) (args : List Value) : Outcome CodeText :=
  (fill template args).text

/-- The arguments of a template after its message was told. -/
def argumentsAfter (template : String) (args : List Value) : List Value :=
  args.map fun v => (fill template args).asked.foldl (fun m name => Value.asked (.str name) m) v

@[simp] theorem renderMessage_nil {template : String} :
    renderMessage template [] = .ok (.ofString template) := rfl

end SqlBind.Log
